import DefUseCoverage.Text.Utf8
import DefUseCoverage.Decimal.Read
import DefUseCoverage.Decimal.Layout
/-!
# Formatted output: `echo` and `printf`

Both write bytes.

* `echo` joins its arguments with spaces and ends with a newline, unless the first argument is
  `-n`. Backslash escapes are always read: `\a \b \f \n \r \t \v \\`, `\0` with up to three
  octal digits, and `\c`, which ends all output (no newline follows).
* `printf` writes its format, reading the escapes above (with octal `\NNN` of one to three
  digits, and no `\c`) and the conversions `%%`, `%s`, `%b`, `%c`, `%d`, `%i`, `%u`, `%o`,
  `%x`, `%X`, with the flags `-`, `+`, space, `#` and `0`, a width and a precision, each
  possibly `*`. The format is used again while arguments are left and the last round took
  one. A missing argument counts as empty or zero. A number may be decimal, `0x` hexadecimal,
  octal with a leading `0`, or a quote and a character; a malformed number is reported and
  makes the status 1.

Widths and precisions count bytes.
-/

namespace DefUseCoverage.Shell.Format

/-- The bytes of a character. -/
def charBytes (c : Char) : List UInt8 := Utf8.encodeKeeping c.toString

/-- Whether a character is an octal digit. -/
def isOctal (c : Char) : Bool := '0' ≤ c && c ≤ '7'

/-- Up to `k` octal digits at the start of a text: their value and the text after them. -/
def octal : Nat → List Char → Nat → Nat × List Char
  | k + 1, c :: cs, v => if isOctal c then octal k cs (v * 8 + (c.toNat - 48)) else (v, c :: cs)
  | _, cs, v => (v, cs)

/-- The byte a simple escape letter stands for. -/
def escapeLetter (c : Char) : Option UInt8 :=
  if c == '\\' then some 92
  else if c == 'a' then some 7
  else if c == 'b' then some 8
  else if c == 'e' then some 27
  else if c == 'f' then some 12
  else if c == 'n' then some 10
  else if c == 'r' then some 13
  else if c == 't' then some 9
  else if c == 'v' then some 11
  else none

/-- Text with the escapes of `echo` and `%b` read: the bytes, and whether `\c` ended them.
The fuel bounds the steps; each step reads at least one character. -/
def escapesWith : Nat → List Char → List UInt8 × Bool
  | 0, _ => ([], false)
  | _, [] => ([], false)
  | _ + 1, '\\' :: 'c' :: _ => ([], true)
  | k + 1, '\\' :: '0' :: cs =>
    let (v, rest) := octal 3 cs 0
    let (bs, stop) := escapesWith k rest
    ((v % 256).toUInt8 :: bs, stop)
  | k + 1, '\\' :: c :: cs =>
    match escapeLetter c with
    | some b => let (bs, stop) := escapesWith k cs; (b :: bs, stop)
    | none =>
      if isOctal c then
        let (v, rest) := octal 3 (c :: cs) 0
        let (bs, stop) := escapesWith k rest
        ((v % 256).toUInt8 :: bs, stop)
      else let (bs, stop) := escapesWith k (c :: cs); (92 :: bs, stop)
  | k + 1, c :: cs => let (bs, stop) := escapesWith k cs; (charBytes c ++ bs, stop)

/-- Text with the escapes of `echo` and `%b` read: the bytes, and whether `\c` ended them. -/
def echoEscapes (cs : List Char) : List UInt8 × Bool := escapesWith (cs.length + 1) cs

/-- What `echo` writes for its arguments. -/
def echo (args : List String) : List UInt8 :=
  let (args, newline) := match args with
    | "-n" :: rest => (rest, false)
    | _ => (args, true)
  let rec go : List String → List UInt8
    | [] => if newline then [10] else []
    | [a] =>
      let (bs, stop) := echoEscapes a.toList
      if stop then bs else bs ++ (if newline then [10] else [])
    | a :: rest =>
      let (bs, stop) := echoEscapes a.toList
      if stop then bs else bs ++ 32 :: go rest
  go args

/-- A conversion of `printf`. -/
structure Spec where
  /-- Align to the left. -/
  left : Bool := false
  /-- Always write a sign. -/
  plus : Bool := false
  /-- Write a space for a missing sign. -/
  space : Bool := false
  /-- The alternative form. -/
  alt : Bool := false
  /-- Pad numbers with zeros. -/
  zero : Bool := false
  /-- The least width. -/
  width : Nat := 0
  /-- The precision. -/
  precision : Option Nat := none

/-- Bytes padded with spaces to a width. -/
def pad (s : Spec) (bs : List UInt8) : List UInt8 :=
  let fill := List.replicate (s.width - bs.length) (32 : UInt8)
  if s.left then bs ++ fill else fill ++ bs

/-- Digits of a number in a base, lowercase or uppercase. -/
def digitsIn (base : Nat) (upper : Bool) (v : Nat) : List Char :=
  let ds := Nat.toDigits base v
  if upper then ds.map Char.toUpper else ds

/-- A number written by a conversion: its sign, its digits and the flags. -/
def number (s : Spec) (conv : Char) (v : Int) : List UInt8 :=
  let signed := conv == 'd' || conv == 'i'
  let mag : Nat := if signed then v.natAbs else if v < 0 then (18446744073709551616 - v.natAbs) else v.toNat
  let base := if conv == 'o' then 8 else if conv == 'x' || conv == 'X' then 16 else 10
  let ds := digitsIn base (conv == 'X') mag
  let ds := match s.precision with
    | some 0 => if mag = 0 then [] else ds
    | some p => List.replicate (p - ds.length) '0' ++ ds
    | none => ds
  let ds := if s.alt && conv == 'o' && ds.head? != some '0' then '0' :: ds else ds
  let lead := if s.alt && mag ≠ 0 && conv == 'x' then "0x".toList
    else if s.alt && mag ≠ 0 && conv == 'X' then "0X".toList else []
  let sign := if !signed then []
    else if v < 0 then ['-'] else if s.plus then ['+'] else if s.space then [' '] else []
  let head := sign ++ lead
  let body := if s.zero && !s.left && s.precision.isNone then
      List.replicate (s.width - (head.length + ds.length)) '0' ++ ds
    else ds
  pad s (Utf8.encodeKeeping (String.ofList (head ++ body)))

/-- An integer at the start of a text, as the C library reads one with the base taken from the
text: blanks, an optional sign, then `0x` and hexadecimal digits, `0` and octal digits, or
decimal digits. The magnitude, whether it is negative, and the characters taken (none when no
digit starts the number). -/
def scanInteger (text : List Char) : Nat × Bool × Nat :=
  let cs := text.dropWhile Decimal.isBlank
  let (neg, body, signLen) := match cs with
    | '-' :: r => (true, r, 1)
    | '+' :: r => (false, r, 1)
    | r => (false, r, 0)
  let (base, ds) := match body with
    | '0' :: x :: h :: rest =>
      if (x == 'x' || x == 'X') && (Decimal.hexValue h).isSome then (16, h :: rest) else (8, body)
    | '0' :: _ => (8, body)
    | _ => (10, body)
  let run := ds.takeWhile fun c => (Decimal.hexValue c).any (· < base)
  let v := run.foldl (fun a c => a * base + (Decimal.hexValue c).getD 0) 0
  if run.isEmpty then (0, false, 0)
  else (v, neg, text.length - cs.length + signLen + (body.length - ds.length) + run.length)

/-- `2^64`. -/
def wordCount : Nat := 18446744073709551616

/-- `2^63`. -/
def signedLimit : Nat := 9223372036854775808

/-- Why a number argument is not wholly a number. -/
inductive NumberFault where
  /-- No number starts it. -/
  | notNumeric
  /-- A number starts it, and more follows. -/
  | trailing
  /-- The number is outside the range of the conversion. -/
  | outOfRange
deriving DecidableEq, Repr

/-- The warning for a number argument. -/
def NumberFault.message (arg : String) : NumberFault → String
  | .notNumeric => arg ++ ": expected numeric value"
  | .trailing => arg ++ ": not completely converted"
  | .outOfRange => arg ++ ": Numerical result out of range"

/-- The fault of an argument whose number took `used` characters, given whether it was in
range. -/
def faultOf (arg : String) (used : Nat) (inRange : Bool) : Option NumberFault :=
  if used < arg.length then some (if used == 0 then .notNumeric else .trailing)
  else if inRange then none else some .outOfRange

/-- The first byte of a character argument's text after its quote, or zero. -/
def quotedByte (rest : List Char) : Nat :=
  match rest with
  | c :: _ => ((charBytes c).headD 0).toNat
  | [] => 0

/-- A signed integer argument: a quote and a character give the character's first byte;
otherwise the integer is read and clamped to 64 bits, with its fault. -/
def readSigned (arg : String) : Int × Option NumberFault :=
  match arg.toList with
  | '\x27' :: rest | '"' :: rest => (quotedByte rest, none)
  | cs =>
    let (v, neg, used) := scanInteger cs
    let inRange := if neg then v ≤ signedLimit else v < signedLimit
    let v : Int := if neg then -(min v signedLimit : Int) else min v (signedLimit - 1)
    (v, faultOf arg used inRange)

/-- An unsigned integer argument: as `readSigned`, a negative number counting back from `2^64`
and a magnitude past 64 bits giving the largest word. -/
def readUnsigned (arg : String) : Nat × Option NumberFault :=
  match arg.toList with
  | '\x27' :: rest | '"' :: rest => (quotedByte rest, none)
  | cs =>
    let (v, neg, used) := scanInteger cs
    let inRange := v < wordCount
    let w := if !inRange then wordCount - 1 else if neg then (wordCount - v) % wordCount else v
    (w, faultOf arg used inRange)

/-- A floating-point argument: a quote and a character give the character's first byte;
otherwise the number is read and rounded to binary64, with its fault. -/
def readFloat (arg : String) : Decimal.Binary64 × Option NumberFault :=
  match arg.toList with
  | '\x27' :: rest | '"' :: rest => (.num false (Double.ofNat (quotedByte rest)), none)
  | cs =>
    match Decimal.Written.read? cs with
    | some (w, used) =>
      let (v, bad) := w.toBinary64
      (v, faultOf arg used !bad)
    | none => (.num false (.finite 0 0), faultOf arg 0 true)

/-- A signed number's text with its sign, padded by the flags: zeros go after the sign and a
prefix when asked for and allowed. -/
def signed (s : Spec) (negative : Bool) (pre : String) (body : String) (zeroOk : Bool) : List UInt8 :=
  let sign := if negative then "-" else if s.plus then "+" else if s.space then " " else ""
  let head := sign ++ pre
  let zeros := if s.zero && !s.left && zeroOk then s.width - (head.length + body.length) else 0
  pad s (Utf8.encodeKeeping (head ++ String.ofList (List.replicate zeros '0') ++ body))

/-- A finite number written by a floating-point conversion (`f`, `e`, `g`, `a`, or their
capitals), given exactly as `num / den` with its sign; the hexadecimal conversions write the
nearest binary64 value. -/
def exact (s : Spec) (conv : Char) (negative : Bool) (num den : Nat) : List UInt8 :=
  let upper := conv.isUpper
  let places := s.precision.getD 6
  let mark := if upper then 'E' else 'e'
  match conv.toLower with
  | 'f' => signed s negative "" (Decimal.fixed num den places s.alt) true
  | 'e' => signed s negative "" (Decimal.scientific num den places s.alt mark) true
  | 'g' => signed s negative "" (Decimal.general num den places s.alt mark) true
  | _ =>
    match Double.round num den 0 with
    | .finite m e =>
      let text := Decimal.hexadecimal m e s.precision s.alt upper
      signed s negative (String.ofList (text.toList.take 2)) (String.ofList (text.toList.drop 2)) true
    | .infinite => signed s negative "" (if upper then "INF" else "inf") false

/-- A binary64 number written by a floating-point conversion. -/
def float (s : Spec) (conv : Char) (v : Decimal.Binary64) : List UInt8 :=
  let word (w : String) := if conv.isUpper then w.toUpper else w
  match v with
  | .nan neg => signed s neg "" (word "nan") false
  | .num neg .infinite => signed s neg "" (word "inf") false
  | .num neg (.finite m e) =>
    let (num, den) := Double.scaled m 1 e
    exact s conv neg num den

/-- The result of `printf`: bytes written, messages, and the status. -/
structure Output where
  /-- Bytes for standard output. -/
  out : List UInt8 := []
  /-- Messages, without the command's name, in order. -/
  errors : List String := []
  /-- The status: 1 after a malformed number, 2 after a malformed format. -/
  status : Nat := 0
  /-- Whether output ended early: `\c` in a `%b` argument, or a malformed format. -/
  stopped : Bool := false

/-- The output with a number argument's fault reported. -/
def Output.note (o : Output) (arg : String) : Option NumberFault → Output
  | some f => { o with errors := o.errors ++ [f.message arg], status := max o.status 1 }
  | none => o

/-- The output ended by a malformed format. -/
def Output.fail (o : Output) (msg : String) : Output :=
  { o with errors := o.errors ++ [msg], status := 2, stopped := true }

/-- Flags of a conversion at the start of a text. -/
def flags : List Char → Spec → List Char × Spec
  | '-' :: cs, s => flags cs { s with left := true }
  | '+' :: cs, s => flags cs { s with plus := true }
  | ' ' :: cs, s => flags cs { s with space := true }
  | '#' :: cs, s => flags cs { s with alt := true }
  | '0' :: cs, s => flags cs { s with zero := true }
  | cs, s => (cs, s)

/-- A number from the decimal digits at the start of a text, and the text after them. -/
def leadingNumber (cs : List Char) : Nat × List Char :=
  let ds := cs.takeWhile Char.isDigit
  (ds.foldl (fun a (c : Char) => a * 10 + (c.toNat - 48)) 0, cs.drop ds.length)

/-- The next argument, if any, and the ones after it. -/
def nextArg : List String → Option String × List String
  | a :: rest => (some a, rest)
  | [] => (none, [])

/-- A `*` width or precision from the next argument. -/
def starArg (args : List String) (o : Output) : Int × List String × Output :=
  match args with
  | a :: rest => let (v, f) := readSigned a; (v, rest, o.note a f)
  | [] => (0, [], o)

/-- One conversion after its `%`, given the text after it: the output, the text and the
arguments left, and whether an argument was taken. -/
def conversion (cs : List Char) (args : List String) (o : Output) (took : Bool) :
    Output × List Char × List String × Bool :=
  let (afterFlags, spec) := flags cs {}
  let afterArgs := args
  let (afterWidth, spec, args, o, took) := match afterFlags with
    | '*' :: r =>
      let (w, args, o) := starArg args o
      let spec := if w < 0 then { spec with left := true, width := w.natAbs } else { spec with width := w.toNat }
      (r, spec, args, o, took || !afterArgs.isEmpty)
    | r => let (w, r) := leadingNumber r; (r, { spec with width := w }, args, o, took)
  let (rest, spec, args, o, took) := match afterWidth with
    | '.' :: '*' :: r =>
      let took := took || !args.isEmpty
      let (p, args, o) := starArg args o
      (r, { spec with precision := if p < 0 then none else some p.toNat }, args, o, took)
    | '.' :: r => let (p, r) := leadingNumber r; (r, { spec with precision := some p }, args, o, took)
    | r => (r, spec, args, o, took)
  match rest with
  | [] => (o.fail "missing format character", [], args, took)
  | conv :: after =>
    let directive := String.ofList ('%' :: cs.take (cs.length - after.length))
    let (arg, more) := nextArg args
    let took := took || arg.isSome
    let text := arg.getD ""
    if conv == 's' then
      let bs := Utf8.encodeKeeping text
      let bs := match spec.precision with
        | some p => bs.take p
        | none => bs
      ({ o with out := o.out ++ pad spec bs }, after, more, took)
    else if conv == 'b' then
      let (bs, stop) := echoEscapes text.toList
      let bs := match spec.precision with
        | some p => bs.take p
        | none => bs
      let o := { o with out := o.out ++ pad spec bs }
      if stop then ({ o with stopped := true }, after, more, took) else (o, after, more, took)
    else if conv == 'c' then
      let b : UInt8 := match text.toList with
        | c :: _ => (charBytes c).headD 0
        | [] => 0
      ({ o with out := o.out ++ pad spec [b] }, after, more, took)
    else if conv == 'd' || conv == 'i' then
      let (v, f) := readSigned text
      ({ (o.note text f) with out := o.out ++ number spec conv v }, after, more, took)
    else if conv == 'o' || conv == 'u' || conv == 'x' || conv == 'X' then
      let (v, f) := readUnsigned text
      ({ (o.note text f) with out := o.out ++ number spec conv (v : Int) }, after, more, took)
    else if "aAeEfFgG".toList.contains conv then
      let (v, f) := readFloat text
      ({ (o.note text f) with out := o.out ++ float spec conv v }, after, more, took)
    else (o.fail (directive ++ ": invalid directive"), after, args, took)

/-- One round through the format, with the arguments left: the output so far, the arguments
left and whether the round took one. The fuel bounds the steps; each step reads at least one
character of the format. -/
def round : Nat → List Char → List String → Output → Bool → Output × List String × Bool
  | 0, _, args, o, took => (o, args, took)
  | _, [], args, o, took => (o, args, took)
  | k + 1, '\\' :: cs, args, o, took =>
    match cs with
    | c :: rest =>
      match escapeLetter c with
      | some b => round k rest args { o with out := o.out ++ [b] } took
      | none =>
        if isOctal c then
          let (v, rest) := octal 3 (c :: rest) 0
          round k rest args { o with out := o.out ++ [(v % 256).toUInt8] } took
        else round k (c :: rest) args { o with out := o.out ++ [92] } took
    | [] => round k [] args { o with out := o.out ++ [92] } took
  | k + 1, '%' :: '%' :: cs, args, o, took => round k cs args { o with out := o.out ++ [37] } took
  | k + 1, '%' :: cs, args, o, took =>
    let (o, rest, args, took) := conversion cs args o took
    if o.stopped then (o, [], false) else round k rest args o took
  | k + 1, c :: cs, args, o, took => round k cs args { o with out := o.out ++ charBytes c } took

end DefUseCoverage.Shell.Format

namespace DefUseCoverage.Shell.Format

/-- What `printf` writes: the format used again while arguments are left and the last round
took one. The fuel bounds the rounds; each round but the last takes an argument. -/
def printfWith : Nat → List Char → List String → Output → Output
  | 0, _, _, o => o
  | k + 1, fmt, args, o =>
    let (o, rest, took) := round (fmt.length + 1) fmt args o false
    if o.stopped || rest.isEmpty || !took then o else printfWith k fmt rest o

/-- What `printf` writes for a format and its arguments. -/
def printf (fmt : String) (args : List String) : Output :=
  printfWith (args.length + 1) fmt.toList args {}

end DefUseCoverage.Shell.Format
