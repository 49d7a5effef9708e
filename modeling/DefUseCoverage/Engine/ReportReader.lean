import DefUseCoverage.Engine.Report
import DefUseCoverage.Text.Blank
import DefUseCoverage.Text.Quoted
import DefUseCoverage.Text.Utf8
import DefUseCoverage.Json.Double
/-!
# Reading reports, with diagnoses

An engine's output is read as a report in one pass over its bytes, and when it is not one the
reader says why and where, the way a streaming JSON reader does:

* the text of the first problem met, such as `expected value`, `EOF while parsing a string`,
  `invalid type: integer `5`, expected a sequence` or `missing field `field``;
* the place, as `at line L column C`: lines count from one, and the column is the number of
  bytes of the line read before the place (so the first byte of a line is column one when
  the problem is found by looking at it, column zero when found before it).

Values are checked as they are read, so a report that goes wrong early is diagnosed there even
when more is wrong later. A report is an object or an array of its two lists (`covered`, then
`observed`, both optional); a candidate is an object or an array of its three texts; an
observed entity has a kind (`"field"` or `"method"`, or an object of one of them with `null`),
a name and a declaring type. Unknown members of objects are skipped but must be valid JSON.
Output made only of ASCII blanks is an empty report.
-/

namespace DefUseCoverage.ReportReader

/-- The bytes being read. -/
abbrev Bytes := Array UInt8

/-- A problem: its text, and the offset it is reported at, when it has been placed. -/
structure Fault where
  /-- What is wrong. -/
  text : String
  /-- The offset it is reported at. -/
  offset? : Option Nat := none

/-- A result with the offset after what was read. -/
abbrev Res (α : Type) := Except Fault (α × Nat)

/-- Line and column of an offset. -/
def location (b : Bytes) (i : Nat) : Nat × Nat :=
  let (lines, start, _) := (b.toList.take i).foldl (fun (l, s, k) c =>
    if c == 10 then (l + 1, k + 1, k + 1) else (l, s, k + 1)) (0, 0, 0)
  (lines + 1, i - start)

/-- A problem's text with its place. -/
def Fault.message (b : Bytes) (f : Fault) : String :=
  match f.offset? with
  | some i =>
    let (l, c) := location b i
    f.text ++ " at line " ++ toString l ++ " column " ++ toString c
  | none => f.text

/-- A problem found after reading up to offset `i`. -/
def fault (text : String) (i : Nat) : Fault := { text := text, offset? := some i }

/-- A problem found by looking at the byte at offset `i`. -/
def peekFault (b : Bytes) (text : String) (i : Nat) : Fault :=
  { text := text, offset? := some (min b.size (i + 1)) }

/-- Whether a byte is a blank between tokens. -/
def isBlank (c : UInt8) : Bool := c == 32 || c == 10 || c == 9 || c == 13

/-- The offset of the first byte from `i` that is not a blank. -/
def skipBlanks (b : Bytes) (i : Nat) : Nat :=
  if h : i < b.size then
    if isBlank b[i] then skipBlanks b (i + 1) else i
  else i
termination_by b.size - i

/-- Whether a byte is a decimal digit. -/
def isDigit (c : UInt8) : Bool := 48 ≤ c && c ≤ 57

/-- The value of a hexadecimal digit. -/
def hexValue (c : UInt8) : Option Nat :=
  if 48 ≤ c && c ≤ 57 then some (c.toNat - 48)
  else if 97 ≤ c && c ≤ 102 then some (c.toNat - 87)
  else if 65 ≤ c && c ≤ 70 then some (c.toNat - 55)
  else none

/-- Four hexadecimal digits at offset `i`. -/
def hex4 (b : Bytes) (i : Nat) : Res Nat :=
  if i + 4 ≤ b.size then
    match hexValue b[i]!, hexValue b[i+1]!, hexValue b[i+2]!, hexValue b[i+3]! with
    | some p, some q, some r, some s => .ok (p * 4096 + q * 256 + r * 16 + s, i + 4)
    | _, _, _, _ => .error (fault "invalid escape" (i + 4))
  else .error (fault "EOF while parsing a string" b.size)

/-- The UTF-8 bytes of a code point. -/
def utf8Of (n : Nat) : List UInt8 := Utf8.encode (String.singleton (Char.ofNat n))

/-- The length of the well-formed UTF-8 sequence that starts at offset `i` with a byte at or
above 0x80, or `none` when the bytes there are ill-formed. -/
def sequenceAt (b : Bytes) (i : Nat) : Option Nat :=
  match b[i]? with
  | none => none
  | some c =>
    match Utf8.secondRange c, b[i+1]? with
    | some (lo, hi), some d =>
      let n := Utf8.seqLength c
      let tails := (List.range (n - 2)).all fun k => (b[i+2+k]?.map Utf8.isTail).getD false
      if lo ≤ d && d ≤ hi && tails then some n else none
    | _, _ => none

/-- Reads the rest of a string after its opening quote: its bytes so far (reversed), then the
text and the offset after the closing quote. The fuel bounds the bytes read. -/
def readStrFrom (b : Bytes) : Nat → List UInt8 → Nat → Res String
  | 0, _, i => .error (fault "EOF while parsing a string" i)
  | fuel + 1, acc, i =>
    match b[i]? with
    | none => .error (fault "EOF while parsing a string" b.size)
    | some 34 =>
      match Utf8.decode? acc.reverse with
      | some s => .ok (s, i + 1)
      | none => .error (fault "invalid unicode code point" (i + 1))
    | some 92 =>
      match b[i+1]? with
      | none => .error (fault "EOF while parsing a string" b.size)
      | some e =>
        let j := i + 2
        let simple : Option UInt8 := match e with
          | 34 => some 34 | 92 => some 92 | 47 => some 47 | 98 => some 8 | 102 => some 12
          | 110 => some 10 | 114 => some 13 | 116 => some 9 | _ => none
        match simple with
        | some v => readStrFrom b fuel (v :: acc) j
        | none =>
          if e != 117 then .error (fault "invalid escape" j) else
          match hex4 b j with
          | .error f => .error f
          | .ok (n, k) =>
            if 0xDC00 ≤ n && n ≤ 0xDFFF then .error (fault "lone leading surrogate in hex escape" k)
            else if n < 0xD800 || n > 0xDBFF then readStrFrom b fuel ((utf8Of n).reverse ++ acc) k
            else match b[k]? with
              | none => .error (fault "EOF while parsing a string" b.size)
              | some c =>
                if c != 92 then .error (fault "unexpected end of hex escape" (k + 1)) else
                match b[k+1]? with
                | none => .error (fault "EOF while parsing a string" b.size)
                | some d =>
                  if d != 117 then .error (fault "unexpected end of hex escape" (k + 2)) else
                  match hex4 b (k + 2) with
                  | .error f => .error f
                  | .ok (m, l) =>
                    if m < 0xDC00 || m > 0xDFFF then .error (fault "lone leading surrogate in hex escape" l)
                    else
                      let cp := ((n - 0xD800) * 1024 + (m - 0xDC00)) + 0x10000
                      readStrFrom b fuel ((utf8Of cp).reverse ++ acc) l
    | some c =>
      if c < 32 then .error (fault "control character (\\u0000-\\u001F) found while parsing a string" (i + 1))
      else if c < 0x80 then readStrFrom b fuel (c :: acc) (i + 1)
      else match sequenceAt b i with
        | some n => readStrFrom b fuel ((b.extract i (i + n)).toList.reverse ++ acc) (i + n)
        | none => .error (fault "invalid unicode code point" (i + 1))

/-- Reads a string whose opening quote is before offset `i`. -/
def readStr (b : Bytes) (i : Nat) : Res String := readStrFrom b (b.size + 1) [] i

/-- Skips the rest of a string after its opening quote, checking only its escapes and
control characters. -/
def skipStrFrom (b : Bytes) : Nat → Nat → Except Fault Nat
  | 0, i => .error (fault "EOF while parsing a string" i)
  | fuel + 1, i =>
    match b[i]? with
    | none => .error (fault "EOF while parsing a string" b.size)
    | some 34 => .ok (i + 1)
    | some 92 =>
      match b[i+1]? with
      | none => .error (fault "EOF while parsing a string" b.size)
      | some e =>
        let j := i + 2
        if [34, 92, 47, 98, 102, 110, 114, 116].contains e then skipStrFrom b fuel j
        else if e == 117 then
          match hex4 b j with
          | .ok (_, k) => skipStrFrom b fuel k
          | .error f => .error f
        else .error (fault "invalid escape" j)
    | some c =>
      if c < 32 then .error (fault "control character (\\u0000-\\u001F) found while parsing a string" i)
      else skipStrFrom b fuel (i + 1)

/-- Reads the bytes of a literal word (the rest of `null`, `true` or `false`). -/
def readWord (b : Bytes) : List UInt8 → Nat → Except Fault Nat
  | [], i => .ok i
  | w :: ws, i =>
    match b[i]? with
    | none => .error (fault "EOF while parsing a value" b.size)
    | some c => if c != w then .error (fault "expected ident" (i + 1)) else readWord b ws (i + 1)

/-- The offset after the digits from `i`. -/
def skipDigits (b : Bytes) (i : Nat) : Nat :=
  if h : i < b.size then
    if isDigit b[i] then skipDigits b (i + 1) else i
  else i
termination_by b.size - i

/-- A number as the reader takes it: an integer that fits 64 bits, or a binary64 value. -/
inductive Number where
  /-- A non-negative integer below `2^64`. -/
  | unsigned (n : Nat)
  /-- A negative integer of at least `-2^63`. -/
  | signed (n : Int)
  /-- A binary64 value with its sign. -/
  | float (negative : Bool) (m : Double.Magnitude)

/-- How a type error names a number. -/
def Number.describe : Number → String
  | .unsigned n => "integer `" ++ toString n ++ "`"
  | .signed n => "integer `" ++ toString n ++ "`"
  | .float negative m => "floating point `" ++ Double.render negative m ++ "`"

/-- The largest 64-bit unsigned integer. -/
def u64Max : Nat := 18446744073709551615

/-- The largest 32-bit signed integer, the bound of an exponent. -/
def i32Max : Nat := 2147483647

/-- Whether `acc * 10 + d` passes `limit`. -/
def overflows (acc d limit : Nat) : Bool := acc ≥ limit / 10 && (acc > limit / 10 || d > limit % 10)

/-- An exponent held in 32 bits, saturating at the ends. -/
def saturate (x : Int) : Int := max (-2147483648) (min 2147483647 x)

/-- The binary64 value of `significand × 10^exponent`, read up to offset `i`; out of range is
an error there. -/
def finishFloat (negative : Bool) (significand : Nat) (exponent : Int) (i : Nat) : Res Number :=
  match Double.fromParts significand exponent with
  | some m => .ok (.float negative m, i)
  | none => .error (fault "number out of range" i)

/-- Whether a byte starts an exponent. -/
def isExponentMark (c : Option UInt8) : Bool := c == some 101 || c == some 69

/-- The digits of an exponent from offset `i`, with its value so far. An exponent that passes
32 bits makes the number out of range (at the digit that passed) when it is positive and the
significand is not zero, and makes it zero otherwise, its other digits skipped. -/
def exponentDigits (b : Bytes) (negative : Bool) (significand : Nat) (start : Int)
    (positiveExp : Bool) (exp : Nat) (i : Nat) : Res Number :=
  if h : i < b.size then
    if isDigit b[i] then
      let d := b[i].toNat - 48
      if overflows exp d i32Max then
        if significand != 0 && positiveExp then .error (fault "number out of range" (i + 1))
        else .ok (.float negative (.finite 0 0), skipDigits b (i + 1))
      else exponentDigits b negative significand start positiveExp (exp * 10 + d) (i + 1)
    else
      let final := if positiveExp then saturate (start + exp) else saturate (start - exp)
      finishFloat negative significand final i
  else
    let final := if positiveExp then saturate (start + exp) else saturate (start - exp)
    finishFloat negative significand final i
termination_by b.size - i

/-- Reads an exponent whose mark is at offset `i`, for `significand × 10^start`. -/
def readExponent (b : Bytes) (negative : Bool) (significand : Nat) (start : Int) (i : Nat) :
    Res Number :=
  let (positiveExp, j) := match b[i+1]? with
    | some 43 => (true, i + 2)
    | some 45 => (false, i + 2)
    | _ => (true, i + 1)
  match b[j]? with
  | none => .error (fault "EOF while parsing a value" b.size)
  | some c =>
    if !isDigit c then .error (fault "invalid number" (j + 1))
    else exponentDigits b negative significand start positiveExp (c.toNat - 48) (j + 1)

/-- The digits of a fraction from offset `i`: each one joins the significand and lowers the
exponent, until the significand would pass 64 bits; then the rest are skipped. At least one
digit must follow the point. -/
def fractionDigits (b : Bytes) (negative : Bool) (significand : Nat) (before after : Int)
    (i : Nat) : Res Number :=
  if h : i < b.size then
    if isDigit b[i] then
      let d := b[i].toNat - 48
      if overflows significand d u64Max then
        let k := skipDigits b i
        if isExponentMark b[k]? then readExponent b negative significand (before + after) k
        else finishFloat negative significand (before + after) k
      else fractionDigits b negative (significand * 10 + d) before (after - 1) (i + 1)
    else if after == 0 then .error (peekFault b "invalid number" i)
    else if isExponentMark b[i]? then readExponent b negative significand (before + after) i
    else finishFloat negative significand (before + after) i
  else if after == 0 then .error (peekFault b "EOF while parsing a value" i)
  else finishFloat negative significand (before + after) i
termination_by b.size - i

/-- Reads a fraction whose point is at offset `i`. -/
def readFraction (b : Bytes) (negative : Bool) (significand : Nat) (before : Int) (i : Nat) :
    Res Number :=
  fractionDigits b negative significand before 0 (i + 1)

/-- What follows the integer digits at offset `i`: a fraction, an exponent, or the end of an
integer. A negative integer below `-2^63`, and minus zero, are binary64 values. -/
def afterInteger (b : Bytes) (negative : Bool) (significand : Nat) (i : Nat) : Res Number :=
  if b[i]? == some 46 then readFraction b negative significand 0 i
  else if isExponentMark b[i]? then readExponent b negative significand 0 i
  else if !negative then .ok (.unsigned significand, i)
  else if 0 < significand && significand ≤ 9223372036854775808 then
    .ok (.signed (-(significand : Int)), i)
  else .ok (.float true (Double.ofNat significand), i)

/-- The digits of an integer from offset `i`, with its value so far. When the value would pass
64 bits, the digits kept are the significand and the others count towards the exponent. -/
def integerDigits (b : Bytes) (negative : Bool) (significand : Nat) (i : Nat) : Res Number :=
  if h : i < b.size then
    if isDigit b[i] then
      let d := b[i].toNat - 48
      if overflows significand d u64Max then
        let k := skipDigits b i
        let exponent : Int := k - i
        if b[k]? == some 46 then readFraction b negative significand exponent k
        else if isExponentMark b[k]? then readExponent b negative significand exponent k
        else finishFloat negative significand exponent k
      else integerDigits b negative (significand * 10 + d) (i + 1)
    else afterInteger b negative significand i
  else afterInteger b negative significand i
termination_by b.size - i

/-- Reads a number from offset `i` (after its minus sign, if `negative`): how a type error
names it, and the offset after it. -/
def readNumber (b : Bytes) (negative : Bool) (i : Nat) : Res String :=
  let read : Res Number :=
    match b[i]? with
    | none => .error (fault "EOF while parsing a value" b.size)
    | some 48 =>
      if (b[i+1]?.map isDigit).getD false then .error (peekFault b "invalid number" (i + 1))
      else afterInteger b negative 0 (i + 1)
    | some c =>
      if isDigit c then integerDigits b negative (c.toNat - 48) (i + 1)
      else .error (fault "invalid number" (i + 1))
  read.map fun (n, j) => (n.describe, j)

/-- Skips a number from offset `i` (after its minus sign), checking its form. -/
def skipNumber (b : Bytes) (i : Nat) : Except Fault Nat :=
  match b[i]? with
  | none => .error (fault "invalid number" b.size)
  | some c =>
    if !isDigit c then .error (fault "invalid number" (i + 1)) else
    if c == 48 && (b[i+1]?.map isDigit).getD false then .error (peekFault b "invalid number" (i + 1)) else
    let k := if c == 48 then i + 1 else skipDigits b (i + 1)
    let frac : Except Fault Nat :=
      if b[k]? == some 46 then
        let e := skipDigits b (k + 1)
        if e == k + 1 then .error (peekFault b "invalid number" e) else .ok e
      else .ok k
    match frac with
    | .error f => .error f
    | .ok k =>
      if b[k]? == some 101 || b[k]? == some 69 then
        let s := if b[k+1]? == some 45 || b[k+1]? == some 43 then k + 2 else k + 1
        match b[s]? with
        | some d => if isDigit d then .ok (skipDigits b s) else .error (fault "invalid number" (s + 1))
        | none => .error (fault "invalid number" b.size)
      else .ok k

/-- Skips one value of any kind from offset `i`, with a stack of the arrays (`[`) and
objects (`{`) it is inside. The fuel bounds the steps. -/
def skipValueWith (b : Bytes) : Nat → List UInt8 → Nat → Except Fault Nat
  | 0, _, i => .error (fault "recursion limit exceeded" i)
  | fuel + 1, stack, i =>
    let i := skipBlanks b i
    let scalar (r : Except Fault Nat) : Except Fault (Option UInt8 × Nat) := r.map (none, ·)
    let step : Except Fault (Option UInt8 × Nat) :=
      match b[i]? with
      | none => .error (peekFault b "EOF while parsing a value" i)
      | some 110 => scalar (readWord b [117, 108, 108] (i + 1))
      | some 116 => scalar (readWord b [114, 117, 101] (i + 1))
      | some 102 => scalar (readWord b [97, 108, 115, 101] (i + 1))
      | some 45 => scalar (skipNumber b (i + 1))
      | some 34 => scalar (skipStrFrom b (b.size + 1) (i + 1))
      | some 91 => .ok (some 91, i + 1)
      | some 123 => .ok (some 123, i + 1)
      | some c => if isDigit c then scalar (skipNumber b i) else .error (peekFault b "expected value" i)
    match step with
    | .error f => .error f
    | .ok (opened, i) =>
      -- the frame to continue in, and whether a comma may come
      let start : Option (UInt8 × Bool × List UInt8) :=
        match opened, stack with
        | some fr, st => some (fr, false, st)
        | none, fr :: st => some (fr, true, st)
        | none, [] => none
      match start with
      | none => .ok i
      | some (frame, comma, st) =>
        match closeFrames b fuel frame comma st i with
        | .error f => .error f
        | .ok (none, i) => .ok i
        | .ok (some (frame, st), i) =>
          if frame == 123 then
            let k := skipBlanks b i
            match b[k]? with
            | some 34 =>
              match skipStrFrom b (b.size + 1) (k + 1) with
              | .error f => .error f
              | .ok k =>
                let k := skipBlanks b k
                match b[k]? with
                | some 58 => skipValueWith b fuel (frame :: st) (k + 1)
                | some _ => .error (peekFault b "expected `:`" k)
                | none => .error (peekFault b "EOF while parsing an object" k)
            | some _ => .error (peekFault b "key must be a string" k)
            | none => .error (peekFault b "EOF while parsing an object" k)
          else skipValueWith b fuel (frame :: st) i
where
  /-- After a value inside `frame`: closes finished arrays and objects; the frame a next value
  comes in, or `none` when the outermost value is done. -/
  closeFrames (b : Bytes) : Nat → UInt8 → Bool → List UInt8 → Nat → Except Fault (Option (UInt8 × List UInt8) × Nat)
    | 0, _, _, _, i => .error (fault "recursion limit exceeded" i)
    | fuel + 1, frame, comma, st, i =>
      let i := skipBlanks b i
      match b[i]? with
      | some 44 => if comma then .ok (some (frame, st), i + 1) else .ok (some (frame, st), i)
      | some c =>
        if (c == 93 && frame == 91) || (c == 125 && frame == 123) then
          match st with
          | [] => .ok (none, i + 1)
          | fr :: rest => closeFrames b fuel fr true rest (i + 1)
        else if comma then
          .error (peekFault b (if frame == 91 then "expected `,` or `]`" else "expected `,` or `\x7d`") i)
        else .ok (some (frame, st), i)
      | none =>
        .error (peekFault b (if frame == 91 then "EOF while parsing a list" else "EOF while parsing an object") i)

/-- Skips one value of any kind from offset `i`. -/
def skipValue (b : Bytes) (i : Nat) : Except Fault Nat := skipValueWith b (b.size + 2) [] i

/-- The problem with a value of the wrong type at offset `i`, after reading it to name it;
`expected` says what was wanted. -/
def wrongType (b : Bytes) (i : Nat) (expected : String) : Fault :=
  let named (what : String) (j : Nat) : Fault := fault ("invalid type: " ++ what ++ ", expected " ++ expected) j
  match b[i]? with
  | some 110 => match readWord b [117, 108, 108] (i + 1) with
    | .ok j => named "null" j
    | .error f => f
  | some 116 => match readWord b [114, 117, 101] (i + 1) with
    | .ok j => named "boolean `true`" j
    | .error f => f
  | some 102 => match readWord b [97, 108, 115, 101] (i + 1) with
    | .ok j => named "boolean `false`" j
    | .error f => f
  | some 45 => match readNumber b true (i + 1) with
    | .ok (d, j) => named d j
    | .error f => f
  | some 34 => match readStr b (i + 1) with
    | .ok (s, j) => named ("string " ++ Quoted.quote s) j
    | .error f => f
  | some 91 => named "sequence" i
  | some 123 => named "map" i
  | some c =>
    if isDigit c then
      match readNumber b false i with
      | .ok (d, j) => named d j
      | .error f => f
    else peekFault b "expected value" i
  | none => peekFault b "expected value" i

/-- Reads a text value. -/
def readText (b : Bytes) (i : Nat) : Res String :=
  let i := skipBlanks b i
  match b[i]? with
  | none => .error (peekFault b "EOF while parsing a value" i)
  | some 34 => readStr b (i + 1)
  | some _ => .error (wrongType b i "a string")

/-- Reads the name of a kind and checks it. -/
def readKindName (b : Bytes) (i : Nat) : Res Metadata.Kind :=
  let i := skipBlanks b i
  match b[i]? with
  | none => .error (peekFault b "EOF while parsing a value" i)
  | some 34 =>
    match readStr b (i + 1) with
    | .error f => .error f
    | .ok ("field", j) => .ok (.field, j)
    | .ok ("method", j) => .ok (.method, j)
    | .ok (s, j) => .error (fault ("unknown variant `" ++ s ++ "`, expected `field` or `method`") j)
  | some _ => .error (wrongType b i "variant identifier")

/-- Reads a kind: its name, or an object holding its name with `null`. -/
def readKind (b : Bytes) (i : Nat) : Res Metadata.Kind :=
  let i := skipBlanks b i
  match b[i]? with
  | some 34 => readKindName b i
  | some 123 =>
    match readKindName b (i + 1) with
    | .error f => .error f
    | .ok (k, j) =>
      let j := skipBlanks b j
      match b[j]? with
      | some 58 =>
        let u := skipBlanks b (j + 1)
        let unit : Except Fault Nat :=
          match b[u]? with
          | some 110 => readWord b [117, 108, 108] (u + 1)
          | some _ => .error (wrongType b u "unit")
          | none => .error (peekFault b "EOF while parsing a value" u)
        match unit with
        | .error f => .error f
        | .ok m =>
          let m := skipBlanks b m
          match b[m]? with
          | some 125 => .ok (k, m + 1)
          | some _ => .error (fault "expected value" m)
          | none => .error (fault "EOF while parsing an object" m)
      | some _ => .error (peekFault b "expected `:`" j)
      | none => .error (peekFault b "EOF while parsing an object" j)
  | some _ => .error (peekFault b "expected value" i)
  | none => .error (peekFault b "EOF while parsing a value" i)

/-- A field's value as read. -/
inductive Value where
  | text (s : String)
  | kind (k : Metadata.Kind)
  | candidates (cs : List Candidate)
  | observed (os : List Metadata.Observed)

/-- What a record is read into: its fields by number, whether absent fields are allowed
(else the number of the first absent one is a problem), and the record built. -/
structure Shape (α : Type) where
  /-- The name that type errors give it. -/
  name : String
  /-- The member names, in order. -/
  fields : List String
  /-- Reads the value of a field by number. -/
  field : Nat → Bytes → Nat → Res Value
  /-- Builds the record from the values read, or names the first missing field. -/
  build : List (Option Value) → Except String α
  /-- Whether an array may hold fewer items than there are fields. -/
  short : Bool

/-- Reads the next item of an array: `none` at its end (the `]` not read), or the item. -/
def nextItem (b : Bytes) (first : Bool) (i : Nat) (item : Nat → Res α) : Except Fault (Option α × Nat) :=
  let i := skipBlanks b i
  -- where the item starts, or `none` at the end of the array
  let start : Except Fault (Option Nat) :=
    match b[i]? with
    | some 93 => .ok none
    | some 44 => if first then .error (peekFault b "expected value" i) else .ok (some (skipBlanks b (i + 1)))
    | some _ => if first then .ok (some i) else .error (peekFault b "expected `,` or `]`" i)
    | none => .error (peekFault b "EOF while parsing a list" i)
  match start with
  | .error f => .error f
  | .ok none => .ok (none, i)
  | .ok (some j) =>
    match b[j]? with
    | some 93 => .error (peekFault b "trailing comma" j)
    | some _ =>
      match item j with
      | .ok (v, k) => .ok (some v, k)
      | .error f => .error f
    | none => .error (peekFault b "EOF while parsing a value" j)

/-- The end of an array at offset `i`. -/
def endArray (b : Bytes) (i : Nat) : Except Fault Nat :=
  let i := skipBlanks b i
  match b[i]? with
  | some 93 => .ok (i + 1)
  | some 44 =>
    let j := skipBlanks b (i + 1)
    if b[j]? == some 93 then .error (peekFault b "trailing comma" j)
    else .error (peekFault b "trailing characters" j)
  | some _ => .error (peekFault b "trailing characters" i)
  | none => .error (peekFault b "EOF while parsing a list" i)

/-- Reads the items of an array after its `[`, each with `item`, until its end. The fuel
bounds the items. -/
def arrayItems (b : Bytes) (item : Nat → Res α) : Nat → Bool → List α → Nat → Except Fault (List α × Nat)
  | 0, _, _, i => .error (fault "recursion limit exceeded" i)
  | fuel + 1, first, acc, i =>
    match nextItem b first i item with
    | .error f => .error f
    | .ok (none, j) => .ok (acc.reverse, j)
    | .ok (some v, j) => arrayItems b item fuel false (v :: acc) j

/-- Reads a list: an array of items. -/
def readList (b : Bytes) (item : Nat → Res α) (i : Nat) : Res (List α) :=
  let i := skipBlanks b i
  match b[i]? with
  | none => .error (peekFault b "EOF while parsing a value" i)
  | some 91 =>
    match arrayItems b item (b.size + 1) true [] (i + 1) with
    | .error f => .error f
    | .ok (xs, j) =>
      match endArray b j with
      | .ok k => .ok (xs, k)
      | .error f => .error f
  | some _ => .error (wrongType b i "a sequence")

/-- Sets the value of a field by number. -/
def setField (vs : List (Option Value)) (k : Nat) (v : Value) : List (Option Value) :=
  vs.set k (some v)

/-- Reads the members of a record object after its `{`, until its `}` (not read). The fuel
bounds the members. -/
def members (b : Bytes) (s : Shape α) : Nat → Bool → List (Option Value) → Nat →
    Except Fault (List (Option Value) × Nat)
  | 0, _, _, i => .error (fault "recursion limit exceeded" i)
  | fuel + 1, first, vs, i =>
    let i := skipBlanks b i
    -- where the member starts, or `none` at the end of the object
    let start : Except Fault (Option Nat) :=
      match b[i]? with
      | some 125 => .ok none
      | some 44 => if first then .error (peekFault b "key must be a string" i) else .ok (some (skipBlanks b (i + 1)))
      | some _ => if first then .ok (some i) else .error (peekFault b "expected `,` or `\x7d`" i)
      | none => .error (peekFault b "EOF while parsing an object" i)
    match start with
    | .error f => .error f
    | .ok none => .ok (vs, i)
    | .ok (some j) =>
      match b[j]? with
      | some 34 =>
        match readStr b (j + 1) with
        | .error f => .error f
        | .ok (key, k) =>
          let colon : Except Fault Nat :=
            let c := skipBlanks b k
            match b[c]? with
            | some 58 => .ok (c + 1)
            | some _ => .error (peekFault b "expected `:`" c)
            | none => .error (peekFault b "EOF while parsing an object" c)
          match s.fields.idxOf? key with
          | some n =>
            if (vs.getD n none).isSome then
              -- the object's end is looked for before the problem is placed
              let p := skipBlanks b k
              let p := if b[p]? == some 125 then p + 1 else p
              .error (fault ("duplicate field `" ++ key ++ "`") p)
            else
              match colon with
              | .error f => .error f
              | .ok c =>
                match s.field n b c with
                | .error f => .error f
                | .ok (v, m) => members b s fuel false (setField vs n v) m
          | none =>
            match colon with
            | .error f => .error f
            | .ok c =>
              match skipValue b c with
              | .error f => .error f
              | .ok m => members b s fuel false vs m
      | some 125 => .error (peekFault b "trailing comma" j)
      | some _ => .error (peekFault b "key must be a string" j)
      | none => .error (peekFault b "EOF while parsing a value" j)

/-- Reads the items of a record array after its `[`: one per field while there are items. -/
def fieldItems (b : Bytes) (s : Shape α) : List Nat → Bool → List (Option Value) → Nat →
    Except Fault (List (Option Value) × Nat)
  | [], _, vs, i => .ok (vs, i)
  | n :: ns, first, vs, i =>
    match nextItem b first i (s.field n b) with
    | .error f => .error f
    | .ok (none, j) =>
      if s.short then .ok (vs, j)
      else .error (fault ("invalid length " ++ toString n ++ ", expected " ++ s.name ++ " with " ++
        toString s.fields.length ++ " elements") j)
    | .ok (some v, j) => fieldItems b s ns false (setField vs n v) j

/-- Reads a record: an object of its members or an array of its fields in order. -/
def readRecord (b : Bytes) (s : Shape α) (i : Nat) : Res α :=
  let i := skipBlanks b i
  let none' : List (Option Value) := s.fields.map fun _ => none
  match b[i]? with
  | none => .error (peekFault b "EOF while parsing a value" i)
  | some 123 =>
    match members b s (b.size + 1) true none' (i + 1) with
    | .error f => .error f
    | .ok (vs, j) =>
      -- the `}` is read before a missing field is reported
      match s.build vs with
      | .ok v => .ok (v, j + 1)
      | .error t => .error (fault t (j + 1))
  | some 91 =>
    match fieldItems b s (List.range s.fields.length) true none' (i + 1) with
    | .error f =>
      -- an array too short is reported after its `]`
      if f.text.startsWith "invalid length" then
        match f.offset? with
        | some j => .error { f with offset? := some (j + 1) }
        | none => .error f
      else .error f
    | .ok (vs, j) =>
      match endArray b j with
      | .error f => .error f
      | .ok k =>
        match s.build vs with
        | .ok v => .ok (v, k)
        | .error t => .error (fault t k)
  | some _ => .error (wrongType b i s.name)

/-- A text field's value, for `build`. -/
def textOf? : Option Value → Option String
  | some (.text s) => some s
  | _ => none

/-- The shape of a candidate. -/
def candidateShape : Shape Candidate where
  name := "struct Candidate"
  fields := ["field", "def_method", "use_method"]
  field _ b i := (readText b i).map fun (s, j) => (.text s, j)
  build vs :=
    match textOf? (vs.getD 0 none), textOf? (vs.getD 1 none), textOf? (vs.getD 2 none) with
    | some f, some d, some u => .ok ⟨f, d, u⟩
    | none, _, _ => .error "missing field `field`"
    | _, none, _ => .error "missing field `def_method`"
    | _, _, none => .error "missing field `use_method`"
  short := false

/-- The shape of an observed entity. -/
def observedShape : Shape Metadata.Observed where
  name := "struct ObservedEntity"
  fields := ["kind", "name", "declaring_type"]
  field n b i :=
    if n == 0 then (readKind b i).map fun (k, j) => (.kind k, j)
    else (readText b i).map fun (s, j) => (.text s, j)
  build vs :=
    match vs.getD 0 none, textOf? (vs.getD 1 none), textOf? (vs.getD 2 none) with
    | some (.kind k), some n, some t => .ok ⟨k, n, t⟩
    | none, _, _ => .error "missing field `kind`"
    | _, none, _ => .error "missing field `name`"
    | _, _, none => .error "missing field `declaring_type`"
    | _, _, _ => .error "missing field `kind`"
  short := false

/-- The shape of a report. -/
def reportShape : Shape Report where
  name := "struct CoverageReport"
  fields := ["covered", "observed"]
  field n b i :=
    if n == 0 then
      (readList b (readRecord b candidateShape) i).map fun (cs, j) => (.candidates cs, j)
    else (readList b (readRecord b observedShape) i).map fun (os, j) => (.observed os, j)
  build vs :=
    let covered := match vs.getD 0 none with
      | some (.candidates cs) => cs
      | _ => []
    let observed := match vs.getD 1 none with
      | some (.observed os) => os
      | _ => []
    .ok ⟨covered, observed⟩
  short := true

/-- Reads a report from an engine's output, or says what is wrong with it and where. -/
def read (bytes : List UInt8) : Except String Report :=
  if bytes.all (fun c => Blank.isAsciiSpace (Char.ofNat c.toNat)) then .ok {} else
  let b := bytes.toArray
  match readRecord b reportShape 0 with
  | .error f => .error (f.message b)
  | .ok (r, i) =>
    let j := skipBlanks b i
    if j < b.size then .error ((peekFault b "trailing characters" j).message b) else .ok r

end DefUseCoverage.ReportReader
