import DefUseCoverage.Shell.Tool.Version
/-!
# Sorting and merging lines

`sort` orders the lines of its files, comparing bytes as in the byte locale.

`sort` compares lines by its keys, then, when every key ties, by the whole line (unless `-s`
or `-u`). A key (`-k F[.C][OPTS][,F[.C][OPTS]]`) is a part of the line from a field and
character to a field and character; fields are separated by the `-t` character, or else each
field starts where blanks start before it. A key without options of its own takes the global
ones; global ordering options without a key make one key of the whole line. Orders: bytes,
`-n` (a leading decimal number, no number counting as zero), `-g` (a leading floating number,
no number first), `-h` (a number with a unit suffix), and `-f` (lowercase as uppercase), `-d`
(blanks and letters and digits only), `-i` (printing bytes only), `-b` (leading blanks
skipped), `-r` (reversed). The sort is stable, and `-u` keeps the first line of each run of
equal lines.
-/

namespace DefUseCoverage.Shell

namespace Tool

/-- Whether a byte is a blank: space or tab. -/
def isBlankByte (b : UInt8) : Bool := b == 32 || b == 9

/-- How one key compares. -/
structure SortOrder where
  /-- `-b`: leading blanks of the key's start are skipped. -/
  blanksStart : Bool := false
  /-- `-b` on the end: leading blanks of the key's end field are skipped. -/
  blanksEnd : Bool := false
  /-- `-d`: only blanks, letters and digits count. -/
  dictionary : Bool := false
  /-- `-f`: lowercase letters as uppercase. -/
  fold : Bool := false
  /-- `-i`: only printing bytes count. -/
  printing : Bool := false
  /-- `-n`: numeric. -/
  numeric : Bool := false
  /-- `-g`: general numeric. -/
  general : Bool := false
  /-- `-h`: numbers with unit suffixes. -/
  human : Bool := false
  /-- `-V`: version order. -/
  version : Bool := false
  /-- `-M`: month names. -/
  month : Bool := false
  /-- `-r`: reversed. -/
  reverse : Bool := false
deriving Inhabited

/-- Whether an order compares plain bytes (`-r` aside). -/
def SortOrder.plain (o : SortOrder) : Bool :=
  !(o.blanksStart || o.blanksEnd || o.dictionary || o.fold || o.printing || o.numeric || o.general ||
    o.human || o.version || o.month)

/-- A sort key: fields and characters counted from zero; `endField` `none` for the end of the
line, `endChar` zero for the end of its field. -/
structure SortKey where
  /-- The field it starts in. -/
  startField : Nat
  /-- The character of that field it starts at. -/
  startChar : Nat
  /-- The field it ends in, or the end of the line. -/
  endField : Option Nat
  /-- The character of that field it ends after; zero for the whole field. -/
  endChar : Nat
  /-- How it compares. -/
  order : SortOrder
deriving Inhabited

/-- Skipping one field from a position: without a separator, blanks then other bytes; with one,
up to and past the separator. -/
def skipField (tab : Option UInt8) (text : Array UInt8) (i : Nat) (pastTab : Bool) : Nat :=
  let n := text.size
  match tab with
  | some t =>
    let j := (List.range (n - i)).find? (fun k => text[i + k]! == t) |>.map (i + ·) |>.getD n
    if j < n && pastTab then j + 1 else j
  | none =>
    let j := (List.range (n - i)).find? (fun k => !isBlankByte text[i + k]!) |>.map (i + ·) |>.getD n
    (List.range (n - j)).find? (fun k => isBlankByte text[j + k]!) |>.map (j + ·) |>.getD n

/-- The position after leading blanks. -/
def skipBlanksFrom (text : Array UInt8) (i : Nat) : Nat :=
  (List.range (text.size - i)).find? (fun k => !isBlankByte text[i + k]!) |>.map (i + ·) |>.getD text.size

/-- The part of a line a key covers. -/
def keySpan (tab : Option UInt8) (k : SortKey) (line : Array UInt8) : List UInt8 :=
  let n := line.size
  let start := (List.range k.startField).foldl (fun i _ => if i < n then skipField tab line i true else i) 0
  let start := if k.order.blanksStart then skipBlanksFrom line start else start
  let start := min n (start + k.startChar)
  let stop := match k.endField with
    | none => n
    | some ef =>
      let words := if k.endChar == 0 then ef + 1 else ef
      let p := (List.range words).foldl (fun (acc : Nat × Nat) _ =>
        let (i, left) := acc
        if i < n then (skipField tab line i (left > 1 || k.endChar != 0), left - 1) else (i, left - 1)) (0, words)
      let p := p.1
      if k.endChar == 0 then p
      else
        let p := if k.order.blanksEnd then skipBlanksFrom line p else p
        min n (p + k.endChar)
  (line.extract start (max start stop)).toList

/-- A decimal number at the start of some bytes, after blanks: its sign, its digits before and
after the point; zero when there is none. -/
def leadingDecimal (bs : List UInt8) : Int × Nat :=
  let bs := bs.dropWhile isBlankByte
  let (neg, bs) := match bs with
    | 45 :: r => (true, r)
    | r => (false, r)
  let isDigit (b : UInt8) : Bool := 48 ≤ b && b ≤ 57
  let whole := bs.takeWhile isDigit
  let frac := match bs.drop whole.length with
    | 46 :: r => r.takeWhile isDigit
    | _ => []
  let digits := whole ++ frac
  let v : Nat := digits.foldl (fun a d => a * 10 + (d.toNat - 48)) 0
  ((if neg then -(v : Int) else v), frac.length)

/-- Comparing two decimals given as a value over a power of ten. -/
def compareScaled (a : Int × Nat) (b : Int × Nat) : Ordering :=
  compare (a.1 * (Nat.pow 10 b.2 : Nat)) (b.1 * (Nat.pow 10 a.2 : Nat))

/-- A number as `-g` reads it at the start of a key: nothing (a key that does not start with a
number), a NaN with its sign, an infinity, or a finite value as a fraction. Values beyond the
range of the long double the tool reads into are infinite, and values below it are zero. -/
inductive GeneralNumber where
  /-- No number. -/
  | none
  /-- Not a number, negative or not. -/
  | nan (negative : Bool)
  /-- An infinity. -/
  | infinite (negative : Bool)
  /-- A finite value `num / den`. -/
  | finite (num : Int) (den : Nat)

/-- Where a number ranks: no number first, then the NaNs (negative first), then the numbers. -/
def GeneralNumber.rank : GeneralNumber → Nat
  | .none => 0
  | .nan true => 1
  | .nan false => 2
  | .infinite true => 3
  | .finite _ _ => 4
  | .infinite false => 5

/-- Comparing two numbers as `-g` does. -/
def GeneralNumber.compare : GeneralNumber → GeneralNumber → Ordering
  | .finite a da, .finite b db => Ord.compare (a * (db : Int)) (b * (da : Int))
  | x, y => Ord.compare x.rank y.rank

/-- The value of a digit in a base up to 16. -/
def digitIn (base : Nat) (b : UInt8) : Option Nat :=
  let v := if 48 ≤ b && b ≤ 57 then some (b.toNat - 48)
    else if 97 ≤ b && b ≤ 102 then some (b.toNat - 87)
    else if 65 ≤ b && b ≤ 70 then some (b.toNat - 55)
    else none
  v.bind fun d => if d < base then some d else none

/-- Whether some bytes start with a word, in either case. -/
def startsWithWord (bs : List UInt8) (word : String) : Bool :=
  let w := word.toList.map fun c => c.toNat.toUInt8
  bs.length ≥ w.length && ((bs.take w.length).zip w).all fun (x, y) => x == y || x == y - 32

/-- A finite number `mantissa * base ^ exp` with a given number of digits in its mantissa, for
a base of 2 or 10: infinite beyond the range of a long double, zero below it. -/
def scaledNumber (negative : Bool) (mantissa : Nat) (digits : Nat) (base : Nat) (exp : Int) : GeneralNumber :=
  let top : Int := exp + digits
  let (high, low) : Int × Int := if base == 2 then (16385, -16445) else (4933, -4950)
  if mantissa == 0 then .finite 0 1
  else if top > high then .infinite negative
  else if top < low then .finite 0 1
  else
    let m : Int := if negative then -(mantissa : Int) else mantissa
    if exp ≥ 0 then .finite (m * (Nat.pow base exp.toNat : Nat)) 1
    else .finite m (Nat.pow base (-exp).toNat)

/-- An exponent after `e` or `p`: its value and whether there was one (a sign and digits). -/
def exponentPart (bs : List UInt8) : Option Int :=
  let (neg, r) := match bs with
    | 45 :: r => (true, r)
    | 43 :: r => (false, r)
    | r => (false, r)
  let ds := r.takeWhile fun b => 48 ≤ b && b ≤ 57
  if ds.isEmpty then none
  else
    let v : Nat := ds.foldl (fun a d => a * 10 + (d.toNat - 48)) 0
    some (if neg then -(v : Int) else v)

/-- The digits of a number in a base with an optional point: the digits before and after it. -/
def pointedDigits (base : Nat) (bs : List UInt8) : List Nat × List Nat × List UInt8 :=
  let whole := bs.takeWhile fun b => (digitIn base b).isSome
  let rest := bs.drop whole.length
  let (frac, rest) := match rest with
    | 46 :: r =>
      let f := r.takeWhile fun b => (digitIn base b).isSome
      (f, r.drop f.length)
    | r => ([], r)
  (whole.filterMap (digitIn base), frac.filterMap (digitIn base), rest)

/-- The number at the start of some bytes as `-g` reads it: after white space, a sign, then
`inf` or `infinity`, `nan`, a hexadecimal number after `0x` (with a binary exponent after
`p`), or a decimal number (with an exponent after `e`). -/
def generalNumber (bs : List UInt8) : GeneralNumber :=
  let bs := bs.dropWhile fun b => b == 32 || (9 ≤ b && b ≤ 13)
  let (negative, bs) := match bs with
    | 45 :: r => (true, r)
    | 43 :: r => (false, r)
    | r => (false, r)
  if startsWithWord bs "inf" then .infinite negative
  else if startsWithWord bs "nan" then .nan negative
  else
    let value (base : Nat) (whole frac : List Nat) (exp : Int) : GeneralNumber :=
      let ds := whole ++ frac
      let mantissa := ds.foldl (fun a d => a * base + d) 0
      let significant := (ds.dropWhile (· == 0)).length
      if base == 16 then scaledNumber negative mantissa (4 * significant) 2 (exp - 4 * (frac.length : Int))
      else scaledNumber negative mantissa significant 10 (exp - (frac.length : Int))
    let hex := match bs with
      | 48 :: x :: r =>
        if x == 120 || x == 88 then
          let (whole, frac, rest) := pointedDigits 16 r
          if whole.isEmpty && frac.isEmpty then Option.none
          else
            let exp := match rest with
              | p :: r => if p == 112 || p == 80 then (exponentPart r).getD 0 else 0
              | [] => 0
            some (value 16 whole frac exp)
        else Option.none
      | _ => Option.none
    match hex with
    | some v => v
    | Option.none =>
      let (whole, frac, rest) := pointedDigits 10 bs
      if whole.isEmpty && frac.isEmpty then .none
      else
        let exp := match rest with
          | e :: r => if e == 101 || e == 69 then (exponentPart r).getD 0 else 0
          | [] => 0
        value 10 whole frac exp

/-- The month a key starts with, after blanks: 1 to 12 for the first three letters of a month's
name in either case, 0 for none. -/
def monthOf (bs : List UInt8) : Nat :=
  let bs := bs.dropWhile isBlankByte
  let names := ["JAN", "FEB", "MAR", "APR", "MAY", "JUN", "JUL", "AUG", "SEP", "OCT", "NOV", "DEC"]
  ((names.findIdx? (startsWithWord bs ·.toLower)).map (· + 1)).getD 0

/-- A number with an optional unit suffix (`K`, `M`, `G`, ...): the sign, the power of the
unit, and the number. -/
def leadingHuman (bs : List UInt8) : Int × Nat × (Int × Nat) :=
  let d := leadingDecimal bs
  let rest := (bs.dropWhile isBlankByte)
  let rest := match rest with
    | 45 :: r => r
    | r => r
  let isNum (b : UInt8) : Bool := (48 ≤ b && b ≤ 57) || b == 46
  let suffix := (rest.dropWhile isNum).head?
  let units : List UInt8 := [75, 77, 71, 84, 80, 69, 90, 89]
  let power := match suffix with
    | some 107 => 1
    | some s => ((units.findIdx? (· == s)).map (· + 1)).getD 0
    | none => 0
  let sign : Int := if d.1 > 0 then 1 else if d.1 < 0 then -1 else 0
  (sign, power, d)

/-- The bytes of a key that count under `-d` and `-i`, with `-f` applied. -/
def keyBytes (o : SortOrder) (bs : List UInt8) : List UInt8 :=
  let isAlnum (b : UInt8) : Bool := (48 ≤ b && b ≤ 57) || (65 ≤ b && b ≤ 90) || (97 ≤ b && b ≤ 122)
  let bs := if o.dictionary then bs.filter (fun b => isBlankByte b || isAlnum b) else bs
  let bs := if o.printing then bs.filter (fun b => 32 ≤ b && b < 127) else bs
  if o.fold then bs.map (fun b => if 97 ≤ b && b ≤ 122 then b - 32 else b) else bs

/-- Comparing byte lists as unsigned bytes, a prefix first. -/
def compareBytes : List UInt8 → List UInt8 → Ordering
  | [], [] => .eq
  | [], _ => .lt
  | _, [] => .gt
  | a :: as, b :: bs => if a < b then .lt else if b < a then .gt else compareBytes as bs

/-- Comparing two keys' texts under an order (before `-r`). -/
def compareKey (o : SortOrder) (a b : List UInt8) : Ordering :=
  if o.numeric then compareScaled (leadingDecimal a) (leadingDecimal b)
  else if o.general then (generalNumber a).compare (generalNumber b)
  else if o.month then compare (monthOf a) (monthOf b)
  else if o.human then
    let (sa, pa, da) := leadingHuman a
    let (sb, pb, db) := leadingHuman b
    match compare sa sb with
    | .eq =>
      let byPower := if sa < 0 then compare pb pa else compare pa pb
      if sa == 0 then .eq else match byPower with
        | .eq => compareScaled da db
        | r => r
    | r => r
  else if o.version then versionCompare a b
  else compareBytes (keyBytes o a) (keyBytes o b)

/-- The options of `sort`. -/
structure SortOptions where
  /-- The global order. -/
  order : SortOrder := {}
  /-- The keys. -/
  keys : List SortKey := []
  /-- `-t`: the field separator. -/
  tab : Option UInt8 := none
  /-- `-u`. -/
  unique : Bool := false
  /-- `-s`. -/
  stable : Bool := false
  /-- `-c` (`some false`) or `-C` (`some true`). -/
  check : Option Bool := none
  /-- `-o`. -/
  output : Option String := none
  /-- `-z`: lines end with NUL. -/
  zero : Bool := false
  /-- `-m`: the files are merged, each taken as sorted. -/
  merge : Bool := false

/-- The keys lines are compared by: those given, a key without its own order taking the global
one; or, without keys, the whole line under a global order that is not plain. -/
def SortOptions.effectiveKeys (o : SortOptions) : List SortKey :=
  if o.keys.isEmpty && !o.order.plain then
    [{ startField := 0, startChar := 0, endField := none, endChar := 0, order := o.order : SortKey }]
  else o.keys.map fun k => if k.order.plain && !k.order.reverse then { k with order := o.order } else k

/-- The letters of an order that `sort` names when they cannot go together (blanks and `-r`
left out), or `none` when they can: at most one of numeric, general, human, month, and version
or ignoring. -/
def SortOrder.clash (o : SortOrder) : Option String :=
  let count := [o.numeric, o.general, o.human, o.month, o.version || o.dictionary || o.printing].countP id
  if count ≤ 1 then none
  else
    let ignore := if o.printing then "i" else if o.dictionary then "d" else ""
    let ignoreFirst := if o.printing then "" else ignore
    let ignoreLater := if o.printing then ignore else ""
    some (ignoreFirst ++ (if o.fold then "f" else "") ++ (if o.general then "g" else "") ++
      (if o.human then "h" else "") ++ ignoreLater ++ (if o.month then "M" else "") ++
      (if o.numeric then "n" else "") ++ (if o.version then "V" else ""))

/-- Comparing two lines as `sort` does. -/
def SortOptions.compareLines (o : SortOptions) (a b : Array UInt8) : Ordering :=
  let keys := o.effectiveKeys
  let byKeys := keys.foldl (fun acc k =>
    match acc with
    | .eq =>
      let r := compareKey k.order (keySpan o.tab k a) (keySpan o.tab k b)
      if k.order.reverse then r.swap else r
    | r => r) Ordering.eq
  if !keys.isEmpty && (byKeys != .eq || o.unique || o.stable) then byKeys
  else
    let r := compareBytes a.toList b.toList
    if o.order.reverse then r.swap else r

/-- The order letters of a key or of the global options. -/
def orderLetters (o : SortOrder) (cs : List Char) (atEnd : Bool) : Option SortOrder :=
  cs.foldlM (fun (o : SortOrder) c =>
    match c with
    | 'b' => some (if atEnd then { o with blanksEnd := true } else { o with blanksStart := true })
    | 'd' => some { o with dictionary := true }
    | 'f' => some { o with fold := true }
    | 'i' => some { o with printing := true }
    | 'n' => some { o with numeric := true }
    | 'g' => some { o with general := true }
    | 'h' => some { o with human := true }
    | 'V' => some { o with version := true }
    | 'M' => some { o with month := true }
    | 'r' => some { o with reverse := true }
    | _ => none) o

/-- A number at the start of some characters, and the rest. -/
def leadingNat (cs : List Char) : Option (Nat × List Char) :=
  let ds := cs.takeWhile Char.isDigit
  if ds.isEmpty then none else some (ds.foldl (fun a d => a * 10 + (d.toNat - 48)) 0, cs.drop ds.length)

/-- A key from its text, or the message for a bad one. -/
def parseKey (spec : String) : Except String SortKey := do
  let bad (why : String) : Except String SortKey :=
    .error ("invalid number " ++ why ++ ": " ++ quoteArg spec)
  let cs := spec.toList
  let some (f, cs) := leadingNat cs | bad "at field start"
  if f == 0 then throw ("field number is zero: invalid field specification " ++ quoteArg spec)
  let (c, cs) ← match cs with
    | '.' :: r =>
      match leadingNat r with
      | some (0, _) => throw ("character offset is zero: invalid field specification " ++ quoteArg spec)
      | some (c, r) => pure (c, r)
      | none => throw ("invalid number after '.': invalid count at start of " ++ quoteArg (String.ofList r))
    | r => pure (1, r)
  let opts := cs.takeWhile (· != ',')
  let some order := orderLetters {} opts false |
    throw ("stray character in field spec: invalid field specification " ++ quoteArg spec)
  match cs.drop opts.length with
  | [] => pure { startField := f - 1, startChar := c - 1, endField := none, endChar := 0, order }
  | _ :: r =>
    let some (ef, r) := leadingNat r |
      throw ("invalid number after ',': invalid count at start of " ++ quoteArg (String.ofList r))
    if ef == 0 then throw ("field number is zero: invalid field specification " ++ quoteArg spec)
    let (ec, r) ← match r with
      | '.' :: r =>
        match leadingNat r with
        | some (c, r) => pure (c, r)
        | none => throw ("invalid number after '.': invalid count at start of " ++ quoteArg (String.ofList r))
      | r => pure (0, r)
    let some order := orderLetters order r true |
      throw ("stray character in field spec: invalid field specification " ++ quoteArg spec)
    pure { startField := f - 1, startChar := c - 1, endField := some (ef - 1), endChar := ec, order }

/-- Why `sort`'s options are refused. -/
inductive SortUsage where
  /-- A usage error, with its message. -/
  | usage (msg : String)
  /-- Another error, with its message. -/
  | fatal (msg : String)

/-- The long names of `sort`'s options without values, with their letters. -/
def sortLongFlags : List (String × Char) :=
  [("reverse", 'r'), ("numeric-sort", 'n'), ("unique", 'u'), ("ignore-case", 'f'), ("stable", 's'),
   ("ignore-leading-blanks", 'b'), ("general-numeric-sort", 'g'), ("human-numeric-sort", 'h'),
   ("version-sort", 'V'), ("dictionary-order", 'd'), ("ignore-nonprinting", 'i'), ("month-sort", 'M'),
   ("zero-terminated", 'z'), ("merge", 'm')]

/-- The options with one more letter, which takes no value. -/
def sortFlag (o : SortOptions) (c : Char) : Except SortUsage SortOptions :=
  match c with
  | 'u' => .ok { o with unique := true }
  | 's' => .ok { o with stable := true }
  | 'c' => .ok { o with check := some false }
  | 'C' => .ok { o with check := some true }
  | 'm' => .ok { o with merge := true }
  | 'z' => .ok { o with zero := true }
  | _ =>
    match orderLetters o.order [c] false with
    | some ord => .ok { o with order := if c == 'b' then { ord with blanksEnd := true } else ord }
    | none => .error (.usage ("invalid option -- " ++ quote c.toString))

/-- The options with a letter that takes a value. -/
def sortValued (o : SortOptions) (c : Char) (v : String) : Except SortUsage SortOptions :=
  match c with
  | 'k' =>
    match parseKey v with
    | .ok k => .ok { o with keys := o.keys ++ [k] }
    | .error m => .error (.fatal m)
  | 't' =>
    match Utf8.encode v with
    | [b] => .ok { o with tab := some b }
    | [] => .error (.fatal "empty tab")
    | _ => if v == "\\0" then .ok { o with tab := some 0 } else .error (.fatal ("multi-character tab " ++ quoteArg v))
  | 'o' => .ok { o with output := some v }
  | _ => .ok o

/-- The letters of one option argument, with the arguments after it. -/
def sortLetters : List Char → List String → SortOptions → Except SortUsage (SortOptions × List String)
  | [], rest, o => .ok (o, rest)
  | c :: cs, rest, o =>
    if c == 'k' || c == 't' || c == 'o' || c == 'S' || c == 'T' then
      if !cs.isEmpty then (sortValued o c (String.ofList cs)).map (·, rest)
      else
        match rest with
        | v :: more => (sortValued o c v).map (·, more)
        | [] => .error (.usage ("option requires an argument -- " ++ quote c.toString))
    else
      match sortFlag o c with
      | .ok o => sortLetters cs rest o
      | .error e => .error e

/-- A long option of `sort`, with the arguments after it. -/
def sortLong (a : String) (rest : List String) (o : SortOptions) : Except SortUsage (SortOptions × List String) :=
  let body := (a.drop 2).toString
  let (name, value) := match body.splitOn "=" with
    | n :: v :: vs => (n, some ("=".intercalate (v :: vs)))
    | _ => (body, none)
  let valued : List (String × Char) := [("key", 'k'), ("field-separator", 't'), ("output", 'o')]
  match valued.find? (·.1 == name) with
  | some (_, c) =>
    match value, rest with
    | some v, r => (sortValued o c v).map (·, r)
    | none, v :: r => (sortValued o c v).map (·, r)
    | none, [] => .error (.usage ("option " ++ quote a ++ " requires an argument"))
  | none =>
    if name == "check" then .ok ({ o with check := some (value == some "quiet" || value == some "silent") }, rest)
    else
      match sortLongFlags.find? (·.1 == name) with
      | some (_, c) => (sortFlag o c).map (·, rest)
      | none => .error (.usage ("unrecognized option " ++ quote a))

/-- The options and operands of `sort`, options anywhere before `--`. The fuel bounds the
arguments. -/
def sortOptions : Nat → List String → SortOptions → List String → Except SortUsage (SortOptions × List String)
  | 0, args, o, acc => .ok (o, acc ++ args)
  | _, [], o, acc => .ok (o, acc)
  | k + 1, a :: rest, o, acc =>
    if a == "--" then .ok (o, acc ++ rest)
    else
      match a.toList with
      | '-' :: '-' :: _ =>
        match sortLong a rest o with
        | .ok (o, rest) => sortOptions k rest o acc
        | .error e => .error e
      | '-' :: c :: cs =>
        match sortLetters (c :: cs) rest o with
        | .ok (o, rest) => sortOptions k rest o acc
        | .error e => .error e
      | _ => sortOptions k rest o (acc ++ [a])

/-- The lines of some bytes without their ends (a newline, or the byte given). -/
def plainLines (stop : UInt8) (bs : List UInt8) : List (List UInt8) :=
  (recordsWith stop (bs.length + 1) bs).map fun l => if l.getLast? == some stop then l.dropLast else l

/-- Merging lists taken as sorted: each time the least of their first lines, the earliest list
among equal ones; with `unique`, a line equal to the one taken before it is dropped. The fuel
bounds the lines. -/
def mergeLines (o : SortOptions) : Nat → List (List (Array UInt8)) → Option (Array UInt8) → List (Array UInt8)
  | 0, _, _ => []
  | k + 1, lists, last =>
    let heads := lists.zipIdx.filterMap fun (l, i) => l.head?.map (·, i)
    match heads with
    | [] => []
    | h :: hs =>
      let (least, i) := hs.foldl (fun (best : Array UInt8 × Nat) (x, j) =>
        if o.compareLines x best.1 == .lt then (x, j) else best) h
      let lists := lists.zipIdx.map fun (l, j) => if j == i then l.drop 1 else l
      let dup : Bool := match last with
        | some p => o.unique && o.compareLines p least == .eq
        | none => false
      if dup then mergeLines o k lists last
      else least :: mergeLines o k lists (some least)

/-- Runs of equal neighbours, each with its length, the first of each run kept. -/
def runsBy {α : Type} (same : α → α → Bool) : List α → List (α × List α)
  | [] => []
  | x :: xs =>
    match runsBy same xs with
    | (y, ys) :: more => if same x y then (x, y :: ys) :: more else (x, []) :: (y, ys) :: more
    | [] => [(x, [])]

/-- `sort`: the lines of its files (standard input for none or `-`) in order. -/
def sort (cmd : String) (args : List String) (input : List UInt8) (ws : Workspace) : ToolRun :=
  let hint := "Try " ++ quote (cmd ++ " --help") ++ " for more information.\n"
  match sortOptions (args.length + 1) args {} [] with
  | .error (.usage msg) => { ws := ws, err := bytes (cmd ++ ": " ++ msg ++ "\n" ++ hint), status := 2 }
  | .error (.fatal msg) => { ws := ws, err := errLine cmd msg, status := 2 }
  | .ok (o, operands) =>
    match o.effectiveKeys.findSome? (·.order.clash) with
    | some letters => { ws := ws, err := errLine cmd ("options '-" ++ letters ++ "' are incompatible"), status := 2 }
    | none =>
    let stop : UInt8 := if o.zero then 0 else 10
    let files := if operands.isEmpty then ["-"] else operands
    let read := files.foldl (fun (acc : Except String (List (List (List UInt8))) × Bool) f =>
      match acc with
      | (.error e, r) => (.error e, r)
      | (.ok ls, usedIn) =>
        if f == "-" then (.ok (ls ++ [plainLines stop (if usedIn then [] else input)]), true)
        else match nodeAt ws f with
          | .ok (_, .file bs) => (.ok (ls ++ [plainLines stop bs]), usedIn)
          | .ok (_, .sink) => (.ok (ls ++ [[]]), usedIn)
          | .ok (_, .dir) => (.error ("read failed: " ++ f ++ ": Is a directory"), usedIn)
          | .error e => (.error ("cannot read: " ++ f ++ ": " ++ IoError.text e), usedIn)) (.ok [], false)
    match read with
    | (.error msg, usedIn) => { ws := ws, err := errLine cmd msg, status := 2, readsInput := usedIn }
    | (.ok perFile, usedIn) =>
      let arrays := perFile.flatten.map List.toArray
      match o.check with
      | some quiet =>
        let pairs := (arrays.zip (arrays.drop 1)).zipIdx
        let bad := pairs.find? fun ((a, b), _) =>
          match o.compareLines a b with
          | .gt => true
          | .eq => o.unique
          | .lt => false
        match bad with
        | some ((_, b), i) =>
          let name := match files with
            | [f] => f
            | _ => "-"
          { ws := ws, status := 1, readsInput := usedIn,
            err := if quiet then [] else bytes (cmd ++ ": " ++ name ++ ":" ++ toString (i + 2) ++ ": disorder: ") ++ b.toList ++ [10] }
        | none => { ws := ws, readsInput := usedIn }
      | none =>
        let kept := if o.merge then mergeLines o (arrays.length + 1) (perFile.map (·.map List.toArray)) none
          else
            let sorted := arrays.mergeSort fun a b => o.compareLines a b != .gt
            if o.unique then (runsBy (fun a b => o.compareLines a b == .eq) sorted).map (·.1) else sorted
        let out := kept.flatMap fun l => l.toList ++ [stop]
        match o.output with
        | some f =>
          match ws.target f >>= fun p => ws.write p out with
          | .ok w => { ws := w, readsInput := usedIn }
          | .error e => { ws := ws, err := errLine cmd ("open failed: " ++ f ++ ": " ++ IoError.text e), status := 2, readsInput := usedIn }
        | none => { ws := ws, out := out, readsInput := usedIn }

end Tool

end DefUseCoverage.Shell
