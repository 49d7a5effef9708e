import DefUseCoverage.Json.Value
import DefUseCoverage.Text.Utf8
/-!
# Reading JSON

A strict reader of JSON text (RFC 8259) from bytes. Blanks are space, tab, line feed and
carriage return; a document is one value with blanks around it and nothing after. Numbers
follow the grammar `-? (0 | [1-9][0-9]*) (. [0-9]+)? ([eE] [+-]? [0-9]+)?`. Inside strings, raw
control characters are refused and every escape must be one of `\" \\ \/ \b \f \n \r \t` or
`\u` with four hexadecimal digits.

A string that is well-formed but holds invalid UTF-8 or an unpaired surrogate escape reads as
`string none`, so that a caller that ignores the value accepts it and one that needs its
text does not.
-/

namespace DefUseCoverage.Json

/-- A piece of string content: a raw byte or a `\u` escape's code unit. -/
inductive Piece where
  /-- A byte written as it is, or produced by a short escape. -/
  | byte (b : Nat)
  /-- The code unit of a `\u` escape. -/
  | unit (n : Nat)

/-- The value of a hexadecimal digit byte. -/
def hexValue (b : Nat) : Option Nat :=
  if 48 ≤ b ∧ b ≤ 57 then some (b - 48)
  else if 65 ≤ b ∧ b ≤ 70 then some (b - 55)
  else if 97 ≤ b ∧ b ≤ 102 then some (b - 87)
  else none

/-- The byte a short escape stands for. -/
def shortEscape (b : Nat) : Option Nat :=
  match b with
  | 34 => some 34
  | 92 => some 92
  | 47 => some 47
  | 98 => some 8
  | 102 => some 12
  | 110 => some 10
  | 114 => some 13
  | 116 => some 9
  | _ => none

/-- Scans string content after the opening quote up to the closing one: the pieces and the
bytes after the quote. -/
def scanString : List Nat → Option (List Piece × List Nat)
  | [] => none
  | 34 :: rest => some ([], rest)
  | 92 :: 117 :: a :: b :: c :: d :: rest => do
    let n ← (do
      let a ← hexValue a
      let b ← hexValue b
      let c ← hexValue c
      let d ← hexValue d
      pure (((a * 16 + b) * 16 + c) * 16 + d))
    let (ps, r) ← scanString rest
    pure (.unit n :: ps, r)
  | 92 :: e :: rest => do
    let v ← shortEscape e
    let (ps, r) ← scanString rest
    pure (.byte v :: ps, r)
  | b :: rest =>
    if b < 32 then none
    else do
      let (ps, r) ← scanString rest
      pure (.byte b :: ps, r)

/-- The UTF-8 bytes of a code point. -/
def utf8Bytes (n : Nat) : List Nat :=
  if n < 0x80 then [n]
  else if n < 0x800 then [0xC0 + n / 64, 0x80 + n % 64]
  else if n < 0x10000 then [0xE0 + n / 4096, 0x80 + (n / 64) % 64, 0x80 + n % 64]
  else [0xF0 + n / 262144, 0x80 + (n / 4096) % 64, 0x80 + (n / 64) % 64, 0x80 + n % 64]

/-- A leading (high) surrogate. -/
def isHigh (n : Nat) : Bool := 0xD800 ≤ n && n ≤ 0xDBFF

/-- A trailing (low) surrogate. -/
def isLow (n : Nat) : Bool := 0xDC00 ≤ n && n ≤ 0xDFFF

/-- The bytes of string content, or `none` when a surrogate escape is unpaired. -/
def assemble : List Piece → Option (List Nat)
  | [] => some []
  | .byte b :: rest => (b :: ·) <$> assemble rest
  | .unit n :: rest =>
    if isLow n then none
    else if isHigh n then
      match rest with
      | .unit lo :: more =>
        if isLow lo then
          (utf8Bytes (0x10000 + (n - 0xD800) * 1024 + (lo - 0xDC00)) ++ ·) <$> assemble more
        else none
      | _ => none
    else (utf8Bytes n ++ ·) <$> assemble rest

/-- The text of string content, when it is Unicode text. -/
def contentText (ps : List Piece) : Option String :=
  (assemble ps).bind fun bs => Utf8.decode? (bs.map Nat.toUInt8)

/-- A JSON blank byte. -/
def isBlankByte (b : Nat) : Bool := b == 32 || b == 9 || b == 10 || b == 13

/-- A decimal digit byte. -/
def isDigitByte (b : Nat) : Bool := 48 ≤ b && b ≤ 57

/-- One or more digits: the digits and what follows. -/
def digitsPlus (bs : List Nat) : Option (List Nat × List Nat) :=
  match bs.span isDigitByte with
  | ([], _) => none
  | r => some r

/-- The integer part of a number: `0` alone or a digit run not starting with `0`. -/
def integerPart : List Nat → Option (List Nat × List Nat)
  | 48 :: rest => some ([48], rest)
  | bs => digitsPlus bs

/-- The fraction of a number, if any. -/
def fractionPart : List Nat → Option (List Nat × List Nat)
  | 46 :: rest => (digitsPlus rest).map fun (ds, r) => (46 :: ds, r)
  | bs => some ([], bs)

/-- The exponent of a number, if any. -/
def exponentPart : List Nat → Option (List Nat × List Nat)
  | e :: rest =>
    if e == 101 || e == 69 then
      match rest with
      | s :: more =>
        if s == 43 || s == 45 then (digitsPlus more).map fun (ds, r) => (e :: s :: ds, r)
        else (digitsPlus rest).map fun (ds, r) => (e :: ds, r)
      | [] => none
    else some ([], e :: rest)
  | [] => some ([], [])

/-- A number: its text and what follows. -/
def scanNumber (bs : List Nat) : Option (String × List Nat) := do
  let (sign, bs) := match bs with
    | 45 :: rest => ([45], rest)
    | _ => ([], bs)
  let (i, bs) ← integerPart bs
  let (f, bs) ← fractionPart bs
  let (e, bs) ← exponentPart bs
  pure (String.ofList ((sign ++ i ++ f ++ e).map Char.ofNat), bs)

mutual

/-- A value after optional blanks; `fuel` bounds the nesting. -/
def readValue : Nat → List Nat → Option (Json × List Nat)
  | 0, _ => none
  | fuel + 1, bs =>
    match bs.dropWhile isBlankByte with
    | 110 :: 117 :: 108 :: 108 :: rest => some (.null, rest)
    | 116 :: 114 :: 117 :: 101 :: rest => some (.bool true, rest)
    | 102 :: 97 :: 108 :: 115 :: 101 :: rest => some (.bool false, rest)
    | 34 :: rest => (scanString rest).map fun (ps, r) => (.string (contentText ps), r)
    | 91 :: rest =>
      match rest.dropWhile isBlankByte with
      | 93 :: r => some (.array [], r)
      | _ => (readItems fuel rest).map fun (xs, r) => (.array xs, r)
    | 123 :: rest =>
      match rest.dropWhile isBlankByte with
      | 125 :: r => some (.object [], r)
      | _ => (readMembers fuel rest).map fun (ms, r) => (.object ms, r)
    | other => (scanNumber other).map fun (t, r) => (.number t, r)

/-- Array items up to and including the closing bracket. -/
def readItems : Nat → List Nat → Option (List Json × List Nat)
  | 0, _ => none
  | fuel + 1, bs => do
    let (v, r) ← readValue fuel bs
    match r.dropWhile isBlankByte with
    | 44 :: more => (readItems fuel more).map fun (vs, r) => (v :: vs, r)
    | 93 :: more => some ([v], more)
    | _ => none

/-- Object members up to and including the closing brace. -/
def readMembers : Nat → List Nat → Option (List (Option String × Json) × List Nat)
  | 0, _ => none
  | fuel + 1, bs =>
    match bs.dropWhile isBlankByte with
    | 34 :: rest => do
      let (ps, r) ← scanString rest
      match r.dropWhile isBlankByte with
      | 58 :: afterColon =>
        let (v, r) ← readValue fuel afterColon
        match r.dropWhile isBlankByte with
        | 44 :: more => (readMembers fuel more).map fun (ms, r) => ((contentText ps, v) :: ms, r)
        | 125 :: more => some ([(contentText ps, v)], more)
        | _ => none
      | _ => none
    | _ => none

end

/-- The value of a whole JSON document, or `none` when the bytes are not one. -/
def parse? (bytes : List UInt8) : Option Json :=
  let bs := bytes.map UInt8.toNat
  match readValue (bs.length + 1) bs with
  | some (v, rest) => if rest.all isBlankByte then some v else none
  | none => none

end DefUseCoverage.Json
