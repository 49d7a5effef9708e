import DefUseCoverage.Json.Double
/-!
# Reading floating-point numbers

A floating-point number in text, as the C library reads one: blanks, an optional sign, then
`inf` or `infinity`, `nan` (with an optional parenthesized tag), a hexadecimal significand
after `0x` with an optional binary exponent `p`, or a decimal significand with an optional
decimal exponent `e`. Letters are read in either case. An exponent mark without digits after
it is not part of the number, and neither is `0x` without a hexadecimal digit (the number is
then the `0`).

The value read is kept exact (`digits × 10^exponent` or `digits × 2^exponent`); `toBinary64`
rounds it to the nearest binary64 value, ties to even, and says when the result is out of
range: infinite, or below the normal range and not exact.
-/

namespace DefUseCoverage.Decimal

open DefUseCoverage.Double

/-- A number as it is written. -/
inductive Written where
  /-- `digits × 10^exponent`. -/
  | decimal (negative : Bool) (digits : Nat) (exponent : Int)
  /-- `digits × 2^exponent`. -/
  | binary (negative : Bool) (digits : Nat) (exponent : Int)
  /-- An infinity. -/
  | infinity (negative : Bool)
  /-- Not a number. -/
  | notANumber (negative : Bool)
deriving DecidableEq, Repr

/-- A binary64 value: a signed magnitude or a signed NaN. -/
inductive Binary64 where
  /-- A number, zero and infinity included. -/
  | num (negative : Bool) (m : Magnitude)
  /-- Not a number. -/
  | nan (negative : Bool)
deriving DecidableEq, Repr

/-- Whether a character is blank for number reading. -/
def isBlank (c : Char) : Bool :=
  c == ' ' || c == '\t' || c == '\n' || c == '\r' || c == '\x0b' || c == '\x0c'

/-- The value of a hexadecimal digit. -/
def hexValue (c : Char) : Option Nat :=
  if c.isDigit then some (c.toNat - 48)
  else if 'a' ≤ c && c ≤ 'f' then some (c.toNat - 87)
  else if 'A' ≤ c && c ≤ 'F' then some (c.toNat - 55)
  else none

/-- Whether a text starts with a word, in either case. -/
def startsWithWord (cs : List Char) (w : String) : Bool :=
  (cs.take w.length).map Char.toLower == w.toList

/-- The largest exponent magnitude kept: beyond it every value is infinite or zero. -/
def exponentCap : Nat := 100000

/-- An exponent after its mark: an optional sign and decimal digits, capped; with the
characters it takes, or `none` without digits. -/
def exponentPart (cs : List Char) : Option (Int × Nat) :=
  let (neg, ds, signLen) := match cs with
    | '-' :: r => (true, r, 1)
    | '+' :: r => (false, r, 1)
    | r => (false, r, 0)
  let run := ds.takeWhile Char.isDigit
  if run.isEmpty then none
  else
    let v := run.foldl (fun a c => min exponentCap (a * 10 + (c.toNat - 48))) 0
    some (if neg then -(v : Int) else v, signLen + run.length)

/-- The exponent after a significand, with the characters it takes (none when the mark has no
digits after it). -/
def exponentAfter (marks : List Char) (cs : List Char) : Int × Nat :=
  match cs with
  | c :: rest =>
    if marks.contains c then
      match exponentPart rest with
      | some (e, k) => (e, k + 1)
      | none => (0, 0)
    else (0, 0)
  | [] => (0, 0)

/-- Digits in a base with an optional point among them: the value of all the digits, how many
came after the point, and the characters taken; `none` without any digit. -/
def significand (digit : Char → Option Nat) (base : Nat) (cs : List Char) : Option (Nat × Nat × Nat) :=
  let whole := cs.takeWhile (fun c => (digit c).isSome)
  let rest := cs.drop whole.length
  let (frac, pointLen) := match rest with
    | '.' :: r => (r.takeWhile (fun c => (digit c).isSome), 1)
    | _ => ([], 0)
  if whole.isEmpty && frac.isEmpty then none
  else
    let v := (whole ++ frac).foldl (fun a c => a * base + (digit c).getD 0) 0
    some (v, frac.length, whole.length + pointLen + frac.length)

/-- Whether a NaN's optional tag follows: `(` letters, digits and underscores `)`; the
characters it takes. -/
def nanTag (cs : List Char) : Nat :=
  match cs with
  | '(' :: rest =>
    let body := rest.takeWhile (fun c => c.isAlphanum || c == '_')
    match rest.drop body.length with
    | ')' :: _ => body.length + 2
    | _ => 0
  | _ => 0

/-- The number at the start of a text (after blanks), with the characters it takes; `none`
when no number starts it. -/
def Written.read? (text : List Char) : Option (Written × Nat) :=
  let cs := text.dropWhile isBlank
  let skipped := text.length - cs.length
  let (neg, body, signLen) := match cs with
    | '-' :: r => (true, r, 1)
    | '+' :: r => (false, r, 1)
    | r => (false, r, 0)
  let lead := skipped + signLen
  let decimalDigit (c : Char) : Option Nat := if c.isDigit then some (c.toNat - 48) else none
  let decimalAt (cs : List Char) : Option (Written × Nat) :=
    (significand decimalDigit 10 cs).map fun (v, fracLen, used) =>
      let (e, eLen) := exponentAfter ['e', 'E'] (cs.drop used)
      (.decimal neg v (e - fracLen), lead + used + eLen)
  if startsWithWord body "infinity" then some (.infinity neg, lead + 8)
  else if startsWithWord body "inf" then some (.infinity neg, lead + 3)
  else if startsWithWord body "nan" then some (.notANumber neg, lead + 3 + nanTag (body.drop 3))
  else
    match body with
    | '0' :: x :: rest =>
      if x == 'x' || x == 'X' then
        match significand hexValue 16 rest with
        | some (v, fracLen, used) =>
          let (e, eLen) := exponentAfter ['p', 'P'] (rest.drop used)
          some (.binary neg v (e - 4 * (fracLen : Int)), lead + 2 + used + eLen)
        | none => decimalAt body
      else decimalAt body
    | _ => decimalAt body

/-- Whether `m × 2^e` equals `num / den × 2^shift`. -/
def isExactly (m : Nat) (e : Int) (num den : Nat) (shift : Int) : Bool :=
  let (a, b) := scaled m 1 (e - shift)
  a * den == num * b

/-- The binary64 value nearest `num / den × 2^shift` for a positive value, and whether it is out
of range. -/
def nearest (num den : Nat) (shift : Int) : Magnitude × Bool :=
  match round num den shift with
  | .infinite => (.infinite, true)
  | .finite m e => (.finite m e, m < minNormal && !isExactly m e num den shift)

/-- The binary64 value of a written number, and whether it is out of range. -/
def Written.toBinary64 : Written → Binary64 × Bool
  | .infinity neg => (.num neg .infinite, false)
  | .notANumber neg => (.nan neg, false)
  | .decimal neg d e =>
    if d == 0 then (.num neg (.finite 0 0), false)
    else
      let size : Int := (digitCount d : Int) + e
      if size > 310 then (.num neg .infinite, true)
      else if size < -330 then (.num neg (.finite 0 0), true)
      else
        let (m, bad) := if 0 ≤ e then nearest (d * tenPow e.toNat) 1 0 else nearest d (tenPow (-e).toNat) 0
        (.num neg m, bad)
  | .binary neg d e =>
    if d == 0 then (.num neg (.finite 0 0), false)
    else
      let size : Int := (Nat.log2 d : Int) + e
      if size > 1030 then (.num neg .infinite, true)
      else if size < -1200 then (.num neg (.finite 0 0), true)
      else
        let (m, bad) := nearest d 1 e
        (.num neg m, bad)

end DefUseCoverage.Decimal
