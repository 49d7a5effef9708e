/-!
# Binary64 numbers

A JSON reader turns a number with a fraction or an exponent, and an integer too large for 64
bits, into an IEEE 754 binary64 value; messages print such a value in the shortest decimal
form that reads back as the same value. Values here are exact: a finite non-negative value is
`mantissa × 2^exponent` with a natural mantissa, every operation rounds the exact result to
the nearest binary64 value (ties to even), and no machine float is involved.

Reading follows the reader's fast method rather than a correctly rounded one: the significant
digits gathered into a 64-bit integer are rounded to binary64, then multiplied or divided by
the binary64 value of a power of ten, each step rounding on its own. A power beyond `10^308`
is applied as divisions by `1e308`; a product that overflows is out of range.

Printing finds the fewest digits whose decimal value lies within the rounding interval of the
value (the points that read back as it), picking the one nearest the value. It is written
plainly when the decimal exponent is small (`0.3`, `1.5`, `100.0`) and in scientific form
otherwise (`1e+22`, `-9.223372036854776e+18`).
-/

namespace DefUseCoverage.Double

/-- A non-negative binary64 magnitude: `mantissa × 2^exponent`, or infinity. A finite
magnitude that came out of `round` has `mantissa < 2^53` and `exponent ≥ -1074`. -/
inductive Magnitude where
  /-- A finite value. -/
  | finite (mantissa : Nat) (exponent : Int)
  /-- Too large for binary64. -/
  | infinite
deriving DecidableEq, Repr

/-- `2^k`. -/
def twoPow (k : Nat) : Nat := Nat.pow 2 k

/-- `10^k`. -/
def tenPow (k : Nat) : Nat := Nat.pow 10 k

/-- The smallest mantissa of a normal value, `2^52`. -/
def minNormal : Nat := 4503599627370496

/-- One past the largest mantissa, `2^53`. -/
def mantissaLimit : Nat := 9007199254740992

/-- The exponent of the smallest subnormal value. -/
def minExponent : Int := -1074

/-- The exponent of the largest finite values. -/
def maxExponent : Int := 971

/-- `num / den × 2^shift` as a fraction of naturals. -/
def scaled (num den : Nat) (shift : Int) : Nat × Nat :=
  if 0 ≤ shift then (num * twoPow shift.toNat, den) else (num, den * twoPow (-shift).toNat)

/-- `⌊log₂ (num / den)⌋` for positive `num` and `den`. -/
def floorLog2 (num den : Nat) : Int :=
  let g : Int := (Nat.log2 num : Int) - (Nat.log2 den : Int)
  let (a, b) := scaled num den (-g)
  if b ≤ a then g else g - 1

/-- The binary64 magnitude nearest to `num / den × 2^shift`, ties to even, for `den > 0`. The
exponent is chosen so that the mantissa has 53 bits, or is the subnormal exponent when the
value is that small; a mantissa that rounds up to `2^53` moves to the next exponent. -/
def round (num den : Nat) (shift : Int) : Magnitude :=
  if num = 0 then .finite 0 0
  else
    let e := max (floorLog2 num den + shift - 52) minExponent
    let (a, b) := scaled num den (shift - e)
    let q := a / b
    let r := a % b
    let m := if 2 * r > b || (2 * r == b && q % 2 == 1) then q + 1 else q
    let (m, e) := if m == mantissaLimit then (minNormal, e + 1) else (m, e)
    if e > maxExponent then .infinite else .finite m e

/-- The binary64 value of a natural number. -/
def ofNat (n : Nat) : Magnitude := round n 1 0

/-- The binary64 value of `10^k`. -/
def powTen (k : Nat) : Magnitude := ofNat (tenPow k)

/-- The binary64 product. -/
def mul : Magnitude → Magnitude → Magnitude
  | .finite m e, .finite n f => round (m * n) 1 (e + f)
  | _, _ => .infinite

/-- The binary64 quotient, by a non-zero finite divisor. -/
def div : Magnitude → Magnitude → Magnitude
  | .finite m e, .finite n f => if n = 0 then .infinite else round m n (e - f)
  | _, _ => .infinite

/-- Whether a magnitude is zero. -/
def isZero : Magnitude → Bool
  | .finite m _ => m == 0
  | .infinite => false

/-- The value of `significand × 10^exponent` the reader computes, or `none` when it is out of
range: the significand is rounded, then scaled by one power of ten of at most 308, after as
many divisions by `1e308` as a smaller exponent needs (a zero stops them). Four rounds are
enough, since a 64-bit significand is zero after three divisions. -/
def fromParts (significand : Nat) (exponent : Int) : Option Magnitude :=
  go 4 (ofNat significand) exponent
where
  /-- The scaling with `fuel` rounds left. -/
  go : Nat → Magnitude → Int → Option Magnitude
    | 0, f, _ => some f
    | fuel + 1, f, exponent =>
      if exponent.natAbs ≤ 308 then
        if 0 ≤ exponent then
          match mul f (powTen exponent.toNat) with
          | .infinite => none
          | g => some g
        else some (div f (powTen exponent.natAbs))
      else if isZero f then some f
      else if 0 ≤ exponent then none
      else go fuel (div f (powTen 308)) (exponent + 308)

/-- The number of decimal digits of a positive number. -/
def digitCount (n : Nat) : Nat := (Nat.toDigits 10 n).length

/-- `⌊log₁₀ (num / den)⌋` for positive `num` and `den`. -/
def floorLog10 (num den : Nat) : Int :=
  let g : Int := (digitCount num : Int) - (digitCount den : Int)
  let atLeast : Bool :=
    if 0 ≤ g then den * tenPow g.toNat ≤ num else den ≤ num * tenPow (-g).toNat
  if atLeast then g else g - 1

/-- `x × 2^e / 10^k` as a fraction of naturals. -/
def overPowTen (x : Nat) (e k : Int) : Nat × Nat :=
  let (a, b) := scaled x 1 e
  if 0 ≤ k then (a, b * tenPow k.toNat) else (a * tenPow (-k).toNat, b)

/-- Drops trailing zero digits: `d × 10^k` with `d` not a multiple of ten (or zero). -/
def trimZeros (d : Nat) (k : Int) : Nat → Nat × Int
  | 0 => (d, k)
  | fuel + 1 => if d ≠ 0 && d % 10 == 0 then trimZeros (d / 10) (k + 1) fuel else (d, k)

/-- The digits of `m × 2^e` at the scale `10^k`, if any number of that many digits reads back
as the value: the integers `d` with `d × 10^k` inside the rounding interval (its ends
included when the mantissa is even, as ties read back to the even one), the one nearest the
value chosen. `low` and `high` are the ends of the interval and `mid` the value, each
`× 2^(e-2)`. -/
def digitsAt (low mid high : Nat) (e : Int) (inclusive : Bool) (k : Int) : Option Nat :=
  let (la, lb) := overPowTen low (e - 2) k
  let (ma, mb) := overPowTen mid (e - 2) k
  let (ha, hb) := overPowTen high (e - 2) k
  let lo := if la % lb == 0 then (if inclusive then la / lb else la / lb + 1) else la / lb + 1
  let hi := if ha % hb == 0 && !inclusive then ha / hb - 1 else ha / hb
  if ha % hb == 0 && !inclusive && ha / hb == 0 then none
  else if lo ≤ hi then
    let q := ma / mb
    let r := ma % mb
    let c := if 2 * r > mb || (2 * r == mb && q % 2 == 1) then q + 1 else q
    some (max lo (min hi c))
  else none

/-- The shortest digits of a positive finite value `m × 2^e`: `d × 10^k` with the fewest
digits in `d` that reads back as the value, tried from one digit to seventeen. -/
def shortest (m : Nat) (e : Int) : Nat × Int :=
  let low := if m == minNormal && e > minExponent then 4 * m - 1 else 4 * m - 2
  let high := 4 * m + 2
  let (a, b) := scaled m 1 e
  let top := floorLog10 a b
  let inclusive := m % 2 == 0
  let found := (List.range 17).findSome? fun (n : Nat) =>
    let k := top - (n : Int)
    (digitsAt low (4 * m) high e inclusive k).map fun d => (d, k)
  match found with
  | some (d, k) => trimZeros d k 400
  | none =>
    let k := top - 16
    let (ma, mb) := overPowTen (4 * m) (e - 2) k
    trimZeros (ma / mb) k 400

/-- The decimal text of digits `d × 10^k`: plain when the value's decimal exponent allows
(with `.0` after a whole number), scientific otherwise, with a signed exponent. -/
def layout (d : Nat) (k : Int) : String :=
  let ds := (toString d).toList
  let len : Int := ds.length
  let kk := len + k
  let zeros (n : Nat) : List Char := List.replicate n '0'
  if 0 ≤ k && kk ≤ 16 then String.ofList (ds ++ zeros k.toNat) ++ ".0"
  else if 0 < kk && kk ≤ 16 then
    String.ofList (ds.take kk.toNat) ++ "." ++ String.ofList (ds.drop kk.toNat)
  else if -5 < kk && kk ≤ 0 then "0." ++ String.ofList (zeros (-kk).toNat ++ ds)
  else
    let x := kk - 1
    let mantissa := match ds with
      | [c] => String.singleton c
      | c :: rest => String.singleton c ++ "." ++ String.ofList rest
      | [] => "0"
    mantissa ++ "e" ++ (if x < 0 then "-" else "+") ++ toString x.natAbs

/-- The text of a signed binary64 value as messages print it. -/
def render (negative : Bool) : Magnitude → String
  | .infinite => if negative then "-inf" else "inf"
  | .finite m e =>
    let sign := if negative then "-" else ""
    if m == 0 then sign ++ "0.0"
    else
      let (d, k) := shortest m e
      sign ++ layout d k

end DefUseCoverage.Double
