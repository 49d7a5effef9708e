import DefUseCoverage.Json.Double
/-!
# Fixed, scientific and general number layouts

The layouts of a formatted-output conversion for a non-negative value given exactly as a
fraction `num / den`:

* *fixed* (`%f`): the value rounded to a number of places, `123.456`;
* *scientific* (`%e`): one digit before the point, the places after it, and a signed exponent
  of at least two digits, `1.234560e+02`;
* *general* (`%g`): the significant digits asked for, in the fixed layout when the exponent
  is at least -4 and below the number of digits, in the scientific one otherwise, with
  trailing zeros (and a point left bare) removed;
* *hexadecimal* (`%a`): a binary64 value as `0x1.8p+1`, the digits after the point those needed
  unless a precision rounds them.

Rounding is to nearest, a tie going to the even digit. The alternative form keeps the point
(and, for the general layout, the trailing zeros).
-/

namespace DefUseCoverage.Decimal

open DefUseCoverage.Double

/-- `num × 10^k / den` rounded to the nearest integer, a tie to the even one. -/
def roundScaled (num den : Nat) (k : Int) : Nat :=
  let (a, b) := if 0 ≤ k then (num * tenPow k.toNat, den) else (num, den * tenPow (-k).toNat)
  let q := a / b
  let r := a % b
  if 2 * r > b || (2 * r == b && q % 2 == 1) then q + 1 else q

/-- The digits of a number, with zeros in front up to a least count. -/
def digitsAtLeast (d : Nat) (count : Nat) : List Char :=
  let ds := Nat.toDigits 10 d
  List.replicate (count - ds.length) '0' ++ ds

/-- The fixed layout of `num / den` with `places` digits after the point. -/
def fixed (num den : Nat) (places : Nat) (alt : Bool) : String :=
  let ds := digitsAtLeast (roundScaled num den places) (places + 1)
  let whole := ds.take (ds.length - places)
  let frac := ds.drop (ds.length - places)
  String.ofList whole ++ (if places == 0 && !alt then "" else "." ++ String.ofList frac)

/-- The digits of `num / den` (positive) rounded to `places + 1` significant digits, with the
decimal exponent of the first one. -/
def significant (num den : Nat) (places : Nat) : Nat × Int :=
  let x := floorLog10 num den
  let d := roundScaled num den ((places : Int) - x)
  if d ≥ tenPow (places + 1) then (d / 10, x + 1) else (d, x)

/-- An exponent as the scientific layout writes it: a sign and at least two digits. -/
def exponentText (mark : Char) (x : Int) : String :=
  String.singleton mark ++ (if x < 0 then "-" else "+") ++ String.ofList (digitsAtLeast x.natAbs 2)

/-- The scientific layout of `num / den` with `places` digits after the point. -/
def scientific (num den : Nat) (places : Nat) (alt : Bool) (mark : Char) : String :=
  let (d, x) := if num == 0 then (0, 0) else significant num den places
  let ds := digitsAtLeast d (places + 1)
  String.ofList (ds.take 1) ++ (if places == 0 && !alt then "" else "." ++ String.ofList (ds.drop 1)) ++
    exponentText mark x

/-- A layout without trailing zeros after its point, nor a bare point; an exponent stays. -/
def trimFraction (s : String) (mark : Char) : String :=
  let cs := s.toList
  let body := cs.takeWhile (· != mark)
  let tail := cs.drop body.length
  if !body.contains '.' then s
  else
    let body := (body.reverse.dropWhile (· == '0')).reverse
    let body := if body.getLast? == some '.' then body.dropLast else body
    String.ofList (body ++ tail)

/-- The general layout of `num / den` with `digits` significant digits (at least one). -/
def general (num den : Nat) (digits : Nat) (alt : Bool) (mark : Char) : String :=
  let p := max digits 1
  let x : Int := if num == 0 then 0 else (significant num den (p - 1)).2
  let s := if x < p && x ≥ -4 then fixed num den (p - 1 - x).toNat alt
    else scientific num den (p - 1) alt mark
  if alt then s else trimFraction s mark

/-- The hexadecimal digits of `v`, `count` of them. -/
def hexDigits (v : Nat) (count : Nat) (upper : Bool) : List Char :=
  let ds := Nat.toDigits 16 v
  let ds := List.replicate (count - ds.length) '0' ++ ds
  if upper then ds.map Char.toUpper else ds

/-- The hexadecimal layout of a binary64 magnitude `m × 2^e`: a normal value as `1.hhh`, a
subnormal one as `0.hhh` with the least normal exponent, zero as `0`; `places` rounds the
thirteen fraction digits. -/
def hexadecimal (m : Nat) (e : Int) (places : Option Nat) (alt upper : Bool) : String :=
  let (lead, frac, x) :=
    if m == 0 then (0, 0, (0 : Int))
    else if m ≥ minNormal then (1, m - minNormal, e + 52)
    else (0, m, (-1022 : Int))
  let (lead, shown) := match places with
    | none => (lead, ((hexDigits frac 13 upper).reverse.dropWhile (· == '0')).reverse)
    | some p =>
      if p ≥ 13 then (lead, hexDigits frac 13 upper ++ List.replicate (p - 13) '0')
      else
        let unit := twoPow (4 * (13 - p))
        let q := frac / unit
        let r := frac % unit
        let q := if 2 * r > unit || (2 * r == unit && q % 2 == 1) then q + 1 else q
        if q ≥ twoPow (4 * p) then (lead + 1, hexDigits 0 p upper) else (lead, hexDigits q p upper)
  let point := if shown.isEmpty && !alt then "" else "."
  (if upper then "0X" else "0x") ++ toString lead ++ point ++ String.ofList shown ++
    (if upper then "P" else "p") ++ (if x < 0 then "-" else "+") ++ toString x.natAbs

end DefUseCoverage.Decimal
