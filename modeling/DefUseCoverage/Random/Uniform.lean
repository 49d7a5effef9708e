import DefUseCoverage.Random.ChaCha
/-!
# Uniform integers from a range

A draw from an inclusive range of `r` integers multiplies a 64-bit draw `x` by `r`: the high
64 bits of `x * r` are the offset from the low end. When the low 64 bits exceed `2^64 - r`
the result may be biased, so a second draw `y` is taken and the offset grows by one exactly
when the low bits plus the high bits of `y * r` reach `2^64`.
-/

namespace DefUseCoverage.Uniform

open DefUseCoverage.ChaCha

/-- `2^64`. -/
def wordRange : Nat := 18446744073709551616

/-- An offset below `r` (for `0 < r < 2^64`) and the generator after the draws. -/
def offset (r : Nat) (g : Generator) : Nat × Generator :=
  let (x, g) := g.next
  let m := x.toNat * r
  let hi := m / wordRange
  let lo := m % wordRange
  if lo > wordRange - r then
    let (y, g) := g.next
    let hi2 := y.toNat * r / wordRange
    (if lo + hi2 ≥ wordRange then hi + 1 else hi, g)
  else (hi, g)

/-- An integer between `low` and `high`, both included (for `low ≤ high`). -/
def between (low high : Int) (g : Generator) : Int × Generator :=
  let (k, g) := offset (high - low + 1).toNat g
  (low + k, g)

/-- `n` integers between `low` and `high`, drawn one after the other. -/
def many (low high : Int) : Nat → Generator → List Int × Generator
  | 0, g => ([], g)
  | n + 1, g =>
    let (v, g) := between low high g
    let (vs, g) := many low high n g
    (v :: vs, g)

end DefUseCoverage.Uniform
