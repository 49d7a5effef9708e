import DefUseCoverage.Template.Basic
import DefUseCoverage.Digest.Md5
import DefUseCoverage.Random.Uniform
/-!
# Seeded stubs

A seeded stub is the template's stub followed by rows of seed arguments for the test engine
to start from. Row `r` reads `seed #r: [v1, v2, ...]` with a fixed number of values, each
between -1024 and 1024. The values come from a ChaCha8 stream keyed by the MD5 digest of the
pair's text, written twice, so a pair always gets the same seeds.
-/

namespace DefUseCoverage.Template

/-- The least seed value. -/
def seedLow : Int := -1024

/-- The greatest seed value. -/
def seedHigh : Int := 1024

/-- The generator of a pair's seeds. -/
def seedGenerator (p : Pair) : ChaCha.Generator :=
  let d := Md5.digest p.display.toUTF8
  ChaCha.Generator.ofSeed (d ++ d)

/-- Rows `start`, `start + 1`, ... of seed text, `n` rows of `args` values each. -/
def seedRows (args : Nat) : Nat → Nat → ChaCha.Generator → String
  | 0, _, _ => ""
  | n + 1, start, g =>
    let (vs, g) := Uniform.many seedLow seedHigh args g
    "seed #" ++ toString start ++ ": [" ++ ", ".intercalate (vs.map toString) ++ "]\n" ++
      seedRows args n (start + 1) g

/-- A stub with `rows` rows of `args` seed values appended; with no rows it is the plain
stub. -/
def generateSeeded (segs : List Segment) (rows args : Nat) (p : Pair) :
    Except GenerationError String := do
  let body ← generate segs p
  if rows = 0 then return body
  let body := if body.endsWith "\n" then body else body ++ "\n"
  return body ++ seedRows args rows 0 (seedGenerator p)

end DefUseCoverage.Template
