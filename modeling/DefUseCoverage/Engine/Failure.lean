import DefUseCoverage.Engine.Report
/-!
# Engine failures

An engine either answers a batch with a report or fails in one of five ways: it did not answer
in time, it could not be started, it ended badly, its report could not be read, or reading and
writing around it failed. Every failure leaves the cycle without new coverage.

Spans of time are written as whole milliseconds below a second (`5ms`), as seconds with the
fewest decimals that keep their value above (`1.5s`, `30s`, `1.001s`), and as `0ns` when empty.
-/

namespace DefUseCoverage.Engine

/-- The decimals of a fraction of a second in thousandths, without trailing zeros. -/
def thousandths (frac : Nat) : String :=
  let digits := ((toString (frac + 1000)).toList.drop 1).reverse.dropWhile (· == '0')
  String.ofList digits.reverse

/-- A span of milliseconds as text: `0ns`, `Nms` below a second, else seconds with the
thousandths that are not zero. -/
def durationText (ms : Nat) : String :=
  if ms = 0 then "0ns"
  else if ms < 1000 then toString ms ++ "ms"
  else
    let frac := ms % 1000
    if frac = 0 then toString (ms / 1000) ++ "s"
    else toString (ms / 1000) ++ "." ++ thousandths frac ++ "s"

/-- Why an engine gave no report. -/
inductive Failure where
  /-- No answer within the timeout, in milliseconds. -/
  | timedOut (ms : Nat)
  /-- The engine could not be started. -/
  | launch (detail : String)
  /-- The engine ended without a report. -/
  | crashed (detail : String)
  /-- The engine's output is no report. -/
  | badReport (detail : String)
  /-- Reading or writing around the engine failed. -/
  | io (detail : String)
deriving DecidableEq, Repr

/-- The text of a failure. -/
def Failure.message : Failure → String
  | .timedOut ms => "Test engine did not respond within " ++ durationText ms
  | .launch d => "Failed to launch test engine: " ++ d
  | .crashed d => "Test engine failed: " ++ d
  | .badReport d => "Test engine produced an unreadable report: " ++ d
  | .io d => "Test engine I/O error: " ++ d

/-- What became of a cycle's batch. -/
inductive Outcome where
  /-- The batch was empty, so no engine ran. -/
  | skipped
  /-- The engine answered with this many covered triples and observed entities. -/
  | reported (covered observed : Nat)
  /-- The engine failed. -/
  | unavailable (f : Failure)
deriving DecidableEq, Repr

/-- The outcome of an engine's answer. -/
def Outcome.ofResult : Except Failure Report → Outcome
  | .ok r => .reported r.covered.length r.observed.length
  | .error f => .unavailable f

end DefUseCoverage.Engine
