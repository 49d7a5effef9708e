import DefUseCoverage.Engine.Basic
import DefUseCoverage.Coverage.Store
/-!
# The feedback loop: phases, reasons and summaries

The loop moves through five phases. From `idle` it either starts a cycle (`extracting`) or
stops (`terminated`); a cycle goes on to `generating` and `awaitingResults`, and from there
back to `idle` or to `terminated`. Nothing leaves `terminated`. `Phase.Step` lists these
edges; every history the loop records follows them.

A run stops for one of four reasons, and each cycle is summarised by counts of what it did.
-/

namespace DefUseCoverage.Loop

/-- Where the loop is. -/
inductive Phase where
  /-- Between cycles. -/
  | idle
  /-- Turning candidates into pairs. -/
  | extracting
  /-- Making stubs for uncovered pairs. -/
  | generating
  /-- Waiting for the engine's report. -/
  | awaitingResults
  /-- Stopped for good. -/
  | terminated
deriving DecidableEq, Repr

/-- The phase's name in answers. -/
def Phase.name : Phase → String
  | .idle => "Idle"
  | .extracting => "Extracting"
  | .generating => "Generating"
  | .awaitingResults => "AwaitingResults"
  | .terminated => "Terminated"

/-- The edges of the loop: the phase changes a run may make. -/
inductive Phase.Step : Phase → Phase → Prop where
  | start : Phase.Step .idle .extracting
  | stopIdle : Phase.Step .idle .terminated
  | generate : Phase.Step .extracting .generating
  | await : Phase.Step .generating .awaitingResults
  | rest : Phase.Step .awaitingResults .idle
  | stop : Phase.Step .awaitingResults .terminated

/-- Why a run stopped. -/
inductive Reason where
  /-- The configured number of cycles was used up. -/
  | cycleBudgetExhausted
  /-- A cycle had no stub to send, new or left over. -/
  | fixpoint
  /-- The engine failed too many times in a row. -/
  | engineRetriesExhausted
  /-- Cancellation was requested. -/
  | cancelled
deriving DecidableEq, Repr

/-- The reason's name in answers. -/
def Reason.name : Reason → String
  | .cycleBudgetExhausted => "CycleBudgetExhausted"
  | .fixpoint => "Fixpoint"
  | .engineRetriesExhausted => "EngineRetriesExhausted"
  | .cancelled => "Cancelled"

/-- What one cycle did. -/
structure CycleSummary where
  /-- The cycle's number, from one. -/
  cycle : Nat
  /-- Candidates listed by the metadata. -/
  candidates : Nat := 0
  /-- Candidates that formed a pair. -/
  accepted : Nat := 0
  /-- Candidates that did not. -/
  rejected : Nat := 0
  /-- Pairs new to the store, from candidates or from the report. -/
  newPairs : Nat := 0
  /-- Stubs generated. -/
  putsEmitted : Nat := 0
  /-- Stubs of a failed batch sent again. -/
  putsResent : Nat := 0
  /-- Generated bodies already recorded. -/
  putsSkipped : Nat := 0
  /-- Stub files that could not be written. -/
  putWriteFailures : Nat := 0
  /-- Pairs the strategy failed on. -/
  generationFailures : Nat := 0
  /-- Pairs the report covered for the first time. -/
  newlyCovered : Nat := 0
  /-- Covered triples of the report that formed no pair. -/
  reportRejected : Nat := 0
  /-- What became of the batch. -/
  engine : Engine.Outcome := .skipped
deriving Repr

/-- What one run did. -/
structure RunSummary where
  /-- Why it stopped. -/
  reason : Reason
  /-- Its cycles in order. -/
  cycles : List CycleSummary
  /-- The store's summary at the end. -/
  store : List Coverage.TypeSummary

/-- Stubs generated over the run. -/
def RunSummary.totalPutsEmitted (r : RunSummary) : Nat := (r.cycles.map (·.putsEmitted)).foldl (· + ·) 0

/-- Pairs covered for the first time over the run. -/
def RunSummary.totalNewlyCovered (r : RunSummary) : Nat := (r.cycles.map (·.newlyCovered)).foldl (· + ·) 0

end DefUseCoverage.Loop
