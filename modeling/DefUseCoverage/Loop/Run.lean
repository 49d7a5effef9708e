import DefUseCoverage.Loop.Basic
import DefUseCoverage.Generation
import DefUseCoverage.Metadata.Views
import DefUseCoverage.Coverage.Persist
import DefUseCoverage.Stub.Files
import DefUseCoverage.Engine.Batch
/-!
# The feedback loop: cycles and runs

A cycle, from `idle`:

1. *Extracting.* The types of interest (the configured ones, or every known type when none
   is configured, sorted and without repeats) give candidates; each that forms a pair is
   registered in the store.
2. *Generating.* Stubs are made for every type with an uncovered pair, and their files are
   written together with those that failed to be written before; failures wait for the next
   cycle.
3. *Awaiting results.* The batch is the stubs of the last failed batch whose pair is not
   covered yet, then the new stubs. An empty batch is not sent. A report resets the count of
   engine failures; its observed entities go to the dynamic view first, then each covered
   triple that forms a pair is registered and marked covered. A failure counts one more
   failure in a row and keeps the whole batch for the next cycle.
4. The store is saved when a place is configured; a failed save is ignored.
5. The verdict, first that holds: cancellation, seen by generation or found by reading the
   token now; an empty batch (fixpoint); too many engine failures in a row (when a limit is
   set); the cycle budget used up; else back to `idle`.

A run repeats cycles until the loop is terminated; before each cycle, the token found set and
then the cycle budget stop it. Every cycle adds one to the cycles run, so a run has at most as
many cycles as the budget has left, which is the fuel of `runFrom`.

The token may be set at any moment by whoever holds it: before the run, between two reads of a
generation pass, while the engine runs (an engine may set it itself), between cycles. Which read
first finds it set is all that the loop can tell of that moment.
-/

namespace DefUseCoverage.Loop

open Coverage Metadata

/-- Limits and choices of the loop. -/
structure Settings where
  /-- Cycles the loop may run in all. -/
  maxCycles : Nat := 10
  /-- Engine failures in a row that stop the loop; zero never stops it. -/
  maxEngineFailures : Nat := 3
  /-- The engine's timeout, in milliseconds. -/
  engineTimeoutMs : Nat := 30000
  /-- The types to extract pairs for; none means every known type. -/
  typesOfInterest : List String := []

/-- What stays fixed while the loop runs. -/
structure Setup where
  /-- Limits and choices. -/
  settings : Settings := {}
  /-- How stub bodies are made. -/
  strategy : Template.Strategy
  /-- Workers for generation. -/
  workers : Nat := 1
  /-- Where stub files go, if anywhere. -/
  writer : Option StubWriter := none
  /-- Where and how the store is saved after each cycle, if anywhere. -/
  persistence : Option (String × Format) := none

/-- The loop's state between cycles, with an engine of state `σ`. -/
structure State (σ : Type) where
  /-- The coverage store. -/
  store : Store
  /-- The metadata views; observed entities go to the dynamic one. -/
  views : Views
  /-- The working directory. -/
  ws : Workspace
  /-- The engine's state. -/
  engine : σ
  /-- The cancellation token. -/
  token : Token := {}
  /-- The current phase. -/
  phase : Phase := .idle
  /-- Every phase entered, in order, starting with `idle`. -/
  history : List Phase := [.idle]
  /-- Why the loop stopped, once it has. -/
  termination : Option Reason := none
  /-- Cycles run so far. -/
  cyclesRun : Nat := 0
  /-- Engine failures in a row. -/
  failures : Nat := 0
  /-- The last batch the engine failed on. -/
  undelivered : List PutRecord := []
  /-- Stubs whose files could not be written yet. -/
  unwritten : List PutRecord := []

namespace State

variable {σ : Type}

/-- A loop that has run nothing yet: idle, with a history of just `idle`. -/
def new (store : Store) (views : Views) (ws : Workspace) (engine : σ) : State σ :=
  { store := store, views := views, ws := ws, engine := engine }

/-- The state after entering a phase. -/
def enter (st : State σ) (p : Phase) : State σ :=
  { st with phase := p, history := st.history ++ [p] }

/-- The state after stopping for a reason. -/
def terminate (st : State σ) (r : Reason) : State σ :=
  { st.enter .terminated with termination := some r }

end State

/-- A sorted list without neighbours that are equal. -/
def dropAdjacentRepeats : List String → List String
  | a :: b :: rest => if a = b then dropAdjacentRepeats (b :: rest) else a :: dropAdjacentRepeats (b :: rest)
  | xs => xs

/-- The types to extract pairs for: the configured ones, or every known type when none is
configured; sorted, without repeats. -/
def typesOfInterest (configured : List String) (views : Views) : List String :=
  let types := if configured.isEmpty then views.knownTypes else configured
  dropAdjacentRepeats (types.mergeSort (fun a b => decide (a ≤ b)))

/-- Counts of the extraction step. -/
structure Extraction where
  /-- Candidates listed. -/
  candidates : Nat := 0
  /-- Candidates that formed a pair. -/
  accepted : Nat := 0
  /-- Candidates that did not. -/
  rejected : Nat := 0
  /-- Pairs new to the store. -/
  newPairs : Nat := 0

/-- Registers every candidate that forms a pair. -/
def extractAll (views : Views) (store : Store) (cs : List Candidate) : Extraction × Store :=
  cs.foldl (fun (e, s) c =>
    match views.extract c with
    | .ok p =>
      let (isNew, s) := s.register p
      ({ e with accepted := e.accepted + 1, newPairs := e.newPairs + (if isNew then 1 else 0) }, s)
    | .error _ => ({ e with rejected := e.rejected + 1 }, s)) ({ candidates := cs.length }, store)

/-- Counts of taking in a report. -/
structure Intake where
  /-- Pairs new to the store. -/
  newPairs : Nat := 0
  /-- Pairs covered for the first time. -/
  newlyCovered : Nat := 0
  /-- Covered triples that formed no pair. -/
  rejected : Nat := 0

/-- Takes in a report: observed entities into the dynamic view, then each covered triple
that forms a pair registered and marked covered. -/
def ingest (views : Views) (store : Store) (r : Report) : Intake × Views × Store :=
  let dynamic := r.observed.foldl (fun db o => (db.observe o).2) views.dynamic
  let views := { views with dynamic := dynamic }
  let (counts, store) := r.covered.foldl (fun (n, s) c =>
    match views.extract c with
    | .ok p =>
      let (isNew, s) := s.register p
      let (nowCovered, s) := s.markCovered p
      ({ n with newPairs := n.newPairs + (if isNew then 1 else 0),
                newlyCovered := n.newlyCovered + (if nowCovered then 1 else 0) }, s)
    | .error _ => ({ n with rejected := n.rejected + 1 }, s)) (({} : Intake), store)
  (counts, views, store)

/-- Writes the files of the stubs that wait and of the new ones; returns those that failed,
in their order. -/
def writeStubs (writer : Option StubWriter) (ws : Workspace) (waiting emitted : List PutRecord) :
    List PutRecord × Workspace :=
  match writer with
  | none => ([], ws)
  | some sw =>
    let records := waiting ++ emitted
    let (summary, ws) := sw.writeAll ws records
    (summary.failed.filterMap (fun (i, _) => records[i]?), ws)

/-- Saves the store when a place is configured; a failed save changes nothing. -/
def persist (persistence : Option (String × Format)) (ws : Workspace) (store : Store) : Workspace :=
  match persistence with
  | none => ws
  | some (path, fmt) =>
    match store.snapshot.save ws path fmt with
    | .ok ws => ws
    | .error _ => ws

/-- The verdict at the end of a cycle, if the loop stops. -/
def verdict (settings : Settings) (cancelled batchEmpty : Bool) (failures cyclesRun : Nat) :
    Option Reason :=
  if cancelled then some .cancelled
  else if batchEmpty then some .fixpoint
  else if 0 < settings.maxEngineFailures ∧ settings.maxEngineFailures ≤ failures then
    some .engineRetriesExhausted
  else if settings.maxCycles ≤ cyclesRun then some .cycleBudgetExhausted
  else none

variable {σ : Type}

/-- The extracting phase: the cycle is counted, and every candidate of the types of interest
that forms a pair is registered. -/
def extractPhase (setup : Setup) (st : State σ) : Extraction × State σ :=
  let st := { st with cyclesRun := st.cyclesRun + 1 }.enter .extracting
  let types := typesOfInterest setup.settings.typesOfInterest st.views
  let (ex, store) := extractAll st.views st.store (st.views.candidates types)
  (ex, { st with store := store })

/-- The generating phase: stubs for every type with an uncovered pair; their files are written
together with those that wait from before. -/
def generatePhase (setup : Setup) (st : State σ) : GenerationReport × State σ :=
  let st := st.enter .generating
  let types := st.store.typesWithUncovered
  let (gen, store) := generateAll setup.strategy setup.workers st.token st.store types
  let (unwritten, ws) := writeStubs setup.writer st.ws st.unwritten gen.emitted
  (gen, { st with store := store, ws := ws, unwritten := unwritten,
                  token := st.token.afterPass types.length })

/-- The stubs of the last failed batch whose pair is not covered yet, in their order. -/
def resend (store : Store) (undelivered : List PutRecord) : List PutRecord :=
  undelivered.filter fun r => store.statusOf r.pair != some .covered

/-- The awaiting phase for a batch: an empty batch is not sent; a report resets the engine
failures and is taken in; a failure counts one more and keeps the whole batch. -/
def deliver (setup : Setup) (engine : Engine.Run σ) (batch : List PutRecord)
    (summary : CycleSummary) (st : State σ) : CycleSummary × State σ :=
  if batch.isEmpty then (summary, st)
  else
    let reply := engine st.engine batch setup.settings.engineTimeoutMs st.ws
    let st := { st with engine := reply.state, ws := reply.ws,
                        token := if reply.cancel then st.token.cancel else st.token }
    match reply.result with
    | .ok report =>
      let (counts, views, store) := ingest st.views st.store report
      ({ summary with newPairs := summary.newPairs + counts.newPairs,
                      newlyCovered := counts.newlyCovered, reportRejected := counts.rejected,
                      engine := .reported report.covered.length report.observed.length },
       { st with failures := 0, views := views, store := store })
    | .error f =>
      ({ summary with engine := .unavailable f },
       { st with failures := st.failures + 1, undelivered := batch })

/-- One cycle, from `idle` to `idle` or `terminated`. -/
def cycle (setup : Setup) (engine : Engine.Run σ) (st : State σ) : CycleSummary × State σ :=
  let extracted := extractPhase setup st
  let generated := generatePhase setup extracted.2
  let gen := generated.1
  let resent := resend generated.2.store generated.2.undelivered
  let batch := resent ++ gen.emitted
  let st := { generated.2 with undelivered := [] }.enter .awaitingResults
  let ex := extracted.1
  let summary : CycleSummary :=
    { cycle := st.cyclesRun, candidates := ex.candidates, accepted := ex.accepted,
      rejected := ex.rejected, newPairs := ex.newPairs, putsEmitted := gen.emitted.length,
      putsResent := resent.length, putsSkipped := gen.skippedDuplicates,
      putWriteFailures := st.unwritten.length, generationFailures := gen.failures }
  let delivered := deliver setup engine batch summary st
  let st := { delivered.2 with ws := persist setup.persistence delivered.2.ws delivered.2.store }
  -- cancellation was seen by generation, or is found now by reading the token
  let check := if gen.cancelled then (true, st.token) else st.token.read
  let st := { st with token := check.2 }
  match verdict setup.settings check.1 batch.isEmpty st.failures st.cyclesRun with
  | some r => (delivered.1, st.terminate r)
  | none => (delivered.1, st.enter .idle)

/-- Cycles until the loop is terminated, with at most `fuel` more cycles. -/
def runFrom (setup : Setup) (engine : Engine.Run σ) :
    Nat → State σ → List CycleSummary → List CycleSummary × State σ
  | fuel, st, done =>
    match st.termination with
    | some _ => (done, st)
    | none =>
      let check := st.token.read
      let st := { st with token := check.2 }
      if check.1 then (done, st.terminate .cancelled)
      else if setup.settings.maxCycles ≤ st.cyclesRun then (done, st.terminate .cycleBudgetExhausted)
      else
        match fuel with
        | 0 => (done, st.terminate .cycleBudgetExhausted)
        | fuel + 1 =>
          let (c, st) := cycle setup engine st
          runFrom setup engine fuel st (done ++ [c])

/-- One run: cycles until the loop is terminated. A terminated loop stays terminated, so a
later run has no cycles. -/
def run (setup : Setup) (engine : Engine.Run σ) (st : State σ) : RunSummary × State σ :=
  let (cycles, st) := runFrom setup engine (setup.settings.maxCycles - st.cyclesRun) st []
  ({ reason := st.termination.getD .cycleBudgetExhausted, cycles := cycles, store := st.store.summary }, st)

end DefUseCoverage.Loop
