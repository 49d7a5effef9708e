import DefUseCoverage.Engine.InProcess
/-!
# Scripted engines

A scripted engine answers its batches from a list of prepared answers, one per batch, and
then with a fallback answer for every later batch. It remembers every batch it was given. An
answer may first ask the loop to stop and remove a file or directory; then it fails, breaks
down, or reports:

* the report covers every stub of the batch whose defining method is not excluded, when
  `echo` is set, followed by the listed covered triples and observed entities;
* as a harness of the in-process engine it takes `delayMs` and a failure becomes a breakdown
  with the failure's text;
* as an engine of its own a breakdown becomes `crashed` with its message, and the delay is not
  waited.
-/

namespace DefUseCoverage.Engine

/-- A prepared answer. -/
structure Answer where
  /-- Ask the loop to stop. -/
  cancel : Bool := false
  /-- A file or directory of the working directory to remove first. -/
  remove : Option String := none
  /-- How long the answer takes, in milliseconds. -/
  delayMs : Nat := 0
  /-- Break down with this message. -/
  breakdown : Option String := none
  /-- Fail this way. -/
  failure : Option Failure := none
  /-- Cover the stubs of the batch. -/
  echo : Bool := false
  /-- Defining methods whose stubs `echo` leaves out. -/
  skipDefs : List String := []
  /-- Covered triples to report after those of `echo`. -/
  covered : List Candidate := []
  /-- Observed entities to report. -/
  observed : List Metadata.Observed := []

/-- The answer that covers every stub of the batch. -/
def Answer.echoAll : Answer := { echo := true }

/-- The report an answer gives for a batch. -/
def Answer.report (a : Answer) (batch : List PutRecord) : Report :=
  let echoed := if a.echo then
      (batch.filter (fun r => !a.skipDefs.contains r.pair.defMethod)).map (·.pair.toCandidate)
    else []
  { covered := echoed ++ a.covered, observed := a.observed }

/-- The working directory with a file or directory removed, if it is there. -/
def removePath (ws : Workspace) (path : String) : Workspace :=
  match ws.target path with
  | .error _ => ws
  | .ok p => (ws.removeAll p).toOption.getD ws

/-- A scripted engine's state: the answers left, the fallback and the batches so far. -/
structure Script where
  /-- Answers for the next batches, in order. -/
  answers : List Answer := []
  /-- The answer once the list is used up. -/
  fallback : Answer := Answer.echoAll
  /-- Every batch given so far, in order. -/
  batches : List (List PutRecord) := []

namespace Script

/-- The next answer and the script after taking it and recording the batch. -/
def next (s : Script) (batch : List PutRecord) : Answer × Script :=
  match s.answers with
  | a :: rest => (a, { s with answers := rest, batches := s.batches ++ [batch] })
  | [] => (s.fallback, { s with batches := s.batches ++ [batch] })

/-- The script as a harness of the in-process engine. -/
def harness : Harness Script := fun s batch ws =>
  let (a, s) := s.next batch
  let ws := match a.remove with
    | some p => removePath ws p
    | none => ws
  let outcome : Except String Report := match a.breakdown, a.failure with
    | some msg, _ => .error msg
    | none, some f => .error f.message
    | none, none => .ok (a.report batch)
  { outcome := outcome, delayMs := a.delayMs, state := s, ws := ws, cancel := a.cancel }

/-- The script as an engine of its own; it takes no time and ignores the timeout. -/
def engine : Engine.Run Script := fun s batch _ ws =>
  let (a, s) := s.next batch
  let ws := match a.remove with
    | some p => removePath ws p
    | none => ws
  let result : Except Failure Report := match a.breakdown, a.failure with
    | some msg, _ => .error (.crashed msg)
    | none, some f => .error f
    | none, none => .ok (a.report batch)
  { result := result, state := s, ws := ws, cancel := a.cancel }

end Script

end DefUseCoverage.Engine
