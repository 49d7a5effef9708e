import DefUseCoverage.Engine.Basic
/-!
# The in-process engine

The in-process engine hands each batch to a harness, a function of the program itself, on a
thread of its own, and waits for the result at most the timeout. A counter shared with the
threads holds how many of them are in flight.

* A batch comes: the engine reads the counter, and when `maxAbandoned` threads are in flight it
  refuses to start another and answers `launch`.
* Otherwise it counts the thread it is about to start, and starts it. When the thread cannot be
  started, the engine takes its count back and answers `launch`.
* The thread runs the harness, takes its count back, and sends the result: a report, or the
  message the harness broke down with.
* The engine's wait ends with the result sent (the report, or `crashed`), at the timeout
  (`timedOut`; the thread is abandoned and goes on until its harness returns), or on finding the
  thread ended without a result (`crashed`).

The steps of the engine and of its threads interleave in any order: they are the events of
`Threads`. The harness's return touches nothing that anyone else reads, so it is taken together
with the count coming back right after it.

The loop's engine (`run`) takes the events in the order a clock gives them. Time is counted in
milliseconds: a harness done within the timeout moves the clock on by the time it took, an
abandoned one by the timeout. The abandoned threads whose harness is done by the time a batch
comes finish first; a harness done within the timeout finishes and sends before the wait ends.
The system lets the engine have at most `threadLimit` threads alive, when it sets a limit.
-/

namespace DefUseCoverage.Engine

/-- A harness's answer to one batch. -/
structure HarnessReply (τ : Type) where
  /-- The report, or the message the harness broke down with. -/
  outcome : Except String Report
  /-- How long the harness takes, in milliseconds. -/
  delayMs : Nat := 0
  /-- The harness's state afterwards. -/
  state : τ
  /-- The working directory afterwards. -/
  ws : Workspace
  /-- Whether the harness asked the loop to stop. -/
  cancel : Bool := false

/-- A harness with state `τ`: state, batch and working directory to its answer. -/
abbrev Harness (τ : Type) := τ → List PutRecord → Workspace → HarnessReply τ

namespace InProcess

/-- Where a harness thread is. -/
inductive Worker where
  /-- Running its harness; it is counted in flight. -/
  | busy
  /-- Its harness returned this, a report or the message it broke down with, and the thread took
  its count back; it has not sent the result yet. -/
  | returned (outcome : Except String Report)
  /-- Ended, after sending its result (`some`) or without sending anything. -/
  | ended (sent : Option (Except String Report))

/-- Whether a thread has ended. -/
def Worker.isEnded : Worker → Bool
  | .ended _ => true
  | _ => false

/-- Where the engine is in a run. -/
inductive Caller where
  /-- Not running a batch. -/
  | idle
  /-- A batch came with this timeout, and fewer threads than the cap were in flight. -/
  | checked (timeout : Nat)
  /-- It counted the thread it is about to start. -/
  | counted (timeout : Nat)
  /-- It waits, at most the timeout, for the result of thread number `thread`. -/
  | waiting (thread timeout : Nat)

/-- The counter of harness threads in flight, the threads started so far, in order, and where
the engine is in a run. -/
structure Threads where
  /-- The counter of threads in flight. -/
  inFlight : Int := 0
  /-- The threads started so far. -/
  workers : List Worker := []
  /-- Where the engine is in a run. -/
  caller : Caller := .idle

/-- A step of the engine or of one of its threads. -/
inductive Event where
  /-- A batch comes with a timeout, and the engine reads the counter. -/
  | call (timeout : Nat)
  /-- The engine counts the thread it is about to start. -/
  | count
  /-- The engine starts the thread. -/
  | spawn
  /-- Starting the thread fails with this error; the engine takes its count back. -/
  | spawnFail (error : String)
  /-- The engine's wait ends. -/
  | wake
  /-- The harness of thread `thread` returns this, and the thread takes its count back. -/
  | finish (thread : Nat) (outcome : Except String Report)
  /-- Thread `thread` sends its result, to an engine that may no longer wait for it, and ends. -/
  | send (thread : Nat)
  /-- Thread `thread` ends without sending its result. -/
  | vanish (thread : Nat)

/-- The text of a refusal to start another thread. -/
def refusal (n : Int) : String :=
  toString n ++ " harness threads from timed-out runs are still running"

/-- The text of a thread that could not be started. -/
def spawnRefusal (error : String) : String := "Failed to spawn engine thread: " ++ error

/-- What the engine's wait for a thread ends with: the result the thread sent, its report or
`crashed` with the message its harness broke down with; `crashed` when the thread ended without
sending anything; and `timedOut` while nothing was sent. -/
def received (timeout : Nat) : Worker → Except Failure Report
  | .ended (some (.ok report)) => .ok report
  | .ended (some (.error msg)) => .error (.crashed ("harness panicked: " ++ msg))
  | .ended none => .error (.crashed "harness thread exited without a report")
  | _ => .error (.timedOut timeout)

namespace Threads

/-- One event, with cap `cap`, and the engine's answer when the event ends a run. An event that
cannot be taken where the engine or the thread it names is changes nothing. -/
def step (cap : Nat) (th : Threads) : Event → Threads × Option (Except Failure Report)
  | .call timeout =>
    match th.caller with
    | .idle =>
      if (cap : Int) ≤ th.inFlight then (th, some (.error (.launch (refusal th.inFlight))))
      else ({ th with caller := .checked timeout }, none)
    | _ => (th, none)
  | .count =>
    match th.caller with
    | .checked t => ({ th with inFlight := th.inFlight + 1, caller := .counted t }, none)
    | _ => (th, none)
  | .spawn =>
    match th.caller with
    | .counted t =>
      ({ th with workers := th.workers ++ [.busy], caller := .waiting th.workers.length t }, none)
    | _ => (th, none)
  | .spawnFail error =>
    match th.caller with
    | .counted _ =>
      ({ th with inFlight := th.inFlight - 1, caller := .idle },
        some (.error (.launch (spawnRefusal error))))
    | _ => (th, none)
  | .wake =>
    match th.caller with
    | .waiting i t => ({ th with caller := .idle }, some (received t (th.workers.getD i .busy)))
    | _ => (th, none)
  | .finish i outcome =>
    match th.workers[i]? with
    | some .busy =>
      ({ th with inFlight := th.inFlight - 1, workers := th.workers.set i (.returned outcome) },
        none)
    | _ => (th, none)
  | .send i =>
    match th.workers[i]? with
    | some (.returned outcome) =>
      ({ th with workers := th.workers.set i (.ended (some outcome)) }, none)
    | _ => (th, none)
  | .vanish i =>
    match th.workers[i]? with
    | some (.returned _) => ({ th with workers := th.workers.set i (.ended none) }, none)
    | _ => (th, none)

/-- Events one after the other. -/
def exec (cap : Nat) (th : Threads) (events : List Event) : Threads :=
  events.foldl (fun th e => (th.step cap e).1) th

/-- The threads alive: started and not ended. -/
def alive (th : Threads) : Nat := th.workers.countP fun w => !w.isEnded

end Threads

/-- A thread abandoned at the timeout: when its harness returns, and what it returns. -/
structure Abandoned where
  /-- The thread's number. -/
  thread : Nat
  /-- When its harness returns. -/
  doneAt : Nat
  /-- What its harness returns. -/
  outcome : Except String Report

end InProcess

/-- The in-process engine's state. -/
structure InProcess (τ : Type) where
  /-- The harness's state. -/
  harness : τ
  /-- The time now, in milliseconds. -/
  clock : Nat := 0
  /-- The counter, the threads and where the engine is in a run. -/
  threads : InProcess.Threads := {}
  /-- The abandoned threads whose harness has not returned yet. -/
  abandoned : List InProcess.Abandoned := []
  /-- How many threads may be in flight when a batch comes for another to start. -/
  maxAbandoned : Nat := 4
  /-- How many threads the system lets the engine have alive at once, if it sets a limit. -/
  threadLimit : Option Nat := none

namespace InProcess

variable {τ : Type}

/-- The error the system gives when it lets the engine have no more threads. -/
def noThreadError : String := "Resource temporarily unavailable (os error 11)"

/-- Whether the system refuses the engine another thread. -/
def refusesThread (e : InProcess τ) : Bool :=
  match e.threadLimit with
  | some limit => decide (limit ≤ e.threads.alive)
  | none => false

/-- What the abandoned threads whose harness is done by now do: each returns and sends its
result, to an engine that no longer waits for it. -/
def dueEvents (e : InProcess τ) : List Event :=
  (e.abandoned.filter (·.doneAt ≤ e.clock)).flatMap fun a =>
    [.finish a.thread a.outcome, .send a.thread]

/-- The engine once the abandoned threads done by now have finished. -/
def catchUp (e : InProcess τ) : InProcess τ :=
  { e with threads := e.threads.exec e.maxAbandoned e.dueEvents,
           abandoned := e.abandoned.filter (e.clock < ·.doneAt) }

/-- Runs a batch: after the abandoned threads done by now have finished, reads the counter,
counts and starts a thread for the harness, and waits for it at most the timeout. -/
def run (h : Harness τ) : Engine.Run (InProcess τ) := fun e batch timeout ws =>
  let e := e.catchUp
  let cap := e.maxAbandoned
  match e.threads.step cap (.call timeout) with
  | (th, some refused) => { result := refused, state := { e with threads := th }, ws := ws }
  | (th, none) =>
    let th := th.exec cap [.count]
    if e.refusesThread then
      { result := .error (.launch (spawnRefusal noThreadError)),
        state := { e with threads := th.exec cap [.spawnFail noThreadError] }, ws := ws }
    else
      let i := th.workers.length
      let th := th.exec cap [.spawn]
      let r := h e.harness batch ws
      if timeout ≤ r.delayMs then
        -- the wait ends at the timeout, and the thread goes on
        { result := received timeout .busy,
          state := { e with harness := r.state, clock := e.clock + timeout,
                            threads := th.exec cap [.wake],
                            abandoned := e.abandoned ++ [⟨i, e.clock + r.delayMs, r.outcome⟩] },
          ws := r.ws, cancel := r.cancel }
      else
        { result := received timeout (.ended (some r.outcome)),
          state := { e with harness := r.state, clock := e.clock + r.delayMs,
                            threads := th.exec cap [.finish i r.outcome, .send i, .wake] },
          ws := r.ws, cancel := r.cancel }

end InProcess

/-- The harness that reports every stub's target pair as covered and sees nothing else, so
that a loop can run from end to end without an external engine. -/
def echoHarness : Harness Unit := fun _ batch ws =>
  { outcome := .ok { covered := batch.map (·.pair.toCandidate) }, state := (), ws := ws }

end DefUseCoverage.Engine
