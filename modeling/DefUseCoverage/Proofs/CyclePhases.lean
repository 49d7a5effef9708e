import Mathlib.Data.List.Chain
import DefUseCoverage.Loop.Run
/-! # What each phase of a cycle does to the loop's state

  A cycle is four phases run one after another (`extractPhase`, `generatePhase`, `deliver`,
  then the verdict), and each touches a few fields of the state only. These are the spec
  lemmas of the phases: proofs about cycles and runs cite them and never unfold a phase.

  - Entering a phase appends it to the history; `extractPhase` and `generatePhase` enter one
    phase each, `deliver` enters none, and the verdict ends the cycle in `idle` or
    `terminated`.
  - `deliver_cases` says once what delivering a batch can do; the lemmas about delivering are
    read off it.
  - `cycle_cases` says once what a cycle does, in terms of its batch, its summary, the state it
    saves and the cancellation it sees at its end; `cycle_history`: a cycle appends `extracting`, `generating`, `awaitingResults` and
    then `idle` or `terminated`; it stops the loop exactly when it ends in `terminated`.
  - A run returns at once from a terminated loop, so a later run changes nothing.
-/

namespace DefUseCoverage.Token

/-! ### The cancellation token

  The token is read at numbered points; it is set from a read on, and a read that finds it set
  does not count. -/

variable (t : Token)

/-- A read finds the token set exactly when it is. -/
@[simp] theorem read_fst : t.read.1 = t.isSet := by
  unfold read
  split <;> simp_all

/-- A read of a set token leaves it as it is. -/
theorem read_of_isSet (h : t.isSet = true) : t.read = (true, t) := by
  simp [read, h]

/-- A read keeps the point the token is set from. -/
@[simp] theorem read_setFrom : t.read.2.setFrom = t.setFrom := by
  unfold read
  split <;> rfl

/-- A token that nothing sets is never found set. -/
theorem isSet_of_setFrom_none (h : t.setFrom = none) : t.isSet = false := by
  simp [isSet, h]

/-- A pass over a set token leaves it as it is. -/
theorem afterPass_of_isSet (h : t.isSet = true) (n : Nat) : t.afterPass n = t := by
  cases n <;> simp [afterPass, h]

/-- The reads of a pass keep the point the token is set from. -/
@[simp] theorem afterPass_setFrom (n : Nat) : (t.afterPass n).setFrom = t.setFrom := by
  induction n generalizing t with
  | zero => rfl
  | succ n ih =>
    unfold afterPass
    split
    · rfl
    · rw [ih, read_setFrom]

/-- Once asked to stop, a token is set. -/
theorem cancel_isSet : t.cancel.isSet = true := by
  unfold cancel
  split
  · assumption
  · simp [isSet]

end DefUseCoverage.Token

namespace DefUseCoverage.Loop

open Coverage

variable {σ : Type}

/-! ### Chains

  The loop's history and the cycles of a run are chains of a relation between neighbours; they
  grow at the end, and a chain extended by a neighbour of its last item is one. -/

/-- A chain extended by an item related to its last one. -/
theorem isChain_snoc {α : Type} {R : α → α → Prop} {l : List α} {a b : α} (hl : l.IsChain R)
    (hlast : l.getLast? = some a) (hab : R a b) : (l ++ [b]).IsChain R := by
  refine hl.append (.singleton b) ?_
  intro x hx y hy
  rw [hlast] at hx
  simp only [Option.mem_def, Option.some.injEq] at hx
  simp only [List.head?_cons, Option.mem_def, Option.some.injEq] at hy
  subst hx hy
  exact hab

/-! ### Entering phases -/

namespace State

@[simp] theorem enter_history (st : State σ) (p : Phase) :
    (st.enter p).history = st.history ++ [p] := rfl

@[simp] theorem enter_phase (st : State σ) (p : Phase) : (st.enter p).phase = p := rfl

@[simp] theorem enter_termination (st : State σ) (p : Phase) :
    (st.enter p).termination = st.termination := rfl

@[simp] theorem enter_cyclesRun (st : State σ) (p : Phase) :
    (st.enter p).cyclesRun = st.cyclesRun := rfl

@[simp] theorem terminate_history (st : State σ) (r : Reason) :
    (st.terminate r).history = st.history ++ [.terminated] := rfl

@[simp] theorem terminate_phase (st : State σ) (r : Reason) :
    (st.terminate r).phase = .terminated := rfl

@[simp] theorem terminate_termination (st : State σ) (r : Reason) :
    (st.terminate r).termination = some r := rfl

@[simp] theorem terminate_cyclesRun (st : State σ) (r : Reason) :
    (st.terminate r).cyclesRun = st.cyclesRun := rfl

/-- Entering a phase or stopping leaves the store, the waiting stubs and the engine. -/
@[simp] theorem enter_store (st : State σ) (p : Phase) : (st.enter p).store = st.store := rfl

@[simp] theorem enter_undelivered (st : State σ) (p : Phase) :
    (st.enter p).undelivered = st.undelivered := rfl

@[simp] theorem enter_engine (st : State σ) (p : Phase) : (st.enter p).engine = st.engine := rfl

@[simp] theorem terminate_store (st : State σ) (r : Reason) : (st.terminate r).store = st.store :=
  rfl

@[simp] theorem terminate_undelivered (st : State σ) (r : Reason) :
    (st.terminate r).undelivered = st.undelivered := rfl

@[simp] theorem terminate_engine (st : State σ) (r : Reason) :
    (st.terminate r).engine = st.engine := rfl

/-- The loop once it has read its token before a cycle. -/
def afterRead (st : State σ) : State σ := { st with token := st.token.read.2 }

@[simp] theorem afterRead_token (st : State σ) : st.afterRead.token = st.token.read.2 := rfl

/-- Reading the token touches nothing else. -/
@[simp] theorem afterRead_store (st : State σ) : st.afterRead.store = st.store := rfl

@[simp] theorem afterRead_views (st : State σ) : st.afterRead.views = st.views := rfl

@[simp] theorem afterRead_ws (st : State σ) : st.afterRead.ws = st.ws := rfl

@[simp] theorem afterRead_engine (st : State σ) : st.afterRead.engine = st.engine := rfl

@[simp] theorem afterRead_history (st : State σ) : st.afterRead.history = st.history := rfl

@[simp] theorem afterRead_termination (st : State σ) :
    st.afterRead.termination = st.termination := rfl

@[simp] theorem afterRead_cyclesRun (st : State σ) : st.afterRead.cyclesRun = st.cyclesRun := rfl

@[simp] theorem afterRead_failures (st : State σ) : st.afterRead.failures = st.failures := rfl

@[simp] theorem afterRead_undelivered (st : State σ) :
    st.afterRead.undelivered = st.undelivered := rfl

@[simp] theorem afterRead_unwritten (st : State σ) : st.afterRead.unwritten = st.unwritten := rfl

end State

/-! ### The phases of a cycle -/

section Phases

variable (setup : Setup) (engine : Engine.Run σ) (st : State σ)

@[simp] theorem extractPhase_history :
    (extractPhase setup st).2.history = st.history ++ [.extracting] := rfl

@[simp] theorem extractPhase_termination :
    (extractPhase setup st).2.termination = st.termination := rfl

@[simp] theorem extractPhase_cyclesRun :
    (extractPhase setup st).2.cyclesRun = st.cyclesRun + 1 := rfl

@[simp] theorem generatePhase_history :
    (generatePhase setup st).2.history = st.history ++ [.generating] := rfl

@[simp] theorem generatePhase_termination :
    (generatePhase setup st).2.termination = st.termination := rfl

@[simp] theorem generatePhase_cyclesRun :
    (generatePhase setup st).2.cyclesRun = st.cyclesRun := rfl

end Phases

/-! ### Delivering a batch -/

section Deliver

variable (setup : Setup) (engine : Engine.Run σ) (batch : List PutRecord)
  (summary : CycleSummary) (st : State σ)

/-- The engine's reply when `batch` is delivered from `st`; an empty batch is not sent. -/
def replyTo : Option (Engine.Reply σ) :=
  if batch.isEmpty then none
  else some (engine st.engine batch setup.settings.engineTimeoutMs st.ws)

/-- No reply means an empty batch. -/
theorem replyTo_eq_none {setup : Setup} {engine : Engine.Run σ} {batch : List PutRecord}
    {st : State σ} (h : replyTo setup engine batch st = none) : batch = [] := by
  unfold replyTo at h
  split at h
  · next hempty => exact List.isEmpty_iff.mp hempty
  · cases h

/-- What delivering a batch can do: an empty batch is not sent and nothing changes; otherwise
the loop takes in the engine's state and directory from its reply, and the token set when the
engine set it, and then
either ingests its report, the failures in a row starting over, or keeps the batch waiting,
one more failure in a row. -/
theorem deliver_cases :
    (replyTo setup engine batch st = none ∧ deliver setup engine batch summary st = (summary, st)) ∨
    (∃ reply report, replyTo setup engine batch st = some reply ∧ reply.result = .ok report ∧
      deliver setup engine batch summary st =
        ({ summary with
            newPairs := summary.newPairs + (ingest st.views st.store report).1.newPairs,
            newlyCovered := (ingest st.views st.store report).1.newlyCovered,
            reportRejected := (ingest st.views st.store report).1.rejected,
            engine := .reported report.covered.length report.observed.length },
         { st with
            engine := reply.state, ws := reply.ws,
            token := if reply.cancel then st.token.cancel else st.token, failures := 0,
            views := (ingest st.views st.store report).2.1,
            store := (ingest st.views st.store report).2.2 })) ∨
    (∃ reply f, replyTo setup engine batch st = some reply ∧ reply.result = .error f ∧
      deliver setup engine batch summary st =
        ({ summary with engine := .unavailable f },
         { st with
            engine := reply.state, ws := reply.ws,
            token := if reply.cancel then st.token.cancel else st.token,
            failures := st.failures + 1, undelivered := batch })) := by
  unfold deliver replyTo
  by_cases hb : batch.isEmpty = true
  · exact .inl ⟨by simp [hb], by simp [hb]⟩
  · right
    simp only [hb, Bool.false_eq_true, if_false]
    cases hres : (engine st.engine batch setup.settings.engineTimeoutMs st.ws).result with
    | ok report => exact .inl ⟨_, report, rfl, hres, rfl⟩
    | error f => exact .inr ⟨_, f, rfl, hres, rfl⟩

/-- Delivering enters no phase. -/
@[simp] theorem deliver_history :
    (deliver setup engine batch summary st).2.history = st.history := by
  rcases deliver_cases setup engine batch summary st with
    ⟨-, h⟩ | ⟨_, _, -, -, h⟩ | ⟨_, _, -, -, h⟩ <;> rw [h]

@[simp] theorem deliver_termination :
    (deliver setup engine batch summary st).2.termination = st.termination := by
  rcases deliver_cases setup engine batch summary st with
    ⟨-, h⟩ | ⟨_, _, -, -, h⟩ | ⟨_, _, -, -, h⟩ <;> rw [h]

@[simp] theorem deliver_cyclesRun :
    (deliver setup engine batch summary st).2.cyclesRun = st.cyclesRun := by
  rcases deliver_cases setup engine batch summary st with
    ⟨-, h⟩ | ⟨_, _, -, -, h⟩ | ⟨_, _, -, -, h⟩ <;> rw [h]

/-- Delivering leaves the summary's cycle number. -/
@[simp] theorem deliver_cycle :
    (deliver setup engine batch summary st).1.cycle = summary.cycle := by
  rcases deliver_cases setup engine batch summary st with
    ⟨-, h⟩ | ⟨_, _, -, -, h⟩ | ⟨_, _, -, -, h⟩ <;> rw [h]

end Deliver

/-! ### A whole cycle

  A cycle extracts, generates, hands the engine its batch from the `awaitingResults` phase,
  saves the store, and then stops or goes back to `idle`. Its pieces are named here, and
  `cycle_cases` says once what a cycle does in their terms. -/

section Cycle

variable (setup : Setup) (engine : Engine.Run σ) (st : State σ)

/-- A cycle from `st` when generation is done: its report, and the loop's state. -/
def generated : GenerationReport × State σ := generatePhase setup (extractPhase setup st).2

/-- The stubs a cycle from `st` emits. -/
def emittedIn : List PutRecord := (generated setup st).1.emitted

/-- The stubs a cycle from `st` sends again: those waiting whose pair is not covered when
generation is done. -/
def resentIn : List PutRecord :=
  resend (generated setup st).2.store (generated setup st).2.undelivered

/-- The batch a cycle from `st` hands the engine: the stubs sent again, then the new ones. -/
def batchIn : List PutRecord := resentIn setup st ++ emittedIn setup st

/-- The state a cycle from `st` delivers its batch from. -/
def awaiting : State σ := { (generated setup st).2 with undelivered := [] }.enter .awaitingResults

/-- The summary a cycle from `st` has before delivering: what it extracted and generated. -/
def summaryIn : CycleSummary :=
  { cycle := (awaiting setup st).cyclesRun,
    candidates := (extractPhase setup st).1.candidates,
    accepted := (extractPhase setup st).1.accepted,
    rejected := (extractPhase setup st).1.rejected,
    newPairs := (extractPhase setup st).1.newPairs,
    putsEmitted := (emittedIn setup st).length,
    putsResent := (resentIn setup st).length,
    putsSkipped := (generated setup st).1.skippedDuplicates,
    putWriteFailures := (awaiting setup st).unwritten.length,
    generationFailures := (generated setup st).1.failures }

/-- The state a cycle from `st` is in once its batch is delivered and the store saved. -/
def persisted : State σ :=
  let delivered :=
    (deliver setup engine (batchIn setup st) (summaryIn setup st) (awaiting setup st)).2
  { delivered with ws := persist setup.persistence delivered.ws delivered.store }

/-- The cancellation a cycle from `st` sees at its end, and the token after: generation saw it,
or the token, read now, is found set. -/
def checkIn : Bool × Token :=
  if (generated setup st).1.cancelled then (true, (persisted setup engine st).token)
  else (persisted setup engine st).token.read

/-- Whether a cycle from `st` sees cancellation at its end. -/
def cancelledIn : Bool := (checkIn setup engine st).1

/-- The state a cycle from `st` reaches its verdict in: its batch delivered, the store saved and
the token read. -/
def saved : State σ := { persisted setup engine st with token := (checkIn setup engine st).2 }

/-- A cycle sees cancellation at its end when generation saw it, or else when its token is found
set once the store is saved. -/
theorem cancelledIn_eq : cancelledIn setup engine st =
    ((generated setup st).1.cancelled || (persisted setup engine st).token.isSet) := by
  unfold cancelledIn checkIn
  split <;> simp_all

/-- What a cycle does: it delivers its batch with its summary so far, saves the store, reads the
token unless generation saw it set, and then stops the loop for the reason of the verdict, or
goes back to `idle` when there is none. -/
theorem cycle_cases :
    (cycle setup engine st).1 =
      (deliver setup engine (batchIn setup st) (summaryIn setup st) (awaiting setup st)).1 ∧
    ((∃ r, verdict setup.settings (cancelledIn setup engine st)
          (batchIn setup st).isEmpty (saved setup engine st).failures
          (saved setup engine st).cyclesRun = some r ∧
        (cycle setup engine st).2 = (saved setup engine st).terminate r) ∨
      (verdict setup.settings (cancelledIn setup engine st)
          (batchIn setup st).isEmpty (saved setup engine st).failures
          (saved setup engine st).cyclesRun = none ∧
        (cycle setup engine st).2 = (saved setup engine st).enter .idle)) := by
  unfold cycle
  dsimp only
  split
  · next r hr => exact ⟨rfl, .inl ⟨r, hr, rfl⟩⟩
  · next hr => exact ⟨rfl, .inr ⟨hr, rfl⟩⟩

@[simp] theorem generated_undelivered : (generated setup st).2.undelivered = st.undelivered := rfl

@[simp] theorem awaiting_undelivered : (awaiting setup st).undelivered = [] := rfl

@[simp] theorem awaiting_history :
    (awaiting setup st).history = st.history ++ [.extracting, .generating, .awaitingResults] := by
  simp [awaiting, generated]

@[simp] theorem awaiting_termination : (awaiting setup st).termination = st.termination := rfl

@[simp] theorem awaiting_cyclesRun : (awaiting setup st).cyclesRun = st.cyclesRun + 1 := rfl

@[simp] theorem saved_store :
    (saved setup engine st).store =
      (deliver setup engine (batchIn setup st) (summaryIn setup st) (awaiting setup st)).2.store :=
  rfl

@[simp] theorem saved_undelivered :
    (saved setup engine st).undelivered =
      (deliver setup engine (batchIn setup st) (summaryIn setup st)
        (awaiting setup st)).2.undelivered :=
  rfl

@[simp] theorem saved_engine :
    (saved setup engine st).engine =
      (deliver setup engine (batchIn setup st) (summaryIn setup st) (awaiting setup st)).2.engine :=
  rfl

@[simp] theorem saved_views :
    (saved setup engine st).views =
      (deliver setup engine (batchIn setup st) (summaryIn setup st) (awaiting setup st)).2.views :=
  rfl

/-- Saving the store leaves the token delivering left. -/
@[simp] theorem persisted_token :
    (persisted setup engine st).token =
      (deliver setup engine (batchIn setup st) (summaryIn setup st) (awaiting setup st)).2.token :=
  rfl

@[simp] theorem saved_history :
    (saved setup engine st).history =
      st.history ++ [.extracting, .generating, .awaitingResults] := by
  simp [saved, persisted]

@[simp] theorem saved_termination : (saved setup engine st).termination = st.termination := by
  simp [saved, persisted]

@[simp] theorem saved_cyclesRun : (saved setup engine st).cyclesRun = st.cyclesRun + 1 := by
  simp [saved, persisted]

/-- A cycle appends `extracting`, `generating`, `awaitingResults` and then either
`terminated`, with a reason, or `idle`, keeping the loop's reason as it was. -/
theorem cycle_history :
    ((cycle setup engine st).2.history =
        st.history ++ [.extracting, .generating, .awaitingResults, .terminated] ∧
      (cycle setup engine st).2.phase = .terminated ∧
      (cycle setup engine st).2.termination.isSome) ∨
    ((cycle setup engine st).2.history =
        st.history ++ [.extracting, .generating, .awaitingResults, .idle] ∧
      (cycle setup engine st).2.phase = .idle ∧
      (cycle setup engine st).2.termination = st.termination) := by
  rcases (cycle_cases setup engine st).2 with ⟨r, -, h⟩ | ⟨-, h⟩
  · left
    simp [h]
  · right
    simp [h]

/-- A cycle counts itself. -/
@[simp] theorem cycle_cyclesRun : (cycle setup engine st).2.cyclesRun = st.cyclesRun + 1 := by
  rcases (cycle_cases setup engine st).2 with ⟨r, -, h⟩ | ⟨-, h⟩ <;> simp [h]

/-- A cycle's summary carries its number: one more than the cycles run before it. -/
@[simp] theorem cycle_number : (cycle setup engine st).1.cycle = st.cyclesRun + 1 := by
  rw [(cycle_cases setup engine st).1, deliver_cycle]
  rfl

end Cycle

/-! ### A terminated loop -/

section Run

variable (setup : Setup) (engine : Engine.Run σ)

/-- A terminated loop runs nothing. -/
theorem runFrom_of_termination {st : State σ} {r : Reason} (hr : st.termination = some r)
    (fuel : Nat) (done : List CycleSummary) : runFrom setup engine fuel st done = (done, st) := by
  rw [runFrom.eq_def]
  dsimp only
  rw [hr]

variable {st : State σ} (hnone : st.termination = none)
include hnone

/-- A loop whose token is found set, or whose budget is used up, stops before a cycle: on
cancellation first. -/
theorem runFrom_of_stop
    (hstop : st.token.isSet = true ∨ setup.settings.maxCycles ≤ st.cyclesRun)
    (fuel : Nat) (done : List CycleSummary) :
    runFrom setup engine fuel st done =
      (done, st.afterRead.terminate
        (if st.token.isSet then .cancelled else .cycleBudgetExhausted)) := by
  rw [runFrom.eq_def]
  cases hset : st.token.isSet
  · have hmax := hstop.resolve_left (by simp [hset])
    simp [hnone, hset, hmax, State.afterRead]
  · simp [hnone, hset, State.afterRead]

/-- Otherwise the loop runs a cycle from its state after the read. -/
theorem runFrom_succ (hset : st.token.isSet = false)
    (hmax : st.cyclesRun < setup.settings.maxCycles) (fuel : Nat) (done : List CycleSummary) :
    runFrom setup engine (fuel + 1) st done =
      runFrom setup engine fuel (cycle setup engine st.afterRead).2
        (done ++ [(cycle setup engine st.afterRead).1]) := by
  rw [runFrom.eq_def]
  simp [hnone, hset, Nat.not_le.mpr hmax, State.afterRead]

end Run

end DefUseCoverage.Loop
