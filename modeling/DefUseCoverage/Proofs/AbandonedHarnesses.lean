import Mathlib
import DefUseCoverage.Engine.InProcess
/-! # The in-process engine caps abandoned harnesses

  The engine and its harness threads share a counter of threads in flight. The engine reads it
  when a batch comes and refuses to start a thread at the cap; otherwise it counts the thread
  and starts it, or takes the count back when the thread cannot be started. A thread takes its
  count back when its harness returns, before it sends its result. These steps interleave in
  any order: they are the events of `Threads.step`.

  - The counter is the threads still in their harness, with the one thread the engine has
    counted and not started (`Threads.Inv.counts`). It never passes the cap
    (`Threads.Inv.capped`): the engine counts a thread only after reading the counter below the
    cap, and nothing but the engine adds to it. Every event keeps this (`Threads.Inv.step`), so
    every sequence of events from a fresh engine does (`Threads.inv_exec`).
  - What an event answers (`Threads.step_answer`): a batch refused at the cap, a thread that
    could not be started, or the end of a wait, with the result the thread sent, `timedOut`
    while nothing was sent, or `crashed` when the thread ended without sending.
  - The loop's engine runs each batch as a sequence of these events (`run_events`), so the
    states its runs reach are among them.

  Main statement: `abandoned_harnesses_capped`.
-/

namespace DefUseCoverage.Engine.InProcess

/-! ### Counting threads -/

/-- Whether a thread is still in its harness. -/
def Worker.isBusy : Worker → Bool
  | .busy => true
  | _ => false

/-- The count the engine holds for a thread it has not started: one from counting it until it
starts it, or fails to. -/
def Caller.held : Caller → Nat
  | .counted _ => 1
  | _ => 0

namespace Threads

/-- The threads still in their harness. -/
def busy (th : Threads) : Nat := th.workers.countP Worker.isBusy

@[simp] theorem exec_nil (cap : Nat) (th : Threads) : th.exec cap [] = th := rfl

@[simp] theorem exec_cons (cap : Nat) (th : Threads) (e : Event) (events : List Event) :
    th.exec cap (e :: events) = (th.step cap e).1.exec cap events := rfl

theorem exec_append (cap : Nat) (th : Threads) (xs ys : List Event) :
    th.exec cap (xs ++ ys) = (th.exec cap xs).exec cap ys := List.foldl_append

/-- A thread that leaves its harness takes one from the threads in it. -/
theorem busy_set_of_busy {th : Threads} {i : Nat} {w : Worker}
    (hi : th.workers[i]? = some .busy) (hw : w.isBusy = false) :
    (th.workers.set i w).countP Worker.isBusy + 1 = th.busy := by
  obtain ⟨hlt, hget⟩ := List.getElem?_eq_some_iff.mp hi
  -- the thread is one of those counted
  have hpos : 0 < th.busy :=
    List.countP_pos_iff.mpr ⟨_, List.getElem_mem hlt, by rw [hget]; rfl⟩
  rw [List.countP_set hlt, hget, hw]
  simp only [Worker.isBusy, if_true, Bool.false_eq_true, if_false, busy] at hpos ⊢
  omega

/-- A thread out of its harness stays out of the count when it moves on. -/
theorem busy_set_of_not_busy {th : Threads} {i : Nat} {w w' : Worker}
    (hi : th.workers[i]? = some w) (hw : w.isBusy = false) (hw' : w'.isBusy = false) :
    (th.workers.set i w').countP Worker.isBusy = th.busy := by
  obtain ⟨hlt, hget⟩ := List.getElem?_eq_some_iff.mp hi
  rw [List.countP_set hlt, hget, hw, hw']
  simp [busy]

/-! ### The invariant -/

/-- What holds of the counter in every state the events reach from a fresh engine. -/
structure Inv (cap : Nat) (th : Threads) : Prop where
  /-- The counter is the threads in their harness, with the thread the engine counted and has
  not started. -/
  counts : th.inFlight = th.busy + th.caller.held
  /-- It is within the cap. -/
  capped : th.inFlight ≤ cap
  /-- Having read the counter below the cap, the engine still finds it there when it counts:
  only the engine adds to it. -/
  checked : ∀ t, th.caller = .checked t → th.inFlight < cap

theorem inv_fresh (cap : Nat) : Inv cap {} where
  counts := by simp [busy, Caller.held]
  capped := by simp
  checked := by simp

variable {cap : Nat} {th : Threads}

/-- The engine's events keep the invariant. A refused batch changes nothing. Reading the counter
below the cap remembers it; counting the thread adds it to the counter as held; starting it
turns the held count into a thread in its harness; failing to start it gives the held count
back; the end of a wait holds nothing. -/
theorem Inv.call (hi : Inv cap th) (t : Nat) : Inv cap (th.step cap (.call t)).1 := by
  simp only [step]
  split
  · next hidle =>
    split
    · exact hi
    · next hbelow =>
      have hcounts := hi.counts
      rw [hidle] at hcounts
      exact ⟨by simpa [Caller.held, busy] using hcounts, hi.capped,
        fun _ _ => Int.lt_of_not_ge hbelow⟩
  · exact hi

theorem Inv.count (hi : Inv cap th) : Inv cap (th.step cap .count).1 := by
  simp only [step]
  split
  · next t hchecked =>
    have hcounts := hi.counts
    have hbelow := hi.checked t hchecked
    rw [hchecked] at hcounts
    refine ⟨?_, ?_, fun _ h => by cases h⟩
    · simp only [Caller.held, busy] at hcounts ⊢
      omega
    · simp only
      omega
  · exact hi

theorem Inv.spawn (hi : Inv cap th) : Inv cap (th.step cap .spawn).1 := by
  simp only [step]
  split
  · next t hcounted =>
    have hcounts := hi.counts
    rw [hcounted] at hcounts
    refine ⟨?_, hi.capped, fun _ h => by cases h⟩
    simp only [Caller.held, busy, List.countP_append] at hcounts ⊢
    simp [Worker.isBusy]
    omega
  · exact hi

theorem Inv.spawnFail (hi : Inv cap th) (error : String) :
    Inv cap (th.step cap (.spawnFail error)).1 := by
  simp only [step]
  split
  · next t hcounted =>
    have hcounts := hi.counts
    rw [hcounted] at hcounts
    refine ⟨?_, ?_, fun _ h => by cases h⟩
    · simp only [Caller.held, busy] at hcounts ⊢
      omega
    · have := hi.capped
      simp only
      omega
  · exact hi

theorem Inv.wake (hi : Inv cap th) : Inv cap (th.step cap .wake).1 := by
  simp only [step]
  split
  · next i t hwaiting =>
    have hcounts := hi.counts
    rw [hwaiting] at hcounts
    exact ⟨by simpa [Caller.held, busy] using hcounts, hi.capped, fun _ h => by cases h⟩
  · exact hi

/-- A thread's events keep the invariant: the harness's return takes the thread out of the
count with the counter; sending or vanishing moves a thread that is out already. -/
theorem Inv.finish (hi : Inv cap th) (i : Nat) (outcome : Except String Report) :
    Inv cap (th.step cap (.finish i outcome)).1 := by
  simp only [step]
  split
  · next hbusy =>
    have hleft := busy_set_of_busy (w := .returned outcome) hbusy rfl
    have hcounts := hi.counts
    have hcap := hi.capped
    refine ⟨?_, by simp only; omega, fun t h => ?_⟩
    · simp only [busy] at hcounts hleft ⊢
      omega
    · have := hi.checked t h
      simp only
      omega
  · exact hi

theorem Inv.send (hi : Inv cap th) (i : Nat) : Inv cap (th.step cap (.send i)).1 := by
  simp only [step]
  split
  · next outcome hreturned =>
    have hsame := busy_set_of_not_busy hreturned rfl
      (show (Worker.ended (some outcome)).isBusy = false from rfl)
    exact ⟨by rw [hi.counts]; simp [busy, hsame], hi.capped, hi.checked⟩
  · exact hi

theorem Inv.vanish (hi : Inv cap th) (i : Nat) : Inv cap (th.step cap (.vanish i)).1 := by
  simp only [step]
  split
  · next outcome hreturned =>
    have hsame := busy_set_of_not_busy hreturned rfl
      (show (Worker.ended none).isBusy = false from rfl)
    exact ⟨by rw [hi.counts]; simp [busy, hsame], hi.capped, hi.checked⟩
  · exact hi

/-- Every event keeps the invariant. -/
theorem Inv.step (hi : Inv cap th) : ∀ e, Inv cap (th.step cap e).1
  | .call t => hi.call t
  | .count => hi.count
  | .spawn => hi.spawn
  | .spawnFail error => hi.spawnFail error
  | .wake => hi.wake
  | .finish i outcome => hi.finish i outcome
  | .send i => hi.send i
  | .vanish i => hi.vanish i

/-- Every sequence of events keeps the invariant. -/
theorem Inv.exec (hi : Inv cap th) (events : List Event) : Inv cap (th.exec cap events) := by
  induction events generalizing th with
  | nil => exact hi
  | cons e rest ih => exact ih (hi.step e)

theorem inv_exec (cap : Nat) (events : List Event) : Inv cap (Threads.exec cap {} events) :=
  (inv_fresh cap).exec events

/-! ### What the events answer -/

/-- What an event can answer: a batch refused at the cap, with the count it read, changing
nothing; a thread that could not be started; or the end of a wait, with what the wait for the
thread gives. -/
theorem step_answer {e : Event} {a : Except Failure Report} (h : (th.step cap e).2 = some a) :
    (∃ t, e = .call t ∧ th.caller = .idle ∧ (cap : Int) ≤ th.inFlight ∧
        a = .error (.launch (refusal th.inFlight)) ∧ (th.step cap e).1 = th) ∨
      (∃ error t, e = .spawnFail error ∧ th.caller = .counted t ∧
        a = .error (.launch (spawnRefusal error))) ∨
      (∃ i t, e = .wake ∧ th.caller = .waiting i t ∧
        a = received t (th.workers.getD i .busy)) := by
  cases e with
  | call t =>
    simp only [step] at h ⊢
    split at h
    · next hidle =>
      split at h
      · next hcap => exact .inl ⟨t, rfl, hidle, hcap, (Option.some.inj h).symm, by simp [hcap]⟩
      · cases h
    · cases h
  | spawnFail error =>
    simp only [step] at h
    split at h
    · next t hcounted => exact .inr (.inl ⟨error, t, rfl, hcounted, (Option.some.inj h).symm⟩)
    · cases h
  | wake =>
    simp only [step] at h
    split at h
    · next i t hwaiting => exact .inr (.inr ⟨i, t, rfl, hwaiting, (Option.some.inj h).symm⟩)
    · cases h
  | count => simp only [step] at h; split at h <;> cases h
  | spawn => simp only [step] at h; split at h <;> cases h
  | finish i outcome => simp only [step] at h; split at h <;> cases h
  | send i => simp only [step] at h; split at h <;> cases h
  | vanish i => simp only [step] at h; split at h <;> cases h

/-- With no batch going, a batch that comes is refused exactly at the cap. -/
theorem call_answered_iff (hidle : th.caller = .idle) (t : Nat) :
    (th.step cap (.call t)).2.isSome ↔ (cap : Int) ≤ th.inFlight := by
  simp only [step, hidle]
  split <;> simp_all

end Threads

/-! ### The loop's engine -/

section Loop

variable {τ : Type} (h : Harness τ) (e : InProcess τ) (batch : List PutRecord) (timeout : Nat)
  (ws : Workspace)

/-- A run is the finishing of the threads done by now, then the engine's events for the batch,
with the harness's events when it is done within the timeout. -/
theorem run_events :
    ∃ events, (run h e batch timeout ws).state.threads = e.threads.exec e.maxAbandoned events ∧
      (run h e batch timeout ws).state.maxAbandoned = e.maxAbandoned := by
  unfold run
  dsimp only
  -- the threads after the threads done by now have finished
  have hcatch : e.catchUp.threads = e.threads.exec e.maxAbandoned e.dueEvents := rfl
  generalize hcall : e.catchUp.threads.step e.catchUp.maxAbandoned (.call timeout) = c
  obtain ⟨th, answer⟩ := c
  have hth : th = e.threads.exec e.maxAbandoned (e.dueEvents ++ [.call timeout]) := by
    rw [Threads.exec_append, ← hcatch, Threads.exec_cons, Threads.exec_nil]
    exact (congrArg Prod.fst hcall).symm
  cases answer with
  | some refused => exact ⟨e.dueEvents ++ [.call timeout], hth, rfl⟩
  | none =>
    dsimp only
    split
    · refine ⟨e.dueEvents ++ [.call timeout] ++ [.count, .spawnFail noThreadError], ?_, rfl⟩
      rw [Threads.exec_append, ← hth]
      rfl
    · split
      · refine ⟨e.dueEvents ++ [.call timeout] ++ [.count, .spawn, .wake], ?_, rfl⟩
        rw [Threads.exec_append, ← hth]
        rfl
      · refine ⟨e.dueEvents ++ [.call timeout] ++
          [.count, .spawn, .finish ((th.step e.maxAbandoned .count).1.workers.length)
            (h e.catchUp.harness batch ws).outcome,
            .send ((th.step e.maxAbandoned .count).1.workers.length), .wake], ?_, rfl⟩
        rw [Threads.exec_append, ← hth]
        rfl

/-- The engine after running batches one after the other. -/
def runAll (e : InProcess τ) (calls : List (List PutRecord × Nat × Workspace)) : InProcess τ :=
  calls.foldl (fun e c => (run h e c.1 c.2.1 c.2.2).state) e

/-- Runs one after the other are a sequence of events. -/
theorem runAll_events (calls : List (List PutRecord × Nat × Workspace)) :
    ∃ events, (runAll h e calls).threads = e.threads.exec e.maxAbandoned events ∧
      (runAll h e calls).maxAbandoned = e.maxAbandoned := by
  induction calls generalizing e with
  | nil => exact ⟨[], rfl, rfl⟩
  | cons c rest ih =>
    obtain ⟨first, hfirst, hcap⟩ := run_events h e c.1 c.2.1 c.2.2
    obtain ⟨more, hmore, hcap'⟩ := ih (run h e c.1 c.2.1 c.2.2).state
    refine ⟨first ++ more, ?_, hcap'.trans hcap⟩
    rw [Threads.exec_append, ← hfirst, ← hcap]
    exact hmore

end Loop

open Threads in
/-- **Abandoned harnesses are capped.** Along every interleaving of the engine's steps with its
threads' from a fresh engine with cap `cap`, in the state reached:
- the counter of threads in flight is never below zero and never above the cap;
- with no batch going, it is the number of threads still in their harness;
- a batch that comes then is refused with `launch`, before any thread is counted or started,
  exactly when that many threads have reached the cap;
- every answer the engine gives is that refusal, `launch` for a thread that could not be
  started, or the end of the wait for the thread it started: the report the thread sent,
  `crashed` with the message its harness broke down with, `timedOut` while nothing was sent,
  or `crashed` when the thread ended without sending anything;
- the loop's engine, with any harness, clock and limit on threads, reaches by its runs only
  states of such interleavings. -/
theorem abandoned_harnesses_capped (cap : Nat) (events : List Event) :
    let th := Threads.exec cap {} events
    0 ≤ th.inFlight ∧ th.inFlight ≤ cap ∧
      (th.caller = .idle → th.inFlight = th.busy ∧
        ∀ t, ((th.step cap (.call t)).2.isSome ↔ cap ≤ th.busy)) ∧
      (∀ e a, (th.step cap e).2 = some a →
        (∃ t, e = .call t ∧ th.caller = .idle ∧ cap ≤ th.busy ∧
            a = .error (.launch (refusal th.busy)) ∧ (th.step cap e).1 = th) ∨
          (∃ error t, e = .spawnFail error ∧ th.caller = .counted t ∧
            a = .error (.launch (spawnRefusal error))) ∨
          (∃ i t, e = .wake ∧ th.caller = .waiting i t ∧
            a = received t (th.workers.getD i .busy))) ∧
      ∀ {τ : Type} (h : Harness τ) (harness : τ) (clock : Nat) (limit : Option Nat)
        (calls : List (List PutRecord × Nat × Workspace)),
        ∃ events', (runAll h
          { harness := harness, clock := clock, maxAbandoned := cap, threadLimit := limit }
          calls).threads = Threads.exec cap {} events' := by
  intro th
  have hi : Inv cap th := inv_exec cap events
  have hcounts := hi.counts
  -- with no batch going, the engine holds no count of its own
  have hidle : th.caller = .idle → th.inFlight = th.busy := fun hc => by
    rw [hcounts, hc]
    simp [Caller.held]
  refine ⟨by rw [hcounts]; omega, hi.capped, fun hc => ⟨hidle hc, fun t => ?_⟩,
    fun e a ha => ?_, fun h harness clock limit calls => ?_⟩
  · rw [call_answered_iff hc, hidle hc]
    exact Int.ofNat_le
  · rcases step_answer ha with ⟨t, rfl, hc, hcap, rfl, hsame⟩ | hfail | hwake
    · rw [← hidle hc]
      exact .inl ⟨t, rfl, hc, by rw [hidle hc] at hcap; exact Int.ofNat_le.mp hcap, rfl, hsame⟩
    · exact .inr (.inl hfail)
    · exact .inr (.inr hwake)
  · obtain ⟨events', hthreads, -⟩ := runAll_events h
      { harness := harness, clock := clock, maxAbandoned := cap, threadLimit := limit } calls
    exact ⟨events', hthreads⟩

-- With a cap of one: while the thread of a timed-out batch is in its harness the next batch is
-- refused, and once the thread has returned and sent, the next batch is taken.
example : ((Threads.exec 1 {} [.call 5, .count, .spawn, .wake]).step 1 (.call 5)).2 =
    some (.error (.launch (refusal 1))) := by rfl

example : ((Threads.exec 1 {} [.call 5, .count, .spawn, .wake, .finish 0 (.error "lost"),
    .send 0]).step 1 (.call 5)).2 = none := by rfl

end DefUseCoverage.Engine.InProcess
