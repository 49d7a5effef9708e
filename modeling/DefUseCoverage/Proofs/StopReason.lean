import Mathlib
import DefUseCoverage.Proofs.StubDelivery
/-! # The reason a run stops is read off its cycles

  A run is stopped in one of two places. Before each cycle the run reads its token and stops if
  it is set, then stops on a used-up budget. At the end of each cycle the verdict checks, in this
  order, cancellation (seen by generation, which reads the token before each type, or found by a
  read of the token now), an empty batch (a fixpoint), too many engine failures in a row, and the
  budget. The token may be set at any moment: between cycles, during generation, or with the
  engine's reply to a batch.

  - `CycleChain st starts`: `starts` are the states successive cycles start from, each after a
    read of the token that found it not set, the first one from `st`. A run either stops before
    its first cycle, or runs cycles whose verdicts are all `none` but the last, and stops for the
    reason of the last one, or, when the last has no verdict either, on finding its token set
    before the next (`runFrom_trace`).
  - The failures in a row follow the engine outcomes: a report starts them over, a failure adds
    one, an empty batch leaves them (`saved_failures`). From a fresh loop, when no batch was
    empty, they are the number of cycles at the end of the trace that found the engine
    unavailable (`foldl_failuresAfter`).
  - Main statement (`run_reason_follows_trace`): for every fresh loop, whenever its token is set,
    and every engine, the run has at most as many cycles as the budget; every cycle but the last
    handed the engine a batch and saw no cancellation; the reason is the one the last cycle's
    batch, cancellation, trailing engine failures and number decide, with cancellation first,
    then a fixpoint, then the engine failures, then the budget, and, when the budget is not used
    up, cancellation found before the next cycle.
-/

namespace DefUseCoverage.Engine

/-- Whether the engine was handed a batch and failed on it. -/
def Outcome.isUnavailable : Outcome → Bool
  | .unavailable _ => true
  | _ => false

/-- The engine failures in a row after an outcome: a report starts them over, a failure adds
one, and an empty batch, not sent, leaves them. -/
def Outcome.failuresAfter : Outcome → Nat → Nat
  | .skipped, n => n
  | .reported _ _, _ => 0
  | .unavailable _, n => n + 1

end DefUseCoverage.Engine

namespace DefUseCoverage.Loop

open Coverage

variable {σ : Type}

/-! ### Engine failures at the end of a trace -/

/-- The number of cycles at the end of a trace that found the engine unavailable. -/
def trailingUnavailable (cycles : List CycleSummary) : Nat :=
  (cycles.reverse.takeWhile (·.engine.isUnavailable)).length

/-- The last `k` cycles of a trace all found the engine unavailable. -/
def LastUnavailable (k : Nat) (cycles : List CycleSummary) : Prop :=
  k ≤ cycles.length ∧ ∀ c ∈ cycles.drop (cycles.length - k), c.engine.isUnavailable = true

/-- The last `k` cycles all found the engine unavailable exactly when at least `k` cycles at the
end of the trace did. -/
theorem lastUnavailable_iff (k : Nat) (cycles : List CycleSummary) :
    LastUnavailable k cycles ↔ k ≤ trailingUnavailable cycles := by
  -- the last `k` cycles, read backwards, are the first `k` of the reversed trace
  have hlast : cycles.drop (cycles.length - k) = (cycles.reverse.take k).reverse :=
    List.take_reverse.symm ▸ (List.reverse_reverse _).symm
  have hprefix : cycles.reverse.takeWhile (·.engine.isUnavailable) <+: cycles.reverse :=
    List.takeWhile_prefix _
  unfold LastUnavailable trailingUnavailable
  rw [hlast]
  constructor
  · rintro ⟨hk, hall⟩
    have hall' : ∀ c ∈ cycles.reverse.take k, c.engine.isUnavailable = true := fun c hc =>
      hall c (List.mem_reverse.mpr hc)
    have htw : cycles.reverse.takeWhile (·.engine.isUnavailable) =
        cycles.reverse.take k ++ (cycles.reverse.drop k).takeWhile (·.engine.isUnavailable) := by
      conv_lhs => rw [← List.take_append_drop k cycles.reverse]
      exact List.takeWhile_append_of_pos hall'
    rw [htw, List.length_append, List.length_take, List.length_reverse]
    omega
  · intro hk
    have hlen := hprefix.length_le
    rw [List.length_reverse] at hlen
    refine ⟨by omega, fun c hc => ?_⟩
    -- the first `k` of the reversed trace lie in its unavailable prefix
    have htake : cycles.reverse.take k =
        (cycles.reverse.takeWhile (·.engine.isUnavailable)).take k := by
      conv_rhs => rw [List.prefix_iff_eq_take.mp hprefix]
      rw [List.take_take, Nat.min_eq_left hk]
    rw [List.mem_reverse, htake] at hc
    have hunavailable := List.mem_takeWhile_imp (List.mem_of_mem_take hc)
    simpa using hunavailable

/-- From no failure, with no outcome skipped, the failures in a row after a trace are the
cycles at its end that found the engine unavailable. -/
theorem foldl_failuresAfter (cycles : List CycleSummary)
    (h : ∀ c ∈ cycles, c.engine ≠ .skipped) :
    (cycles.map (·.engine)).foldl (fun n o => o.failuresAfter n) 0 =
      trailingUnavailable cycles := by
  induction cycles using List.reverseRecOn with
  | nil => rfl
  | append_singleton cs c ih =>
    rw [List.map_append, List.foldl_append, ih fun c' hc' => h c' (by simp [hc'])]
    unfold trailingUnavailable
    rw [List.reverse_append, List.reverse_singleton, List.singleton_append]
    have hc : c.engine ≠ .skipped := h c (by simp)
    cases hengine : c.engine with
    | skipped => exact absurd hengine hc
    | reported covered observed =>
      simp [hengine, Engine.Outcome.failuresAfter, Engine.Outcome.isUnavailable]
    | unavailable f =>
      simp [hengine, Engine.Outcome.failuresAfter, Engine.Outcome.isUnavailable]

/-! ### The verdict -/

section Verdict

variable {settings : Settings} {cancelled batchEmpty : Bool} {failures cyclesRun : Nat}

theorem verdict_eq_cancelled :
    verdict settings cancelled batchEmpty failures cyclesRun = some .cancelled ↔
      cancelled = true := by
  unfold verdict
  split_ifs <;> simp_all

theorem verdict_eq_fixpoint :
    verdict settings cancelled batchEmpty failures cyclesRun = some .fixpoint ↔
      cancelled = false ∧ batchEmpty = true := by
  unfold verdict
  split_ifs <;> simp_all

theorem verdict_eq_engineRetriesExhausted :
    verdict settings cancelled batchEmpty failures cyclesRun = some .engineRetriesExhausted ↔
      cancelled = false ∧ batchEmpty = false ∧
        (0 < settings.maxEngineFailures ∧ settings.maxEngineFailures ≤ failures) := by
  unfold verdict
  split_ifs <;> simp_all

theorem verdict_eq_cycleBudgetExhausted :
    verdict settings cancelled batchEmpty failures cyclesRun = some .cycleBudgetExhausted ↔
      cancelled = false ∧ batchEmpty = false ∧
        ¬(0 < settings.maxEngineFailures ∧ settings.maxEngineFailures ≤ failures) ∧
        settings.maxCycles ≤ cyclesRun := by
  unfold verdict
  split_ifs <;> simp_all

/-- The reason a run stops after a cycle is its verdict, or, with none, cancellation found before
the next cycle; it is read off the verdict's checks in their order. -/
theorem verdict_getD_reason {reason : Reason}
    (h : (verdict settings cancelled batchEmpty failures cyclesRun).getD .cancelled = reason) :
    (cancelled = true → reason = .cancelled) ∧
      (cancelled = false → batchEmpty = true → reason = .fixpoint) ∧
      (cancelled = false → batchEmpty = false → 0 < settings.maxEngineFailures →
        settings.maxEngineFailures ≤ failures → reason = .engineRetriesExhausted) ∧
      (cancelled = false → batchEmpty = false →
        ¬(0 < settings.maxEngineFailures ∧ settings.maxEngineFailures ≤ failures) →
        (settings.maxCycles ≤ cyclesRun → reason = .cycleBudgetExhausted) ∧
        (cyclesRun < settings.maxCycles → reason = .cancelled)) := by
  subst h
  unfold verdict
  split_ifs <;> simp_all

/-- Any reason but cancellation is one the verdict gave. -/
theorem verdict_of_getD {reason : Reason}
    (h : (verdict settings cancelled batchEmpty failures cyclesRun).getD .cancelled = reason)
    (hr : reason ≠ .cancelled) : verdict settings cancelled batchEmpty failures cyclesRun = some reason := by
  cases hv : verdict settings cancelled batchEmpty failures cyclesRun with
  | none =>
    rw [hv] at h
    exact absurd h.symm hr
  | some r =>
    rw [hv] at h
    rw [← h]
    rfl

theorem verdict_eq_none :
    verdict settings cancelled batchEmpty failures cyclesRun = none ↔
      cancelled = false ∧ batchEmpty = false ∧
        ¬(0 < settings.maxEngineFailures ∧ settings.maxEngineFailures ≤ failures) ∧
        cyclesRun < settings.maxCycles := by
  unfold verdict
  split_ifs <;> simp_all

end Verdict

/-! ### What a cycle decides -/

namespace State

@[simp] theorem enter_failures (st : State σ) (p : Phase) : (st.enter p).failures = st.failures :=
  rfl

@[simp] theorem terminate_failures (st : State σ) (r : Reason) :
    (st.terminate r).failures = st.failures := rfl

end State

section Cycle

variable (setup : Setup) (engine : Engine.Run σ) (st : State σ)

/-- The verdict at the end of a cycle from `st`. -/
def verdictIn : Option Reason :=
  verdict setup.settings (cancelledIn setup engine st) (batchIn setup st).isEmpty
    (saved setup engine st).failures (saved setup engine st).cyclesRun

/-- A cycle whose verdict is a reason stops the loop for it. -/
theorem cycle_of_verdictIn_some {r : Reason} (h : verdictIn setup engine st = some r) :
    (cycle setup engine st).2 = (saved setup engine st).terminate r := by
  rcases (cycle_cases setup engine st).2 with ⟨r', hr', hcycle⟩ | ⟨hr', -⟩
  · have : r' = r := Option.some.inj (hr'.symm.trans h)
    rw [hcycle, this]
  · exact absurd (hr'.symm.trans h) (by simp)

/-- A cycle without a verdict goes back to `idle`. -/
theorem cycle_of_verdictIn_none (h : verdictIn setup engine st = none) :
    (cycle setup engine st).2 = (saved setup engine st).enter .idle := by
  rcases (cycle_cases setup engine st).2 with ⟨r', hr', -⟩ | ⟨-, hcycle⟩
  · exact absurd (hr'.symm.trans h) (by simp)
  · exact hcycle

@[simp] theorem awaiting_failures : (awaiting setup st).failures = st.failures := rfl

/-- A cycle reports the engine skipped when its batch is empty, and otherwise the engine's
answer. -/
theorem cycle_engine_outcome : (cycle setup engine st).1.engine =
    match replyIn setup engine st with
    | none => .skipped
    | some reply => Engine.Outcome.ofResult reply.result := by
  rw [(cycle_cases setup engine st).1]
  unfold replyIn
  rcases deliver_cases setup engine (batchIn setup st) (summaryIn setup st) (awaiting setup st)
    with ⟨hr, h⟩ | ⟨_, _, hr, hres, h⟩ | ⟨_, _, hr, hres, h⟩ <;> rw [h, hr]
  · rfl
  · simp [hres, Engine.Outcome.ofResult]
  · simp [hres, Engine.Outcome.ofResult]

/-- A cycle's outcome is skipped exactly when its batch is empty. -/
theorem cycle_engine_eq_skipped :
    (cycle setup engine st).1.engine = .skipped ↔ (batchIn setup st).isEmpty = true := by
  rw [cycle_engine_outcome]
  unfold replyIn replyTo
  by_cases hb : (batchIn setup st).isEmpty = true
  · simp [hb]
  · simp only [hb, Bool.false_eq_true, if_false, iff_false]
    cases (engine (awaiting setup st).engine (batchIn setup st)
      setup.settings.engineTimeoutMs (awaiting setup st).ws).result <;>
      simp [Engine.Outcome.ofResult]

/-- After a cycle the failures in a row are those before it, moved by its outcome. -/
theorem saved_failures :
    (saved setup engine st).failures =
      (cycle setup engine st).1.engine.failuresAfter st.failures := by
  rw [cycle_engine_outcome]
  -- saving the store and reading the token leave the failures delivering set
  show (deliver setup engine (batchIn setup st) (summaryIn setup st)
    (awaiting setup st)).2.failures = _
  unfold replyIn
  rcases deliver_cases setup engine (batchIn setup st) (summaryIn setup st) (awaiting setup st)
    with ⟨hr, h⟩ | ⟨_, _, hr, hres, h⟩ | ⟨_, _, hr, hres, h⟩ <;> rw [h, hr]
  · simp [Engine.Outcome.failuresAfter]
  · simp [hres, Engine.Outcome.ofResult, Engine.Outcome.failuresAfter]
  · simp [hres, Engine.Outcome.ofResult, Engine.Outcome.failuresAfter]

/-- The loop after a cycle has the failures in a row of the cycle's saved state. -/
theorem cycle_failures :
    (cycle setup engine st).2.failures = (saved setup engine st).failures := by
  rcases (cycle_cases setup engine st).2 with ⟨r, -, h⟩ | ⟨-, h⟩ <;> rw [h] <;> simp

/-- A cycle without a verdict saw no cancellation and handed the engine its batch. -/
theorem verdictIn_none_iff :
    verdictIn setup engine st = none ↔
      cancelledIn setup engine st = false ∧ (batchIn setup st).isEmpty = false ∧
        ¬(0 < setup.settings.maxEngineFailures ∧
          setup.settings.maxEngineFailures ≤ (saved setup engine st).failures) ∧
        st.cyclesRun + 1 < setup.settings.maxCycles := by
  rw [verdictIn, verdict_eq_none, saved_cyclesRun]

/-- A cycle that sees no cancellation at its end had a generation pass that saw none. -/
theorem generated_cancelled_of_cancelledIn (h : cancelledIn setup engine st = false) :
    (generated setup st).1.cancelled = false := by
  rw [cancelledIn_eq, Bool.or_eq_false_iff] at h
  exact h.1

end Cycle

/-! ### Chains of cycles -/

/-- `starts` are the states successive cycles start from: before each, the loop read its token
and found it not set; the first cycle starts from `st` so read, each later one from where the
cycle before it left the loop, so read. -/
def CycleChain (setup : Setup) (engine : Engine.Run σ) : State σ → List (State σ) → Prop
  | _, [] => True
  | st, s :: rest => st.token.isSet = false ∧ s = st.afterRead ∧
      CycleChain setup engine (cycle setup engine s).2 rest

section Chain

variable (setup : Setup) (engine : Engine.Run σ)

/-- After the last cycle of a chain, the failures in a row are those at its start, moved by the
outcome of each cycle in turn. -/
theorem chain_failures : ∀ {st : State σ} {starts : List (State σ)} {s : State σ},
    CycleChain setup engine st starts → starts.getLast? = some s →
      (saved setup engine s).failures =
        (starts.map fun s => (cycle setup engine s).1.engine).foldl
          (fun n o => o.failuresAfter n) st.failures
  | _, [], _, _, hlast => by simp at hlast
  | st, s₀ :: rest, s, ⟨_, hs₀, hchain⟩, hlast => by
    subst hs₀
    rw [List.map_cons, List.foldl_cons, ← State.afterRead_failures st, ← saved_failures]
    cases rest with
    | nil =>
      obtain rfl : st.afterRead = s := by simpa using hlast
      rfl
    | cons s₁ more =>
      rw [← cycle_failures setup engine st.afterRead]
      exact chain_failures hchain (by simpa using hlast)

/-- After the last cycle of a chain, the loop has run one more cycle per start. -/
theorem chain_cyclesRun : ∀ {st : State σ} {starts : List (State σ)} {s : State σ},
    CycleChain setup engine st starts → starts.getLast? = some s →
      (saved setup engine s).cyclesRun = st.cyclesRun + starts.length
  | _, [], _, _, hlast => by simp at hlast
  | st, s₀ :: rest, s, ⟨_, hs₀, hchain⟩, hlast => by
    subst hs₀
    cases rest with
    | nil =>
      obtain rfl : st.afterRead = s := by simpa using hlast
      simp
    | cons s₁ more =>
      rw [chain_cyclesRun hchain (by simpa using hlast), cycle_cyclesRun]
      simp only [List.length_cons, State.afterRead_cyclesRun]
      omega

/-- What a run from a loop without a reason does, when its fuel covers the cycles the budget
leaves: it stops before any cycle, on finding its token set or a used-up budget; or it runs a
chain of cycles whose verdicts are `none` but the last, and stops for the reason of the last, or,
when the last has no verdict either, on finding its token set before the next. -/
theorem runFrom_trace : ∀ (fuel : Nat) (st : State σ) (done : List CycleSummary),
    st.termination = none → setup.settings.maxCycles ≤ st.cyclesRun + fuel →
    ∃ starts, CycleChain setup engine st starts ∧
      (runFrom setup engine fuel st done).1 =
        done ++ starts.map (fun s => (cycle setup engine s).1) ∧
      starts.length ≤ fuel ∧
      ((starts = [] ∧ (st.token.isSet = true ∨ setup.settings.maxCycles ≤ st.cyclesRun) ∧
          (runFrom setup engine fuel st done).2 = st.afterRead.terminate
            (if st.token.isSet then .cancelled else .cycleBudgetExhausted)) ∨
        (∃ pre s, starts = pre ++ [s] ∧ (∀ s' ∈ pre, verdictIn setup engine s' = none) ∧
          ((∃ r, verdictIn setup engine s = some r ∧
              (runFrom setup engine fuel st done).2 = (saved setup engine s).terminate r) ∨
            (verdictIn setup engine s = none ∧ (cycle setup engine s).2.token.isSet = true ∧
              (runFrom setup engine fuel st done).2 =
                (cycle setup engine s).2.afterRead.terminate .cancelled)))) := by
  intro fuel
  induction fuel with
  | zero =>
    intro st done hnone hfuel
    -- without fuel the budget is used up
    have hstop : st.token.isSet = true ∨ setup.settings.maxCycles ≤ st.cyclesRun := .inr (by omega)
    rw [runFrom_of_stop setup engine hnone hstop]
    exact ⟨[], trivial, by simp, le_rfl, .inl ⟨rfl, hstop, rfl⟩⟩
  | succ fuel ih =>
    intro st done hnone hfuel
    by_cases hstop : st.token.isSet = true ∨ setup.settings.maxCycles ≤ st.cyclesRun
    · rw [runFrom_of_stop setup engine hnone hstop]
      exact ⟨[], trivial, by simp, Nat.zero_le _, .inl ⟨rfl, hstop, rfl⟩⟩
    obtain ⟨hset, hmax⟩ : st.token.isSet = false ∧ st.cyclesRun < setup.settings.maxCycles := by
      simpa [not_or] using hstop
    rw [runFrom_succ setup engine hnone hset hmax]
    cases hv : verdictIn setup engine st.afterRead with
    | some r =>
      -- the cycle stops the loop, and the run returns with it
      have hstopped := cycle_of_verdictIn_some setup engine st.afterRead hv
      rw [runFrom_of_termination setup engine
        (show (cycle setup engine st.afterRead).2.termination = some r by simp [hstopped])]
      exact ⟨[st.afterRead], ⟨hset, rfl, trivial⟩, by simp, by simp,
        .inr ⟨[], st.afterRead, rfl, by simp, .inl ⟨r, hv, hstopped⟩⟩⟩
    | none =>
      have hidle := cycle_of_verdictIn_none setup engine st.afterRead hv
      obtain ⟨-, -, -, hbudget⟩ := (verdictIn_none_iff setup engine st.afterRead).mp hv
      obtain ⟨starts, hchain, hout, hlen, hend⟩ := ih (cycle setup engine st.afterRead).2
        (done ++ [(cycle setup engine st.afterRead).1]) (by simp [hidle, hnone]) (by simp; omega)
      refine ⟨st.afterRead :: starts, ⟨hset, rfl, hchain⟩, by rw [hout]; simp, by simp; omega,
        .inr ?_⟩
      rcases hend with ⟨rfl, hwhy, hfinal⟩ | ⟨pre, s, rfl, hpre, hlast⟩
      · -- the loop the cycle leaves is within its budget: it stopped on finding its token set
        have hcan : (cycle setup engine st.afterRead).2.token.isSet = true :=
          hwhy.resolve_right (by simp only [cycle_cyclesRun]; omega)
        exact ⟨[], st.afterRead, rfl, by simp, .inr ⟨hv, hcan, by rw [hfinal, if_pos hcan]⟩⟩
      · refine ⟨st.afterRead :: pre, s, rfl, ?_, hlast⟩
        intro s' hs'
        rcases List.mem_cons.mp hs' with rfl | hs'
        · exact hv
        · exact hpre s' hs'

/-- After its last cycle a run is stopped for the cycle's verdict, or, when the cycle has none,
on finding its token set before the next one. -/
theorem termination_after_last {s st' : State σ}
    (h : (∃ r, verdictIn setup engine s = some r ∧ st' = (saved setup engine s).terminate r) ∨
      (verdictIn setup engine s = none ∧ (cycle setup engine s).2.token.isSet = true ∧
        st' = (cycle setup engine s).2.afterRead.terminate .cancelled)) :
    st'.termination = some ((verdictIn setup engine s).getD .cancelled) ∧
      (verdictIn setup engine s = none → (cycle setup engine s).2.token.isSet = true) := by
  rcases h with ⟨r, hs, rfl⟩ | ⟨hs, hcan, rfl⟩
  · exact ⟨by simp [hs], fun hnone => absurd (hs.symm.trans hnone) (by simp)⟩
  · exact ⟨by simp [hs], fun _ => hcan⟩

end Chain

/-! ### Runs from a fresh loop -/

section Run

variable (setup : Setup) (engine : Engine.Run σ)

theorem run_cycles (st : State σ) :
    (run setup engine st).1.cycles =
      (runFrom setup engine (setup.settings.maxCycles - st.cyclesRun) st []).1 := rfl

theorem run_reason (st : State σ) :
    (run setup engine st).1.reason =
      ((runFrom setup engine (setup.settings.maxCycles - st.cyclesRun) st []).2.termination.getD
        .cycleBudgetExhausted) := rfl

/-- Along a chain from a loop with no failures, whose cycles before the last all had a verdict
`none`, the last cycle leaves as failures in a row the cycles at the end of the trace that
found the engine unavailable, when its own batch was not empty. -/
theorem last_failures {st : State σ} {pre : List (State σ)} {s : State σ}
    (hchain : CycleChain setup engine st (pre ++ [s])) (hzero : st.failures = 0)
    (hpre : ∀ s' ∈ pre, verdictIn setup engine s' = none)
    (hbatch : (batchIn setup s).isEmpty = false) :
    (saved setup engine s).failures =
      trailingUnavailable ((pre ++ [s]).map fun s => (cycle setup engine s).1) := by
  rw [chain_failures setup engine hchain (by simp), hzero, ← foldl_failuresAfter, List.map_map]
  · rfl
  · -- no cycle of the chain skipped the engine: each handed it a batch
    intro c hc
    obtain ⟨s', hs', rfl⟩ := List.mem_map.mp hc
    rw [Ne, cycle_engine_eq_skipped]
    rcases List.mem_append.mp hs' with hs' | hs'
    · simp [((verdictIn_none_iff setup engine s').mp (hpre s' hs')).2.1]
    · rw [List.mem_singleton.mp hs', hbatch]
      simp

end Run

/-- **The reason a run stops is read off its cycles.** For every fresh loop, whenever its token
is set (before the run, between cycles, during generation, or with the engine's reply), every
engine and all settings, the cycles of a run start from a chain of states beginning at the loop,
and:
- there are at most as many cycles as the budget;
- every cycle but the last handed the engine a batch (its outcome is not skipped) and saw no
  cancellation at its end;
- the run stops at a fixpoint exactly when it ran a cycle and the last cycle's batch, stubs sent
  again and new ones, was empty and it saw no cancellation;
- it stops on engine failures only if some are allowed and the last that many cycles all found
  the engine unavailable, and on the budget only if it ran as many cycles as the budget;
- with no cycle, it stops on cancellation if the token was set, and on the budget otherwise;
- after its last cycle, the reason is cancellation if the cycle saw it; else a fixpoint if the
  batch was empty; else engine failures if some are allowed and the last that many cycles all
  found the engine unavailable; else the budget if it is used up, and otherwise cancellation,
  found set by the read before the next cycle. -/
theorem run_reason_follows_trace (setup : Setup) (engine : Engine.Run σ) (store : Store)
    (views : Metadata.Views) (ws : Workspace) (e : σ) (token : Token) :
    let st₀ : State σ := { State.new store views ws e with token := token }
    let r := (run setup engine st₀).1
    let m := setup.settings.maxEngineFailures
    ∃ starts : List (State σ), CycleChain setup engine st₀ starts ∧
      r.cycles = starts.map (fun s => (cycle setup engine s).1) ∧
      r.cycles.length ≤ setup.settings.maxCycles ∧
      (∀ s ∈ starts.dropLast,
        (cycle setup engine s).1.engine ≠ .skipped ∧ cancelledIn setup engine s = false) ∧
      (r.reason = .fixpoint ↔ ∃ s, starts.getLast? = some s ∧
        (batchIn setup s).isEmpty = true ∧ cancelledIn setup engine s = false) ∧
      (r.reason = .engineRetriesExhausted → 0 < m ∧ LastUnavailable m r.cycles) ∧
      (r.reason = .cycleBudgetExhausted → r.cycles.length = setup.settings.maxCycles) ∧
      (starts = [] → r.reason = if token.isSet then .cancelled else .cycleBudgetExhausted) ∧
      (∀ s, starts.getLast? = some s →
        (cancelledIn setup engine s = true → r.reason = .cancelled) ∧
        (cancelledIn setup engine s = false → (batchIn setup s).isEmpty = true →
          r.reason = .fixpoint) ∧
        (cancelledIn setup engine s = false → (batchIn setup s).isEmpty = false → 0 < m →
          LastUnavailable m r.cycles → r.reason = .engineRetriesExhausted) ∧
        (cancelledIn setup engine s = false → (batchIn setup s).isEmpty = false →
          ¬(0 < m ∧ LastUnavailable m r.cycles) →
          (r.cycles.length = setup.settings.maxCycles → r.reason = .cycleBudgetExhausted) ∧
          (r.cycles.length < setup.settings.maxCycles →
            r.reason = .cancelled ∧ (cycle setup engine s).2.token.isSet = true))) := by
  intro st₀ r m
  have hfresh : st₀.cyclesRun = 0 := rfl
  obtain ⟨starts, hchain, hout, hlen, hend⟩ :=
    runFrom_trace setup engine (setup.settings.maxCycles - st₀.cyclesRun) st₀ [] rfl (by omega)
  have hcycles : r.cycles = starts.map fun s => (cycle setup engine s).1 := by
    rw [run_cycles, hout, List.nil_append]
  have hcount : r.cycles.length = starts.length := by rw [hcycles, List.length_map]
  have hbound : r.cycles.length ≤ setup.settings.maxCycles := by omega
  refine ⟨starts, hchain, hcycles, hbound, ?_⟩
  rcases hend with ⟨rfl, hwhy, hfinal⟩ | ⟨pre, s, rfl, hpre, hlast⟩
  · -- no cycle: the run's own checks stopped it, cancellation first
    have hreason : r.reason = if token.isSet then .cancelled else .cycleBudgetExhausted := by
      rw [run_reason, hfinal]
      rfl
    refine ⟨by simp, ?_, ?_, ?_, fun _ => hreason, by simp⟩
    · cases hset : token.isSet <;> simp [hreason, hset]
    · cases hset : token.isSet <;> simp [hreason, hset]
    · intro hbudget
      cases hset : token.isSet with
      | true => simp [hreason, hset] at hbudget
      | false =>
        rcases hwhy with hcan | hmax
        · exact absurd (hset.symm.trans hcan) (by simp)
        · simp only [List.length_nil] at hcount
          omega
  · -- the last cycle's verdict, or the read after it, stopped the run
    have hruns : (saved setup engine s).cyclesRun = r.cycles.length := by
      rw [chain_cyclesRun setup engine hchain (by simp), hfresh, hcount]
      omega
    have hfailures : (batchIn setup s).isEmpty = false →
        (saved setup engine s).failures = trailingUnavailable r.cycles := fun hbatch => by
      rw [hcycles]
      exact last_failures setup engine hchain rfl hpre hbatch
    -- the reason is the last verdict, or cancellation found set after a cycle with none
    obtain ⟨hterm, hnext⟩ := termination_after_last setup engine hlast
    have hgetD : (verdict setup.settings (cancelledIn setup engine s) (batchIn setup s).isEmpty
        (saved setup engine s).failures r.cycles.length).getD .cancelled = r.reason := by
      rw [← hruns, run_reason, hterm]
      rfl
    have hverdict : ∀ {reason : Reason}, r.reason = reason → reason ≠ .cancelled →
        verdict setup.settings (cancelledIn setup engine s) (batchIn setup s).isEmpty
          (saved setup engine s).failures r.cycles.length = some reason := fun hr hne =>
      verdict_of_getD (hgetD.trans hr) hne
    refine ⟨?_, ?_, ?_, ?_, by simp, ?_⟩
    · -- every earlier cycle had no verdict: it had a batch and saw no cancellation
      intro s' hs'
      rw [List.dropLast_concat] at hs'
      obtain ⟨hC, hE, -⟩ := (verdictIn_none_iff setup engine s').mp (hpre s' hs')
      exact ⟨fun h => by simp [(cycle_engine_eq_skipped setup engine s').mp h] at hE, hC⟩
    · constructor
      · intro hfix
        obtain ⟨hC, hE⟩ := verdict_eq_fixpoint.mp (hverdict hfix (by simp))
        exact ⟨s, by simp, hE, hC⟩
      · rintro ⟨s', hs', hE, hC⟩
        obtain rfl : s' = s := by simpa using hs'.symm
        exact ((verdict_getD_reason hgetD).2.1 hC hE)
    · intro hstop
      obtain ⟨-, hE, hm, hle⟩ := verdict_eq_engineRetriesExhausted.mp (hverdict hstop (by simp))
      rw [hfailures hE] at hle
      exact ⟨hm, (lastUnavailable_iff _ _).mpr hle⟩
    · intro hstop
      obtain ⟨-, -, -, hmax⟩ := verdict_eq_cycleBudgetExhausted.mp (hverdict hstop (by simp))
      omega
    · intro s' hs'
      obtain rfl : s = s' := by simpa using hs'
      -- the failures the verdict counts are the trailing unavailable cycles
      obtain ⟨hcan, hfix, hfail, hbudget⟩ := verdict_getD_reason hgetD
      refine ⟨hcan, hfix, fun hC hE hm hlast => hfail hC hE hm ?_, fun hC hE hnot => ?_⟩
      · rw [hfailures hE, ← lastUnavailable_iff]
        exact hlast
      · have hF : ¬(0 < m ∧ m ≤ (saved setup engine s).failures) := by
          rw [hfailures hE, ← lastUnavailable_iff]
          exact hnot
        obtain ⟨hmax, hless⟩ := hbudget hC hE hF
        refine ⟨fun heq => hmax heq.ge, fun hlt => ⟨hless hlt, hnext ?_⟩⟩
        -- with the budget not used up the cycle had no verdict
        rw [verdictIn, hruns]
        exact verdict_eq_none.mpr ⟨hC, hE, hF, hlt⟩

end DefUseCoverage.Loop
