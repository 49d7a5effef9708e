import DefUseCoverage.Proofs.CyclePhases
/-! # The loop's history follows its edges

  A run moves the loop along the edges of `Phase.Step`, and records every phase it enters.
  `State.Lawful` is what holds between runs: the history is a walk of the edges from `idle`
  that ends at the current phase, the loop rests in `idle` or `terminated`, and it has a
  reason exactly when it is terminated. A fresh loop is lawful (`State.lawful_new`).

  - A cycle from `idle` and a stop from `idle` keep the loop lawful; `runFrom` does nothing
    but these, so a run keeps it lawful and ends terminated (`runFrom_ran`).
  - Nothing leaves `terminated`, so in a walk it can only come last, and comes once.
  - Main statement: from any lawful loop, whatever the engine answers and whenever the token is
    set, a run ends terminated for the reason it returns, with
    `terminated` once and last in a history that walks the edges from `idle`; each cycle it
    returns is one `extracting`, `generating`, `awaitingResults` segment of what it appended;
    and a later run changes nothing (`run_history_lawful`).
-/

namespace DefUseCoverage.Loop

variable {σ : Type}

/-! ### Walks of the loop's edges -/

/-- Nothing leaves `terminated`. -/
theorem Phase.not_step_terminated (p : Phase) : ¬Phase.Step .terminated p := by
  intro h
  cases h

/-- In a walk, `terminated` comes only last. -/
theorem terminated_not_mem_of_walk : ∀ {h : List Phase} {b : Phase},
    (h ++ [b]).IsChain Phase.Step → Phase.terminated ∉ h
  | [], _, _ => by simp
  | a :: rest, b, hw => by
    intro hmem
    rcases List.mem_cons.mp hmem with rfl | hrest
    · -- `terminated` followed by something would be an edge out of it
      cases rest with
      | nil => exact Phase.not_step_terminated b (List.isChain_pair.mp hw)
      | cons c rest' =>
        rw [List.cons_append, List.cons_append, List.isChain_cons_cons] at hw
        exact Phase.not_step_terminated c hw.1
    · have htail : (rest ++ [b]).IsChain Phase.Step := by
        rw [List.cons_append] at hw
        exact hw.tail
      exact terminated_not_mem_of_walk htail hrest

/-- A walk that ends in `terminated` has it once. -/
theorem count_terminated_of_walk {h : List Phase} (hw : h.IsChain Phase.Step)
    (hlast : h.getLast? = some .terminated) : h.count .terminated = 1 := by
  obtain ⟨init, rfl⟩ := List.getLast?_eq_some_iff.mp hlast
  rw [List.count_append, List.count_eq_zero.mpr (terminated_not_mem_of_walk hw)]
  simp

/-! ### Lawful loops -/

/-- What holds of a loop between runs. -/
structure State.Lawful (st : State σ) : Prop where
  /-- The history starts with `idle`. -/
  start : st.history.head? = some .idle
  /-- Each two neighbours of the history are an edge of the loop. -/
  walk : st.history.IsChain Phase.Step
  /-- The history ends with the current phase. -/
  last : st.history.getLast? = some st.phase
  /-- Between runs the loop is idle or terminated. -/
  resting : st.phase = .idle ∨ st.phase = .terminated
  /-- The loop has a reason exactly when it is terminated. -/
  stopped : st.phase = .terminated ↔ st.termination.isSome

/-- A loop that has run nothing is lawful. -/
theorem State.lawful_new (store : Coverage.Store) (views : Metadata.Views) (ws : Workspace)
    (engine : σ) : (State.new store views ws engine).Lawful where
  start := rfl
  walk := .singleton _
  last := rfl
  resting := .inl rfl
  stopped := by simp [State.new]

/-- A lawful loop without a reason is idle. -/
theorem State.Lawful.idle {st : State σ} (h : st.Lawful) (hnone : st.termination = none) :
    st.phase = .idle := by
  rcases h.resting with hidle | hterm
  · exact hidle
  · have := h.stopped.mp hterm
    simp [hnone] at this

/-- A history that was a walk from `idle` stays one from `idle` when it grows. -/
theorem head?_append_of_head? {h : List Phase} (hstart : h.head? = some .idle) (tail : List Phase) :
    (h ++ tail).head? = some .idle := by
  cases h with
  | nil => simp at hstart
  | cons a rest => simpa using hstart

/-- The token plays no part in lawfulness. -/
theorem State.Lawful.withToken {st : State σ} (h : st.Lawful) (t : Token) :
    ({ st with token := t } : State σ).Lawful :=
  ⟨h.start, h.walk, h.last, h.resting, h.stopped⟩

/-- Stopping an idle loop keeps it lawful. -/
theorem State.Lawful.terminate {st : State σ} (h : st.Lawful) (hidle : st.phase = .idle)
    (r : Reason) : (st.terminate r).Lawful where
  start := by simpa using head?_append_of_head? h.start [.terminated]
  walk := by
    simpa using isChain_snoc h.walk (hidle ▸ h.last) Phase.Step.stopIdle
  last := by simp
  resting := .inr rfl
  stopped := by simp

/-- A cycle from an idle loop keeps it lawful. -/
theorem State.Lawful.cycle {st : State σ} (h : st.Lawful) (hidle : st.phase = .idle)
    (setup : Setup) (engine : Engine.Run σ) : (cycle setup engine st).2.Lawful := by
  have hE := isChain_snoc h.walk (hidle ▸ h.last) Phase.Step.start
  have hG := isChain_snoc hE (by simp) Phase.Step.generate
  have hA := isChain_snoc hG (by simp) Phase.Step.await
  rcases cycle_history setup engine st with ⟨hhist, hphase, hterm⟩ | ⟨hhist, hphase, hterm⟩
  · -- the verdict stopped the loop
    refine ⟨?_, ?_, ?_, .inr hphase, ?_⟩
    · rw [hhist]; exact head?_append_of_head? h.start _
    · rw [hhist]; simpa using isChain_snoc hA (by simp) Phase.Step.stop
    · rw [hhist, hphase]; simp
    · simp [hphase, hterm]
  · -- back to idle, still without a reason
    have hnone : st.termination = none := by
      cases hr : st.termination with
      | none => rfl
      | some r => have := h.stopped.mpr (by simp [hr]); simp [hidle] at this
    refine ⟨?_, ?_, ?_, .inl hphase, ?_⟩
    · rw [hhist]; exact head?_append_of_head? h.start _
    · rw [hhist]; simpa using isChain_snoc hA (by simp) Phase.Step.rest
    · rw [hhist, hphase]; simp
    · simp [hphase, hterm, hnone]

/-! ### Runs -/

section Run

variable (setup : Setup) (engine : Engine.Run σ)

/-- The segment of the history that each cycle leaves, idle phases apart. -/
abbrev cycleSegment : List Phase := [.extracting, .generating, .awaitingResults]

/-- What a run from `st` that returned `cycles` and left `st'` has done: the loop is lawful and
terminated; the history has grown by one `cycleSegment` per cycle, idle phases apart, and then
`terminated` unless the loop was terminated already; the cycles are numbered on from those
run before. -/
def Ran (st : State σ) (cycles : List CycleSummary) (st' : State σ) : Prop :=
  st'.Lawful ∧ st'.phase = .terminated ∧
    (∃ tail, st'.history = st.history ++ tail ∧
      tail.filter (· != .idle) = cycles.flatMap (fun _ => cycleSegment) ++
        (if st.termination.isSome then [] else [.terminated])) ∧
    cycles.map (·.cycle) = List.range' (st.cyclesRun + 1) cycles.length

/-- What a run has done does not depend on the token it started with. -/
theorem Ran.ofToken {st st' : State σ} {t : Token} {cycles : List CycleSummary}
    (h : Ran { st with token := t } cycles st') : Ran st cycles st' := h

/-- A terminated loop has run. -/
theorem ran_of_termination {st : State σ} (h : st.Lawful) {r : Reason}
    (hr : st.termination = some r) : Ran st [] st :=
  ⟨h, h.stopped.mpr (by simp [hr]), ⟨[], by simp, by simp [hr]⟩, rfl⟩

/-- Stopping a lawful loop without a reason is a run with no cycles. -/
theorem ran_terminate {st : State σ} (h : st.Lawful) (hnone : st.termination = none)
    (r : Reason) : Ran st [] (st.terminate r) :=
  ⟨h.terminate (h.idle hnone) r, rfl, ⟨[.terminated], by simp, by simp [hnone]⟩, rfl⟩

/-- A cycle whose verdict stops the loop is a run of that one cycle. -/
theorem ran_cycle_stop {st : State σ} (h : st.Lawful) (hnone : st.termination = none)
    (hhist : (cycle setup engine st).2.history =
      st.history ++ [.extracting, .generating, .awaitingResults, .terminated]) :
    Ran st [(cycle setup engine st).1] (cycle setup engine st).2 := by
  have hlaw := h.cycle (h.idle hnone) setup engine
  refine ⟨hlaw, ?_, ⟨_, hhist, by simp [hnone]⟩, by simp⟩
  have hlast := hlaw.last
  rw [hhist] at hlast
  simpa using hlast.symm

/-- A cycle that leaves the loop idle, then a run from there, is a run. -/
theorem Ran.cycle_rest {st st' : State σ} {cycles : List CycleSummary}
    (hnone : st.termination = none)
    (hhist : (cycle setup engine st).2.history =
      st.history ++ [.extracting, .generating, .awaitingResults, .idle])
    (hterm : (cycle setup engine st).2.termination = st.termination)
    (hran : Ran (cycle setup engine st).2 cycles st') :
    Ran st ((cycle setup engine st).1 :: cycles) st' := by
  obtain ⟨hlaw, hphase, ⟨tail, htail, hfilter⟩, hnum⟩ := hran
  refine ⟨hlaw, hphase, ⟨[.extracting, .generating, .awaitingResults, .idle] ++ tail, ?_, ?_⟩, ?_⟩
  · rw [htail, hhist, List.append_assoc]
  · rw [List.filter_append, hfilter, hterm, hnone]
    simp
  · rw [List.map_cons, hnum, cycle_number, cycle_cyclesRun, List.length_cons, List.range'_succ]

/-- Every run from a lawful loop adds some cycles to those it was given, and has run. -/
theorem runFrom_ran (fuel : Nat) (st : State σ) (done : List CycleSummary) : st.Lawful →
    ∃ cycles, (runFrom setup engine fuel st done).1 = done ++ cycles ∧
      Ran st cycles (runFrom setup engine fuel st done).2 := by
  -- the run's own cases: it returns, stops, or runs a cycle and goes on from a lawful loop
  fun_induction runFrom setup engine fuel st done with
  | case1 fuel st done r hr => exact fun h => ⟨[], by simp, ran_of_termination h hr⟩
  | case2 fuel st done hnone check _ _ =>
    exact fun h => ⟨[], by simp, (ran_terminate (h.withToken check.2) hnone _).ofToken⟩
  | case3 fuel st done hnone check _ _ _ =>
    exact fun h => ⟨[], by simp, (ran_terminate (h.withToken check.2) hnone _).ofToken⟩
  | case4 st done hnone check _ _ _ =>
    exact fun h => ⟨[], by simp, (ran_terminate (h.withToken check.2) hnone _).ofToken⟩
  | case5 st done hnone check st₁ _ _ fuel c st' hcycle ih =>
    intro h
    -- the cycle starts from the loop as its read of the token left it
    have h₁ : st₁.Lawful := h.withToken check.2
    have hnone₁ : st₁.termination = none := hnone
    obtain ⟨rfl, rfl⟩ : c = (cycle setup engine st₁).1 ∧ st' = (cycle setup engine st₁).2 := by
      rw [hcycle]
      exact ⟨rfl, rfl⟩
    rcases cycle_history setup engine st₁ with ⟨hhist, -, hterm⟩ | ⟨hhist, -, hterm⟩
    · -- the cycle's verdict stopped the loop, and the run ends with it
      obtain ⟨r, hr⟩ := Option.isSome_iff_exists.mp hterm
      rw [runFrom_of_termination setup engine hr]
      exact ⟨[_], rfl, (ran_cycle_stop setup engine h₁ hnone₁ hhist).ofToken⟩
    · obtain ⟨cycles, hout, hran⟩ := ih (h₁.cycle (h₁.idle hnone₁) setup engine)
      exact ⟨_ :: cycles, by rw [hout]; simp,
        (hran.cycle_rest setup engine hnone₁ hhist hterm).ofToken⟩

end Run

/-! ### The main statement -/

/-- From any lawful loop — a fresh one, or one left by earlier runs — whatever the engine
answers, whenever its token is set and whatever the limits, a run ends with a lawful
loop: its history starts with `idle` and each two neighbours are an edge; the loop is
terminated for the reason the run returns, and `terminated` is in the history once, last.
What the run appended has one `extracting`, `generating`, `awaitingResults` segment per cycle
it returns, idle phases apart, then `terminated` unless the loop was terminated already; the
cycles are numbered on from those run before. Running again returns the same reason with no
cycles and changes nothing. -/
theorem run_history_lawful (setup : Setup) (engine : Engine.Run σ) (st : State σ)
    (h : st.Lawful) :
    let r := (run setup engine st).1
    let st' := (run setup engine st).2
    st'.history.head? = some .idle ∧ st'.history.IsChain Phase.Step ∧
      st'.phase = .terminated ∧ st'.termination = some r.reason ∧
      st'.history.count .terminated = 1 ∧ st'.history.getLast? = some .terminated ∧
      (∃ tail, st'.history = st.history ++ tail ∧
        tail.filter (· != .idle) =
          r.cycles.flatMap (fun _ => [.extracting, .generating, .awaitingResults]) ++
            (if st.termination.isSome then [] else [.terminated])) ∧
      r.cycles.map (·.cycle) = List.range' (st.cyclesRun + 1) r.cycles.length ∧
      st'.Lawful ∧ run setup engine st' = ({ r with cycles := [] }, st') := by
  intro r st'
  obtain ⟨cycles, hout, hlaw, hphase, htail, hnum⟩ :=
    runFrom_ran setup engine (setup.settings.maxCycles - st.cyclesRun) st [] h
  have hcycles : r.cycles = cycles := hout
  -- a terminated lawful loop has a reason, and it is the one the run reports
  obtain ⟨reason, hreason⟩ := Option.isSome_iff_exists.mp (hlaw.stopped.mp hphase)
  have hterm : st'.termination = some reason := hreason
  have hlast : st'.history.getLast? = some .terminated := hphase ▸ hlaw.last
  refine ⟨hlaw.start, hlaw.walk, hphase, ?_, count_terminated_of_walk hlaw.walk hlast, hlast,
    hcycles ▸ htail, hcycles ▸ hnum, hlaw, ?_⟩
  · have hr : r.reason = st'.termination.getD .cycleBudgetExhausted := rfl
    rw [hr, hterm]
    rfl
  · -- the second run finds the reason and returns at once
    have hagain := runFrom_of_termination setup engine hterm
      (setup.settings.maxCycles - st'.cyclesRun) []
    unfold run
    rw [hagain]
    rfl

/-- A fresh loop, with no store, metadata or stub template, whose engine reports nothing,
ends its first run terminated, once. -/
theorem fresh_run_terminates_once :
    let st := State.new ({} : Coverage.Store) ⟨{}, {}, .static⟩ Workspace.initial ()
    let run₁ := run { strategy := ⟨[], 0, 2⟩ } (fun _ _ _ ws => ⟨.ok {}, (), ws, false⟩) st
    st.Lawful ∧ run₁.2.phase = .terminated ∧ run₁.2.history.count .terminated = 1 :=
  have h := State.lawful_new ({} : Coverage.Store) ⟨{}, {}, .static⟩ Workspace.initial ()
  have hrun := run_history_lawful { strategy := ⟨[], 0, 2⟩ }
    (fun _ _ _ ws => ⟨.ok {}, (), ws, false⟩) _ h
  ⟨h, hrun.2.2.1, hrun.2.2.2.2.1⟩

end DefUseCoverage.Loop
