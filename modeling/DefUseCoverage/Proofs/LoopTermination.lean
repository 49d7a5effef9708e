import Mathlib
import DefUseCoverage.Proofs.CycleEffects
/-! # The loop stops within a bound its budget does not set

  Let `M` be the number of def-use triples of the views a loop starts with: a field, a method
  recorded as defining it and one recorded as using it, in the static or the dynamic view.
  Observing adds no triple, so every pair extraction registers comes from one of them, and a
  triple whose pair is registered stays so (`tripleRegistered_mono`).

  After its first cycle the loop is `Steady`: every uncovered pair has had its turn, so a cycle
  emits a stub only when its extraction registered a new pair, one more registered triple
  (`registeredTriples_saved_ssubset`). A cycle that emits nothing and does not stop sends again
  a batch the engine failed on: the engine takes it, and nothing waits any more, or fails on it,
  one more failure in a row. So with a positive limit on failures in a row the potential

    `(M - registered triples) * (limit + 2) + (limit + 1 - failures, when a batch waits)`

  falls with each cycle that does not stop (`potential_saved_lt`), from at most
  `M * (limit + 2) + limit + 1` after the first cycle (`potential_le`). Main statement: a run
  has at most `(M + 2) * (limit + 2)` cycles, whatever its budget, store, strategy and engine
  (`run_cycles_le_triples_bound`).
-/

namespace DefUseCoverage.Loop

open Coverage Metadata

open Coverage.Store (Steps)

variable {σ : Type}

/-! ### Registered triples -/

/-- Whether the pair a triple forms, at the type its field resolves to in the views, is
registered. -/
def tripleRegistered (views : Views) (store : Store) (c : Candidate) : Bool :=
  (views.resolve? .field c.field).any fun ty =>
    (store.statusOf ⟨ty, c.field, c.defMethod, c.useMethod⟩).isSome

/-- The triples of `T` whose pair is registered in a loop's state. -/
def registeredTriples (T : Finset Candidate) (st : State σ) : Finset Candidate :=
  T.filter fun c => tripleRegistered st.views st.store c

/-- A triple that forms a pair is registered exactly when its pair is. -/
theorem tripleRegistered_of_extract {views : Views} {c : Candidate} {p : Pair}
    (h : views.extract c = .ok p) (store : Store) :
    tripleRegistered views store c = (store.statusOf p).isSome := by
  obtain ⟨hcand, hfield, -, -⟩ := extract_eq_ok.mp h
  subst hcand
  have hfield' : views.resolve? .field p.field = some p.declaringType := hfield
  simp [tripleRegistered, Pair.toCandidate, hfield']

/-- A registered triple stays registered as the views grow and the store takes steps. -/
theorem tripleRegistered_mono {views views' : Views} (hv : views.Grows views') {P : Update → Prop}
    {s s' : Store} (hs : Steps P s s') {c : Candidate} (h : tripleRegistered views s c = true) :
    tripleRegistered views' s' c = true := by
  unfold tripleRegistered at h ⊢
  cases hr : views.resolve? .field c.field with
  | none => simp [hr] at h
  | some ty =>
    rw [hr] at h
    rw [hv.resolve? hr]
    exact hs.registered h

/-! ### The steady loop -/

/-- A loop's state between cycles after its first one, against the views `views₀` it started
with: a well-formed store whose uncovered pairs have all had their turn, views grown from
`views₀`, and fewer failures in a row than the limit. -/
structure Steady (setup : Setup) (views₀ : Views) (st : State σ) : Prop where
  /-- The store is well formed. -/
  wf : st.store.WF
  /-- Every uncovered pair has had its turn. -/
  tried : AllTried setup.strategy st.store
  /-- The views only grew. -/
  grows : views₀.Grows st.views
  /-- The failures in a row are under the limit. -/
  failures : st.failures < setup.settings.maxEngineFailures

/-- Reading the token keeps a loop steady. -/
theorem Steady.afterRead {setup : Setup} {views₀ : Views} {st : State σ}
    (h : Steady setup views₀ st) : Steady setup views₀ st.afterRead :=
  ⟨h.wf, h.tried, h.grows, h.failures⟩

section Cycle

variable (setup : Setup) (engine : Engine.Run σ) (st : State σ)

/-- With a positive limit on failures in a row, a cycle with no verdict from a well-formed store
leaves the loop steady: seeing no cancellation, its generation gave every pair its turn. -/
theorem steady_cycle (hmef : 0 < setup.settings.maxEngineFailures) {views₀ : Views}
    (hwf : st.store.WF) (hgrows : views₀.Grows st.views)
    (hnone : verdictIn setup engine st = none) : Steady setup views₀ (cycle setup engine st).2 := by
  obtain ⟨hcan, -, hfail, -⟩ := (verdictIn_none_iff setup engine st).mp hnone
  rw [cycle_of_verdictIn_none setup engine st hnone]
  refine ⟨saved_wf setup engine st hwf,
    saved_allTried setup engine st hwf (generated_cancelled_of_cancelledIn setup engine st hcan),
    hgrows.trans (saved_grows setup engine st), ?_⟩
  simp only [State.enter_failures]
  omega

/-- A cycle that hands the engine a batch either has it taken, with the failures in a row
starting over and nothing waiting, or refused, with one more failure in a row and the batch
waiting. -/
theorem saved_outcome (hb : (batchIn setup st).isEmpty = false) :
    ((saved setup engine st).failures = 0 ∧ (saved setup engine st).undelivered = []) ∨
      ((saved setup engine st).failures = st.failures + 1 ∧
        (saved setup engine st).undelivered = batchIn setup st) := by
  unfold saved persisted
  rcases deliver_cases setup engine (batchIn setup st) (summaryIn setup st) (awaiting setup st) with
    ⟨hr, -⟩ | ⟨_, _, -, -, h⟩ | ⟨_, _, -, -, h⟩
  · have hempty := replyTo_eq_none hr
    simp [hempty] at hb
  · rw [h]
    exact .inl ⟨rfl, rfl⟩
  · rw [h]
    exact .inr ⟨rfl, rfl⟩

variable (T : Finset Candidate)

/-- A cycle keeps every registered triple registered. -/
theorem registeredTriples_saved_subset :
    registeredTriples T st ⊆ registeredTriples T (saved setup engine st) := by
  intro c hc
  rw [registeredTriples, Finset.mem_filter] at hc ⊢
  exact ⟨hc.1, tripleRegistered_mono (saved_grows setup engine st)
    (saved_store_steps setup engine st) hc.2⟩

/-- A cycle of a steady loop that emits a stub registers one more triple of the starting views:
with every uncovered pair tried before, only a pair its extraction registered can emit. -/
theorem registeredTriples_saved_ssubset {views₀ : Views} (h : Steady setup views₀ st)
    (hT : ∀ c ∈ views₀.triples, c ∈ T) (he : emittedIn setup st ≠ []) :
    registeredTriples T st ⊂ registeredTriples T (saved setup engine st) := by
  rcases extracted_eq_or_registers setup st h.wf with hsame | ⟨c, hc, p, hp, hnew, hreg⟩
  · -- extraction left the store, whose uncovered pairs had all had their turn
    exact absurd (emittedIn_of_allTried setup st (hsame ▸ h.wf) (hsame ▸ h.tried)) he
  · refine (Finset.ssubset_iff_of_subset (registeredTriples_saved_subset setup engine st T)).mpr
      ⟨c, ?_, ?_⟩
    · -- the triple is registered after the cycle: its pair was by the extraction
      have htriple : c ∈ T :=
        hT c (h.grows.triples_subset (Views.mem_triples_of_mem_candidates hc))
      have hafter : tripleRegistered st.views (extractPhase setup st).2.store c = true := by
        rw [tripleRegistered_of_extract hp]
        exact hreg
      exact Finset.mem_filter.mpr ⟨htriple, tripleRegistered_mono (saved_grows setup engine st)
        (saved_store_steps_of_extracted setup engine st) hafter⟩
    · -- and was not before
      rw [registeredTriples, Finset.mem_filter, tripleRegistered_of_extract hp, hnew]
      simp

/-! ### The potential -/

/-- The potential of a loop's state for the triples `T`: the triples left to register, each
weighing more than any waiting batch, and for a waiting batch the failures in a row left. -/
def potential (st : State σ) : Nat :=
  (T.card - (registeredTriples T st).card) * (setup.settings.maxEngineFailures + 2) +
    if st.undelivered = [] then 0 else setup.settings.maxEngineFailures + 1 - st.failures

/-- The potential is at most the weight of every triple and a full count of failures left. -/
theorem potential_le :
    potential setup T st ≤
      T.card * (setup.settings.maxEngineFailures + 2) + setup.settings.maxEngineFailures + 1 := by
  have hweight : (T.card - (registeredTriples T st).card) * (setup.settings.maxEngineFailures + 2)
      ≤ T.card * (setup.settings.maxEngineFailures + 2) :=
    Nat.mul_le_mul_right _ (Nat.sub_le _ _)
  unfold potential
  split <;> omega

/-- Each cycle of a steady loop that does not stop lowers the potential. -/
theorem potential_saved_lt {views₀ : Views} (h : Steady setup views₀ st)
    (hT : ∀ c ∈ views₀.triples, c ∈ T) (hnone : verdictIn setup engine st = none) :
    potential setup T (saved setup engine st) < potential setup T st := by
  obtain ⟨-, hbatch, -, -⟩ := (verdictIn_none_iff setup engine st).mp hnone
  have hbatch' : batchIn setup st ≠ [] := fun hnil => by simp [hnil] at hbatch
  have hfail := h.failures
  have hsub := Finset.card_le_card (registeredTriples_saved_subset setup engine st T)
  have hle : (registeredTriples T (saved setup engine st)).card ≤ T.card :=
    Finset.card_le_card (Finset.filter_subset _ _)
  unfold potential
  generalize hk : setup.settings.maxEngineFailures + 2 = k
  by_cases he : emittedIn setup st = []
  · -- nothing new: the batch is the one that waited, sent again
    have hwait : st.undelivered ≠ [] := by
      intro hnil
      have hresent : resentIn setup st = [] := by rw [resentIn_eq, hnil, List.filter_nil]
      simp [batchIn, hresent, he] at hbatch
    have hweight : (T.card - (registeredTriples T (saved setup engine st)).card) * k ≤
        (T.card - (registeredTriples T st).card) * k :=
      Nat.mul_le_mul_right _ (Nat.sub_le_sub_left hsub _)
    rw [if_neg hwait]
    rcases saved_outcome setup engine st hbatch with ⟨hf, hu⟩ | ⟨hf, hu⟩
    · rw [if_pos hu]
      omega
    · rw [hu, if_neg hbatch', hf]
      omega
  · -- a new stub: one more registered triple outweighs any waiting batch
    have hlt := Finset.card_lt_card (registeredTriples_saved_ssubset setup engine st T h hT he)
    have hweight : (T.card - (registeredTriples T (saved setup engine st)).card + 1) * k ≤
        (T.card - (registeredTriples T st).card) * k :=
      Nat.mul_le_mul_right _ (by omega)
    rw [Nat.add_mul, Nat.one_mul] at hweight
    split <;> split <;> omega

/-- Entering `idle` changes no part of the potential. -/
theorem potential_enter (p : Phase) : potential setup T (st.enter p) = potential setup T st := rfl

end Cycle

/-! ### Runs -/

section Run

variable (setup : Setup) (engine : Engine.Run σ) (T : Finset Candidate)

/-- Along a chain of cycles from a steady loop, whose verdicts are `none` but the last one's,
each cycle lowers the potential: the cycles before the last are at most the potential. -/
theorem chain_length_le_potential (hmef : 0 < setup.settings.maxEngineFailures) {views₀ : Views}
    (hT : ∀ c ∈ views₀.triples, c ∈ T) :
    ∀ {st : State σ} {pre : List (State σ)} {s : State σ}, Steady setup views₀ st →
      CycleChain setup engine st (pre ++ [s]) → (∀ s' ∈ pre, verdictIn setup engine s' = none) →
      pre.length ≤ potential setup T st
  | _, [], _, _, _, _ => Nat.zero_le _
  | st, s₀ :: rest, s, hst, ⟨_, hs₀, hchain⟩, hpre => by
    subst hs₀
    -- the cycle starts once the token is read, which changes neither steadiness nor potential
    have hnone := hpre st.afterRead List.mem_cons_self
    have hread := hst.afterRead
    have hnext : Steady setup views₀ (cycle setup engine st.afterRead).2 :=
      steady_cycle setup engine st.afterRead hmef hread.wf hread.grows hnone
    have hlt : potential setup T (cycle setup engine st.afterRead).2 < potential setup T st := by
      rw [cycle_of_verdictIn_none setup engine st.afterRead hnone, potential_enter]
      exact potential_saved_lt setup engine st.afterRead T hread hT hnone
    have hrest := chain_length_le_potential hmef hT hnext hchain
      (fun s' hs' => hpre s' (List.mem_cons_of_mem st.afterRead hs'))
    rw [List.length_cons]
    omega

/-- A run from a fresh loop with a well-formed store and a positive limit on engine failures in a
row has at most `(M + 2) * (limit + 2)` cycles, `M` the def-use triples of the views it starts
with, whatever the budget, the strategy, the engine and what its reports say. -/
theorem run_cycles_le_triples_bound (store : Store) (views : Views) (ws : Workspace) (e : σ)
    (hs : store.WF) (hmef : 0 < setup.settings.maxEngineFailures) :
    (run setup engine (State.new store views ws e)).1.cycles.length ≤
      (views.triples.toFinset.card + 2) * (setup.settings.maxEngineFailures + 2) := by
  have hT : ∀ c ∈ views.triples, c ∈ views.triples.toFinset := fun _ => List.mem_toFinset.mpr
  obtain ⟨starts, hchain, hcycles, -, hend⟩ :=
    runFrom_trace setup engine (setup.settings.maxCycles - (State.new store views ws e).cyclesRun)
      (State.new store views ws e) [] rfl (by simp [State.new])
  rw [run_cycles, hcycles, List.nil_append, List.length_map]
  have hbound : (views.triples.toFinset.card + 2) * (setup.settings.maxEngineFailures + 2) =
      views.triples.toFinset.card * (setup.settings.maxEngineFailures + 2) +
        2 * setup.settings.maxEngineFailures + 4 := by ring
  rcases hend with ⟨rfl, -, -⟩ | ⟨pre, s, rfl, hpre, -⟩
  · exact Nat.zero_le _
  · cases pre with
    | nil =>
      simp only [List.nil_append, List.length_singleton]
      omega
    | cons s₀ rest =>
      -- the first cycle makes the loop steady; the potential then bounds the rest
      obtain ⟨-, hs₀, hrest⟩ := hchain
      subst hs₀
      have hnone := hpre _ List.mem_cons_self
      have hsteady :
          Steady setup views (cycle setup engine (State.new store views ws e).afterRead).2 :=
        steady_cycle setup engine _ hmef hs (Views.Grows.refl views) hnone
      have hlen := chain_length_le_potential setup engine _ hmef hT hsteady hrest
        (fun s' hs' => hpre s' (List.mem_cons_of_mem _ hs'))
      have hpot := potential_le setup (cycle setup engine (State.new store views ws e).afterRead).2
        views.triples.toFinset
      simp only [List.cons_append, List.length_cons, List.length_append, List.length_nil]
      omega

/-- A fresh loop with a budget of a thousand cycles over a store with one uncovered pair, under
views that declare the pair's field, definition and use, whose engine fails on every batch, runs
at most `(M + 2) * (3 + 2)` cycles, `M` the one triple of the views and `3` the default limit of
failures in a row. -/
theorem failing_engine_run_within_triples_bound :
    let setup : Setup := { settings := { maxCycles := 1000 }, strategy := ⟨[], 0, 2⟩ }
    let store := ({} : Store).runAll [.register ⟨"T", "T.F", "T.Set", "T.Get"⟩]
    let views : Views := ⟨⟨["T"], [("T.F", "T")],
      [("T.Set", ⟨"T", ["T.F"], []⟩), ("T.Get", ⟨"T", [], ["T.F"]⟩)]⟩, {}, .static⟩
    store.WF ∧ 0 < setup.settings.maxEngineFailures ∧
      (run setup (fun _ _ _ ws => ⟨.error (.launch "engine down"), (), ws, false⟩)
          (State.new store views Workspace.initial ())).1.cycles.length ≤
        (views.triples.toFinset.card + 2) * (setup.settings.maxEngineFailures + 2) :=
  have hwf := (Store.wf_empty.runAll [.register ⟨"T", "T.F", "T.Set", "T.Get"⟩]).1
  ⟨hwf, by decide, run_cycles_le_triples_bound _ _ _ _ _ _ hwf (by decide)⟩

end Run

end DefUseCoverage.Loop
