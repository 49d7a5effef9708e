import Mathlib
import DefUseCoverage.Proofs.CycleEffects
import DefUseCoverage.Proofs.SnapshotFile
/-! # A run resumed after a fixpoint does nothing

  A store is `Closed` under views when it is well formed, every uncovered pair has had its turn,
  and every candidate of the types of interest that forms a pair has it registered.

  - A loop started over a closed store stops at a fixpoint after one cycle that registers no
    pair, emits no stub and never calls the engine, and keeps its store (`run_of_closed`).
  - A run that stops at a fixpoint leaves a store closed under its last views: its last cycle
    registered every candidate's pair, gave every uncovered pair its turn and sent nothing
    (`fixpoint_closed`).
  - Closure survives a smaller dynamic view. A sub-database records its fields and methods as
    the database does, with defines and uses among the database's; it resolves every name it
    knows to the same type and lists no candidate the database lacks, when the databases are as
    their operations build them (`Views.extract_sub`, `Views.candidates_sub`).

  Main statement: after a run that stops at a fixpoint, a run over its store, with the same
  static view, policy, types of interest and strategy, a sub-database of its dynamic view, any
  workers, engine and budget of at least one cycle, stops at a fixpoint after one cycle that
  registers and emits nothing and never calls the engine, and ends with the same store
  (`resume_after_fixpoint`).
-/

namespace DefUseCoverage

open Coverage Metadata

open Coverage.Store (Steps)

/-! ### Sub-databases -/

namespace Metadata

namespace Db

/-- In a well-formed database a field has the type it is recorded with. -/
theorem WF.fieldType?_eq_some_iff {db : Db} (h : db.WF) {n t : String} :
    db.fieldType? n = some t ↔ (n, t) ∈ db.fields := by
  rw [fieldType?, find?_map_snd]
  exact lookup_eq_some_iff h.fields_nodup n t

/-- In a well-formed database a method is what it is recorded with. -/
theorem WF.method?_eq_some_iff {db : Db} (h : db.WF) {n : String} {m : Method} :
    db.method? n = some m ↔ (n, m) ∈ db.methods := by
  rw [method?, find?_map_snd]
  exact lookup_eq_some_iff h.methods_nodup n m

/-- A recorded field has the type of its first record. -/
theorem mem_fields_of_fieldType? {db : Db} {n t : String} (h : db.fieldType? n = some t) :
    (n, t) ∈ db.fields := by
  obtain ⟨e, he, rfl⟩ := Option.map_eq_some_iff.mp h
  have hkey : e.1 = n := by simpa using List.find?_some he
  exact hkey ▸ List.mem_of_find?_eq_some he

/-- `d'` is a sub-database of `d`: every field `d'` records is recorded in `d` with the same type,
and every method `d'` records is recorded in `d` with the same type and at least its defines and
uses. -/
structure Sub (d' d : Db) : Prop where
  /-- Fields are recorded with the same type. -/
  fields : ∀ e ∈ d'.fields, e ∈ d.fields
  /-- Methods are recorded with the same type and more defines and uses. -/
  methods : ∀ e ∈ d'.methods, ∃ md, (e.1, md) ∈ d.methods ∧
    md.declaringType = e.2.declaringType ∧ (∀ f ∈ e.2.defines, f ∈ md.defines) ∧
    ∀ f ∈ e.2.uses, f ∈ md.uses

theorem Sub.refl (d : Db) : d.Sub d :=
  ⟨fun _ h => h, fun e he => ⟨e.2, he, rfl, fun _ h => h, fun _ h => h⟩⟩

/-- The empty database is a sub-database of every database. -/
theorem empty_sub (d : Db) : ({} : Db).Sub d := ⟨by simp, by simp⟩

/-- A sub-database of a well-formed database resolves every name it knows as the database
does. -/
theorem Sub.resolve? {d' d : Db} (h : d'.Sub d) (hd : d.WF) {k : Kind} {n t : String}
    (hr : d'.resolve? k n = some t) : d.resolve? k n = some t := by
  cases k with
  | field =>
    exact hd.fieldType?_eq_some_iff.mpr (h.fields _ (mem_fields_of_fieldType? hr))
  | method =>
    obtain ⟨m', hm', rfl⟩ := Option.map_eq_some_iff.mp hr
    obtain ⟨md, hmd, hty, -, -⟩ := h.methods _ (mem_methods_of_method? hm')
    simp [Db.resolve?, hd.method?_eq_some_iff.mpr hmd, hty]

/-- A candidate of a sub-database is one of the database, for types that include its field's. -/
theorem Sub.mem_candidates {d' d : Db} (h : d'.Sub d) {types types' : List String}
    {c : Candidate} (hc : c ∈ d'.candidates types)
    (htypes : ∀ ty ∈ types, (c.field, ty) ∈ d.fields → ty ∈ types') :
    c ∈ d.candidates types' := by
  obtain ⟨⟨ty, hty, hf⟩, ⟨md', hd', hdef⟩, mu', hu', huse⟩ := Db.mem_candidates.mp hc
  obtain ⟨md, hmd, -, hdefs, -⟩ := h.methods _ hd'
  obtain ⟨mu, hmu, -, -, huses⟩ := h.methods _ hu'
  have hfield := h.fields _ hf
  exact Db.mem_candidates.mpr ⟨⟨ty, htypes ty hty hfield, hfield⟩, ⟨md, hmd, hdefs _ hdef⟩, mu, hmu,
    huses _ huse⟩

end Db

namespace Views

/-- The views with another dynamic database. -/
abbrev withDynamic (v : Views) (d : Db) : Views := { v with dynamic := d }

variable {v : Views} {d : Db}

/-- Views with a sub-database of the dynamic view resolve every name they know as the views do. -/
theorem resolve?_sub (hsub : d.Sub v.dynamic) (hwf : v.dynamic.WF) {k : Kind} {n t : String}
    (hr : (v.withDynamic d).resolve? k n = some t) : v.resolve? k n = some t :=
  @resolve?_of_dynamic (v.withDynamic d) v rfl rfl (fun _ _ _ h => hsub.resolve? hwf h) _ _ _ hr

/-- Views with a sub-database of the dynamic view form from a candidate the pair the views
form. -/
theorem extract_sub (hsub : d.Sub v.dynamic) (hwf : v.dynamic.WF) {c : Candidate} {p : Pair}
    (h : (v.withDynamic d).extract c = .ok p) : v.extract c = .ok p := by
  obtain ⟨hcand, hf, hd, hu⟩ := extract_eq_ok.mp h
  exact extract_eq_ok.mpr ⟨hcand, resolve?_sub hsub hwf hf, resolve?_sub hsub hwf hd,
    resolve?_sub hsub hwf hu⟩

/-- A type is known to the views when a consulted database lists it. -/
theorem mem_knownTypes {ty : String} : ty ∈ v.knownTypes ↔ ∃ db ∈ v.ordered, ty ∈ db.types := by
  simp [knownTypes]

/-- Every database the views with a sub-database consult is a sub-database of one the views
consult. -/
theorem ordered_sub (hsub : d.Sub v.dynamic) {db : Db} (hdb : db ∈ (v.withDynamic d).ordered) :
    ∃ db' ∈ v.ordered, db.Sub db' := by
  cases hp : v.policy <;>
    simp only [ordered, hp, List.mem_cons, List.not_mem_nil, or_false,
      exists_eq_or_imp, exists_eq_left] at hdb ⊢
  · exact hdb ▸ Db.Sub.refl _
  · exact hdb ▸ hsub
  · rcases hdb with rfl | rfl
    · exact .inl (Db.Sub.refl _)
    · exact .inr hsub

/-- The databases the views consult are well formed when both views are. -/
theorem wf_of_mem_ordered (hs : v.static.WF) (hd : v.dynamic.WF) {db : Db} (h : db ∈ v.ordered) :
    db.WF := by
  cases hp : v.policy <;>
    simp only [ordered, hp, List.mem_cons, List.not_mem_nil, or_false] at h
  · exact h ▸ hs
  · exact h ▸ hd
  · rcases h with rfl | rfl <;> assumption

end Views

end Metadata

namespace Loop

/-- A list without neighbours that are equal has the members of the list. -/
theorem mem_dropAdjacentRepeats {x : String} {l : List String} :
    x ∈ dropAdjacentRepeats l ↔ x ∈ l := by
  fun_induction dropAdjacentRepeats l with
  | case1 b rest ih => rw [ih]; simp
  | case2 a b rest _ ih => rw [List.mem_cons, ih, ← List.mem_cons]
  | case3 xs => rfl

/-- The types of interest are the configured ones, or every known type when none is configured. -/
theorem mem_typesOfInterest {configured : List String} {views : Views} {ty : String} :
    ty ∈ typesOfInterest configured views ↔
      ty ∈ (if configured.isEmpty then views.knownTypes else configured) := by
  simp [typesOfInterest, mem_dropAdjacentRepeats]

/-- Views with a sub-database of the dynamic view, both databases as their operations build
them, list no candidate of the types of interest that the views do not. -/
theorem candidates_sub {v : Views} {d : Db} (hsub : d.Sub v.dynamic) (hstatic : v.static.WF)
    (hwf : v.dynamic.WF) (configured : List String) {c : Candidate}
    (hc : c ∈ (v.withDynamic d).candidates (typesOfInterest configured (v.withDynamic d))) :
    c ∈ v.candidates (typesOfInterest configured v) := by
  simp only [Views.candidates, mem_dedup, List.mem_flatMap] at hc ⊢
  obtain ⟨db, hdb, hc⟩ := hc
  obtain ⟨db', hdb', hsub'⟩ := Views.ordered_sub hsub hdb
  refine ⟨db', hdb', hsub'.mem_candidates hc fun ty hty hf => ?_⟩
  rw [mem_typesOfInterest] at hty ⊢
  split at hty
  · -- with no types configured, the field's type is known: its database lists it
    rw [if_pos (by assumption)]
    exact Views.mem_knownTypes.mpr
      ⟨db', hdb', (Views.wf_of_mem_ordered hstatic hwf hdb').field_types _ hf⟩
  · rw [if_neg (by assumption)]
    exact hty

/-! ### Closed stores -/

variable {σ : Type}

/-- A store closed under views for a setup: well formed, every uncovered pair tried with the
setup's strategy, and every candidate of the setup's types of interest that forms a pair
registered. -/
structure Closed (setup : Setup) (views : Views) (store : Store) : Prop where
  /-- The store is well formed. -/
  wf : store.WF
  /-- Every uncovered pair has had its turn. -/
  tried : AllTried setup.strategy store
  /-- Every pair a candidate of the types of interest forms is registered. -/
  registered : ∀ c ∈ views.candidates (typesOfInterest setup.settings.typesOfInterest views),
    ∀ p, views.extract c = .ok p → (store.statusOf p).isSome

/-- Stopping leaves the views. -/
@[simp] theorem State.terminate_views (st : State σ) (r : Reason) :
    (st.terminate r).views = st.views := rfl

/-- The loop's state after a run is the state its cycles left. -/
theorem run_snd (setup : Setup) (engine : Engine.Run σ) (st : State σ) :
    (run setup engine st).2 =
      (runFrom setup engine (setup.settings.maxCycles - st.cyclesRun) st []).2 := rfl

/-- The store summary a run reports is that of its last store. -/
theorem run_store (setup : Setup) (engine : Engine.Run σ) (st : State σ) :
    (run setup engine st).1.store = (run setup engine st).2.store.summary := rfl

section Closed

variable (setup : Setup) (engine : Engine.Run σ) {views : Views} {store : Store} (ws : Workspace)
  (e : σ)

/-- The first cycle of a fresh loop over a closed store, which starts once the loop has read its
token, registers nothing, emits nothing, sends no batch and finds a fixpoint, keeping the store
and the engine. -/
theorem cycle_of_closed (h : Closed setup views store) :
    verdictIn setup engine (State.new store views ws e).afterRead = some .fixpoint ∧
      (saved setup engine (State.new store views ws e).afterRead).store = store ∧
      (saved setup engine (State.new store views ws e).afterRead).engine = e ∧
      (cycle setup engine (State.new store views ws e).afterRead).1.newPairs = 0 ∧
      (cycle setup engine (State.new store views ws e).afterRead).1.putsEmitted = 0 ∧
      (cycle setup engine (State.new store views ws e).afterRead).1.engine = .skipped := by
  set st : State σ := (State.new store views ws e).afterRead
  obtain ⟨hext, hnew⟩ := extractAll_of_registered views h.wf h.registered
  have hext' : (extractPhase setup st).2.store = store := hext
  have he : emittedIn setup st = [] :=
    emittedIn_of_allTried setup st (hext' ▸ h.wf) (hext' ▸ h.tried)
  have hb : batchIn setup st = [] := by
    have hresent : resentIn setup st = [] := by rw [resentIn_eq]; rfl
    rw [batchIn, hresent, he, List.append_nil]
  obtain ⟨-, hstore, hengine, hcancel⟩ := saved_of_batch_empty setup engine st hb
  -- a fresh loop's token is never set: generation and the read at the verdict find it not set
  have hnever : st.token.setFrom = none := Token.read_setFrom _
  have hgen : (generated setup st).1.cancelled = false := by
    rw [generated_report]
    exact generateAll_cancelled setup.workers hnever _ _
  have hcan : cancelledIn setup engine st = false := by
    rw [cancelledIn_eq, hgen, hcancel, generated_token,
      Token.isSet_of_setFrom_none _ (by rw [Token.afterPass_setFrom, hnever])]
    rfl
  have hsummary := cycle_summary_of_batch_empty setup engine st hb
  have hkeep : (saved setup engine st).store = store :=
    hstore.trans ((generated_store_of_emitted setup st he).trans hext')
  have hengine' : (saved setup engine st).engine = e := hengine
  refine ⟨?_, hkeep, hengine', ?_, ?_, ?_⟩

  · rw [verdictIn, verdict_eq_fixpoint, hcan, hb]
    exact ⟨rfl, rfl⟩
  · rw [hsummary]
    exact hnew
  · rw [hsummary]
    show (emittedIn setup st).length = 0
    rw [he, List.length_nil]
  · rw [cycle_engine_eq_skipped, hb]
    rfl

/-- A fresh loop over a closed store, with a budget of at least one cycle, stops at a fixpoint
after one cycle that registers no pair, emits no stub and never calls the engine, and keeps its
store. -/
theorem run_of_closed (h : Closed setup views store) (hmax : 0 < setup.settings.maxCycles) :
    (run setup engine (State.new store views ws e)).1.reason = .fixpoint ∧
      (run setup engine (State.new store views ws e)).1.cycles.length = 1 ∧
      (∀ c ∈ (run setup engine (State.new store views ws e)).1.cycles,
        c.newPairs = 0 ∧ c.putsEmitted = 0 ∧ c.engine = .skipped) ∧
      (run setup engine (State.new store views ws e)).2.engine = e ∧
      (run setup engine (State.new store views ws e)).2.store = store := by
  set st : State σ := State.new store views ws e
  obtain ⟨hfix, hstore, hengine, hnew, hputs, hskip⟩ := cycle_of_closed setup engine ws e h
  obtain ⟨starts, hchain, hcycles, -, hend⟩ :=
    runFrom_trace setup engine (setup.settings.maxCycles - st.cyclesRun) st [] rfl
      (by simp [st, State.new])
  rcases hend with ⟨-, hstop, -⟩ | ⟨pre, s, rfl, hpre, hlast⟩
  · -- a fresh loop, its token not set, within its budget runs its first cycle
    simp [st, State.new, Token.isSet] at hstop
    omega
  -- the first cycle already has a verdict, so it is the only one
  have hpre_nil : pre = [] := by
    cases pre with
    | nil => rfl
    | cons s₀ rest =>
      obtain ⟨-, hs₀, -⟩ := hchain
      have hnone := hpre s₀ List.mem_cons_self
      rw [hs₀, hfix] at hnone
      cases hnone
  subst hpre_nil
  obtain ⟨-, rfl, -⟩ := hchain
  rcases hlast with ⟨r, hr, hfinal⟩ | ⟨hnone, -⟩
  · obtain rfl : r = .fixpoint := Option.some.inj (hr.symm.trans hfix)
    refine ⟨?_, ?_, ?_, ?_, ?_⟩
    · rw [run_reason, hfinal]
      rfl
    · rw [run_cycles, hcycles]
      rfl
    · rw [run_cycles, hcycles]
      simp only [List.nil_append, List.map_cons, List.map_nil, List.mem_singleton]
      rintro c rfl
      exact ⟨hnew, hputs, hskip⟩
    · rw [run_snd, hfinal, State.terminate_engine, hengine]
    · rw [run_snd, hfinal, State.terminate_store, hstore]
  · rw [hfix] at hnone
    cases hnone

end Closed

/-! ### Runs that stop at a fixpoint -/

section Fixpoint

variable (setup : Setup) (engine : Engine.Run σ)

/-- Along a chain of cycles whose verdicts are `none` but the last one's, what reading the token
and every cycle with no verdict keep holds at the start of the last. -/
theorem CycleChain.last_of_step (P : State σ → Prop) (hread : ∀ s, P s → P s.afterRead)
    (hstep : ∀ s, P s → verdictIn setup engine s = none → P (cycle setup engine s).2) :
    ∀ {st : State σ} {pre : List (State σ)} {s : State σ}, P st →
      CycleChain setup engine st (pre ++ [s]) → (∀ s' ∈ pre, verdictIn setup engine s' = none) →
      P s
  | st, [], _, hst, ⟨_, hs, _⟩, _ => hs ▸ hread st hst
  | st, s₀ :: rest, _, hst, ⟨_, hs₀, hchain⟩, hpre => by
    subst hs₀
    exact CycleChain.last_of_step P hread hstep
      (hstep st.afterRead (hread st hst) (hpre st.afterRead List.mem_cons_self)) hchain
      (fun s' hs' => hpre s' (List.mem_cons_of_mem _ hs'))

/-- What holds at the start of every cycle of a run from a fresh loop over `views₀`: a
well-formed store, views grown from `views₀`, and a dynamic view as its operations build it when
the first one was. -/
structure Started (views₀ : Views) (st : State σ) : Prop where
  /-- The store is well formed. -/
  wf : st.store.WF
  /-- The views only grew. -/
  grows : views₀.Grows st.views
  /-- The dynamic view stays well formed. -/
  dynamic : views₀.dynamic.WF → st.views.dynamic.WF

/-- A cycle keeps the dynamic view well formed: observing does. -/
theorem saved_dynamic_wf (st : State σ) (h : st.views.dynamic.WF) :
    (saved setup engine st).views.dynamic.WF := by
  rcases saved_views_store setup engine st with ⟨hv, -⟩ | ⟨report, hv, -⟩ <;> rw [hv]
  · exact h
  · exact Views.wf_foldl_observe h report.observed

/-- Entering a phase keeps what holds at the start of a cycle. -/
theorem Started.enter {views₀ : Views} {st : State σ} (h : Started views₀ st) (p : Phase) :
    Started views₀ (st.enter p) :=
  ⟨h.wf, h.grows, h.dynamic⟩

/-- Reading the token keeps what holds at the start of a cycle. -/
theorem Started.afterRead {views₀ : Views} {st : State σ} (h : Started views₀ st) :
    Started views₀ st.afterRead :=
  ⟨h.wf, h.grows, h.dynamic⟩

/-- A cycle with no verdict keeps what holds at the start of a cycle. -/
theorem Started.cycle {views₀ : Views} {st : State σ} (h : Started views₀ st)
    (hnone : verdictIn setup engine st = none) : Started views₀ (cycle setup engine st).2 := by
  rw [cycle_of_verdictIn_none setup engine st hnone]
  -- build the facts about the saved state itself: unifying through the phase change would
  -- unfold the cycle
  exact Started.enter ⟨saved_wf setup engine st h.wf, h.grows.trans (saved_grows setup engine st),
    fun hd => saved_dynamic_wf setup engine st (h.dynamic hd)⟩ .idle

/-- A run from a fresh loop with a well-formed store that stops at a fixpoint leaves a store
closed under its last views, views grown from the first, and a well-formed dynamic view when
the first one was. -/
theorem fixpoint_closed (store : Store) (views : Views) (ws : Workspace) (e : σ) (hs : store.WF)
    (hfix : (run setup engine (State.new store views ws e)).1.reason = .fixpoint) :
    Closed setup (run setup engine (State.new store views ws e)).2.views
        (run setup engine (State.new store views ws e)).2.store ∧
      views.Grows (run setup engine (State.new store views ws e)).2.views ∧
      (views.dynamic.WF → (run setup engine (State.new store views ws e)).2.views.dynamic.WF) := by
  set st₀ : State σ := State.new store views ws e
  obtain ⟨starts, hchain, -, -, hend⟩ :=
    runFrom_trace setup engine (setup.settings.maxCycles - st₀.cyclesRun) st₀ [] rfl
      (by simp [st₀, State.new])
  rw [run_reason] at hfix
  rw [run_snd]
  rcases hend with ⟨-, -, hfinal⟩ | ⟨pre, s, rfl, hpre, ⟨r, hr, hfinal⟩ | ⟨-, -, hfinal⟩⟩
  · -- stopping before any cycle is no fixpoint
    rw [hfinal] at hfix
    split at hfix <;> simp at hfix
  · rw [hfinal, State.terminate_termination] at hfix
    obtain rfl : r = .fixpoint := hfix
    -- the last cycle starts from a loop that keeps what every start keeps
    have hs₀ : Started views st₀ := ⟨hs, Views.Grows.refl views, id⟩
    have hlast : Started views s :=
      CycleChain.last_of_step setup engine (Started views) (fun _ h => h.afterRead)
        (fun _ h hn => h.cycle setup engine hn) hs₀ hchain hpre
    -- and, seeing no cancellation, finds its batch empty: nothing was sent, nothing emitted
    obtain ⟨hC, hempty⟩ := verdict_eq_fixpoint.mp hr
    have hb : batchIn setup s = [] := List.isEmpty_iff.mp hempty
    have he : emittedIn setup s = [] := (List.append_eq_nil_iff.mp hb).2
    obtain ⟨hviews, hstore, -, -⟩ := saved_of_batch_empty setup engine s hb
    have hstore' : (saved setup engine s).store = (extractPhase setup s).2.store :=
      hstore.trans (generated_store_of_emitted setup s he)
    rw [hfinal, State.terminate_views, State.terminate_store, hviews]
    refine ⟨⟨saved_wf setup engine s hlast.wf, saved_allTried setup engine s hlast.wf
      (generated_cancelled_of_cancelledIn setup engine s hC), ?_⟩, hlast.grows, hlast.dynamic⟩
    -- the last extraction registered the pair of every candidate
    intro c hc p hp
    rw [hstore', extractPhase_store]
    exact extractAll_registers s.views hlast.wf hc hp
  · -- stopping on a token found set after the last cycle is no fixpoint
    rw [hfinal] at hfix
    simp at hfix

end Fixpoint

/-! ### Resuming -/

/-- A store closed under views stays closed, for a setup with the same strategy and types of
interest, under the views with a sub-database of the dynamic view, when both databases are as
their operations build them. -/
theorem Closed.withDynamic {setup setup' : Setup} {views : Views} {store : Store}
    (h : Closed setup views store) (hstrategy : setup'.strategy = setup.strategy)
    (htypes : setup'.settings.typesOfInterest = setup.settings.typesOfInterest)
    (hstatic : views.static.WF) (hdyn : views.dynamic.WF) {dynamic : Db}
    (hsub : dynamic.Sub views.dynamic) : Closed setup' (views.withDynamic dynamic) store where
  wf := h.wf
  tried := hstrategy ▸ h.tried
  registered c hc p hp := by
    rw [htypes] at hc
    exact h.registered c (candidates_sub hsub hstatic hdyn _ hc) p (Views.extract_sub hsub hdyn hp)

/-- **Resuming after a fixpoint does nothing.** Let a run from a fresh loop over a well-formed
store, with well-formed views, stop at a fixpoint, and let its last store be saved, in either
form and in fewer than `2 ^ 64` bytes, into a tree whose only null device is `/dev/null`. A
fresh loop over the store opened from the saved file, with the same static view, policy, types
of interest and strategy, any workers, engine, engine state and workspace, a budget of at least
one cycle, and a dynamic view that is a sub-database of the run's last one, stops at a fixpoint
after exactly one cycle that registers no pair, emits no stub and never calls the engine. It
keeps the engine's state and reports the first run's store summary. -/
theorem resume_after_fixpoint {τ : Type} (setup setup' : Setup) (engine : Engine.Run σ)
    (engine' : Engine.Run τ) (store : Store) (views : Views) (ws : Workspace) (e : σ)
    (hs : store.WF) (hstatic : views.static.WF) (hdyn : views.dynamic.WF)
    (hfix : (run setup engine (State.new store views ws e)).1.reason = .fixpoint)
    {w w' : Workspace} {path : String} {fmt : Format} (hnull : w.NullOnly)
    (hfit : ((run setup engine (State.new store views ws e)).2.store.snapshot.encode fmt).length <
      2 ^ 64)
    (hsave : (run setup engine (State.new store views ws e)).2.store.snapshot.save w path fmt =
      .ok w')
    (hstrategy : setup'.strategy = setup.strategy)
    (htypes : setup'.settings.typesOfInterest = setup.settings.typesOfInterest)
    (hmax : 0 < setup'.settings.maxCycles) {dynamic : Db}
    (hsub : dynamic.Sub (run setup engine (State.new store views ws e)).2.views.dynamic)
    (ws' : Workspace) (e' : τ) :
    ∃ resumed, Store.openAt w' path fmt = .ok resumed ∧
      let R := run setup' engine' (State.new resumed ⟨views.static, dynamic, views.policy⟩ ws' e')
      R.1.reason = .fixpoint ∧ R.1.cycles.length = 1 ∧
        (∀ c ∈ R.1.cycles, c.newPairs = 0 ∧ c.putsEmitted = 0 ∧ c.engine = .skipped) ∧
        R.2.engine = e' ∧ R.1.store = (run setup engine (State.new store views ws e)).1.store := by
  obtain ⟨hclosed, hgrows, hdynwf⟩ := fixpoint_closed setup engine store views ws e hs hfix
  refine ⟨_, Store.openAt_save hclosed.wf hnull hfit hsave, ?_⟩
  -- the resumed views are the last ones with the smaller dynamic view
  have hviews : (⟨views.static, dynamic, views.policy⟩ : Views) =
      (run setup engine (State.new store views ws e)).2.views.withDynamic dynamic := by
    simp only [Views.withDynamic, hgrows.static, hgrows.policy]
  have hclosed' := hclosed.withDynamic hstrategy htypes (hgrows.static ▸ hstatic) (hdynwf hdyn) hsub
  obtain ⟨hreason, hlen, hcycles, hengine, hstore⟩ := run_of_closed setup' engine' ws' e' hclosed' hmax
  rw [hviews]
  exact ⟨hreason, hlen, hcycles, hengine, by rw [run_store, run_store, hstore]⟩

/-- A run over a store whose one pair is covered and whose type has a stub recorded, under views
that declare the pair, stops at a fixpoint with that store; the store saves at `snap` in the tree
a run starts from, and a run resumed from the saved file does nothing. -/
theorem covered_run_resumes_after_fixpoint :
    let setup : Setup := { settings := { maxCycles := 1000 }, strategy := ⟨[], 0, 2⟩ }
    let engine : Engine.Run Unit := fun _ _ _ ws => ⟨.ok {}, (), ws, false⟩
    let p : Pair := ⟨"T", "T.F", "T.Set", "T.Get"⟩
    let store := ({} : Store).runAll [.register p, .markCovered p, .recordPut "T" "test"]
    let static : Db := ⟨["T"], [("T.F", "T")],
      [("T.Set", ⟨"T", ["T.F"], []⟩), ("T.Get", ⟨"T", [], ["T.F"]⟩)]⟩
    let R := run setup engine (State.new store ⟨static, {}, .static⟩ Workspace.initial ())
    R.1.reason = .fixpoint ∧ R.2.store = store ∧
      ∃ w', R.2.store.snapshot.save Workspace.initial "snap" .bincode = .ok w' ∧
        ∃ resumed, Store.openAt w' "snap" .bincode = .ok resumed ∧
          let R' := run setup engine (State.new resumed ⟨static, {}, .static⟩ Workspace.initial ())
          R'.1.reason = .fixpoint ∧ R'.1.cycles.length = 1 ∧
            (∀ c ∈ R'.1.cycles, c.newPairs = 0 ∧ c.putsEmitted = 0 ∧ c.engine = .skipped) ∧
            R'.2.engine = () ∧ R'.1.store = R.1.store := by
  intro setup engine p store static
  dsimp only
  have hstore : store = ⟨[("T", ⟨[(p, .covered)], ["test"]⟩)]⟩ := rfl
  have hwf : store.WF := (Store.wf_empty.runAll _).1
  have hstatic : static.WF := ⟨by decide, by decide, by decide, by decide⟩
  -- the views list one candidate, and it forms the store's pair
  have htypes : typesOfInterest setup.settings.typesOfInterest ⟨static, {}, .static⟩ = ["T"] := by
    rw [typesOfInterest, if_pos (show setup.settings.typesOfInterest.isEmpty = true from rfl),
      show (⟨static, {}, .static⟩ : Views).knownTypes = ["T"] by decide, List.mergeSort_singleton]
    rfl
  have hcands : (⟨static, {}, .static⟩ : Views).candidates
      (typesOfInterest setup.settings.typesOfInterest ⟨static, {}, .static⟩) =
        [⟨"T.F", "T.Set", "T.Get"⟩] := by
    rw [htypes]
    decide
  have hext : (⟨static, {}, .static⟩ : Views).extract ⟨"T.F", "T.Set", "T.Get"⟩ = .ok p := by decide
  have hclosed : Closed setup ⟨static, {}, .static⟩ store := by
    refine ⟨hwf, fun q hq => ?_, fun c hc q hq => ?_⟩
    · -- the store's one pair is covered
      rw [hstore] at hq
      simp only [Store.statusOf, Store.partition?, List.find?_cons, List.find?_nil] at hq
      split at hq <;> simp at hq
    · rw [hcands, List.mem_singleton] at hc
      subst hc
      rw [hext] at hq
      cases hq
      rw [hstore]
      decide
  obtain ⟨hfix, -, -, -, hkeep⟩ :=
    run_of_closed setup engine Workspace.initial () hclosed (by decide)
  have hsave := Snapshot.save_initial_snap
    (run setup engine (State.new store ⟨static, {}, .static⟩ Workspace.initial ())).2.store.snapshot
      .bincode
  -- the saved store is the one pair and the one body
  have hfit : ((run setup engine (State.new store ⟨static, {}, .static⟩
      Workspace.initial ())).2.store.snapshot.encode .bincode).length < 2 ^ 64 := by
    rw [hkeep, show store.snapshot = ⟨[⟨"T", [⟨"T.F", "T.Set", "T.Get", true⟩], ["test"]⟩]⟩ from rfl]
    simp [Snapshot.encode, Binary.encode, Binary.list, Binary.typeEntry, Binary.pairEntry,
      Binary.str, Utf8.encode_eq_flatMap, Char.utf8Size]
  obtain ⟨resumed, hopen, hrest⟩ := resume_after_fixpoint setup setup engine engine store
    ⟨static, {}, .static⟩ Workspace.initial () hwf hstatic Db.wf_empty hfix
    Workspace.nullOnly_initial hfit hsave rfl rfl (by decide) (Db.empty_sub _) Workspace.initial ()
  -- the views' fields are read back as the views, not by unfolding the run
  dsimp only at hrest
  exact ⟨hfix, hkeep, _, hsave, resumed, hopen, hrest⟩

end Loop

end DefUseCoverage
