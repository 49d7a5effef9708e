import DefUseCoverage.Proofs.CyclePhases
import DefUseCoverage.Proofs.GenerationDedup
/-! # No stub is lost or sent twice on its way to the engine

  Stubs are recorded in the store as they are generated, before the engine sees them; a batch
  the engine fails on waits in the loop's `undelivered` list and is sent again at the head of
  the next batch, less the stubs whose pair got covered in the meantime.

  - What each phase does to the store: extraction only registers, generation only records the
    bodies it emits (`generateAll_records`), taking in a report only registers and marks. So
    no body is forgotten, no pair uncovered, and until the engine answers no pair is covered.
  - `Reach` gives the states a fresh loop reaches, with the states its cycles started from as
    a ghost log; every run stays in it (`run_reach`). `Delivery` is the invariant that carries
    the argument, and holds of every reached state (`reach_delivery`).
  - Main statement: over every run and every answer of the engine, each cycle's new stubs end
    the batch the engine is handed; every stub emitted so far went in a batch the engine took,
    waits, or has its pair covered; after a failed batch the next one starts with it, less the
    stubs whose pair is covered, and counts them as resent; no batch holds a stub twice
    (`stubs_reach_engine_once`).
-/

namespace DefUseCoverage

open Coverage

/-! ### Runs of updates -/

namespace Coverage.Store

/-- `s'` is `s` after some updates, each satisfying `P`. -/
def Steps (P : Update → Prop) (s s' : Store) : Prop :=
  ∃ us : List Update, (∀ u ∈ us, P u) ∧ s' = s.runAll us

namespace Steps

variable {P : Update → Prop}

theorem refl (s : Store) : Steps P s s := ⟨[], by simp, rfl⟩

theorem single (s : Store) {u : Update} (hu : P u) : Steps P s (s.run u).2 :=
  ⟨[u], by simpa using hu, rfl⟩

theorem trans {s s₁ s₂ : Store} (h₁ : Steps P s s₁) (h₂ : Steps P s₁ s₂) : Steps P s s₂ := by
  obtain ⟨us, hus, rfl⟩ := h₁
  obtain ⟨vs, hvs, rfl⟩ := h₂
  refine ⟨us ++ vs, ?_, by rw [runAll_append]⟩
  intro u hu
  rcases List.mem_append.mp hu with hu | hu
  · exact hus u hu
  · exact hvs u hu

/-- Steps of a narrower kind are steps of a wider one. -/
theorem mono {Q : Update → Prop} (hPQ : ∀ u, P u → Q u) {s s' : Store} (h : Steps P s s') :
    Steps Q s s' := by
  obtain ⟨us, hus, rfl⟩ := h
  exact ⟨us, fun u hu => hPQ u (hus u hu), rfl⟩

/-- A fold whose every step updates the store by steps of `P` does. -/
theorem foldl {α β : Type} (f : β × Store → α → β × Store)
    (hf : ∀ acc a, Steps P acc.2 (f acc a).2) : ∀ (l : List α) (acc : β × Store),
      Steps P acc.2 (l.foldl f acc).2
  | [], _ => refl _
  | a :: l, acc => (hf acc a).trans (foldl f hf l (f acc a))

/-- What every update of kind `P` keeps, steps of `P` keep. -/
theorem keep {I : Store → Prop} (hI : ∀ s u, P u → I s → I (s.run u).2) :
    ∀ {s s' : Store}, Steps P s s' → I s → I s' := by
  intro s s' h hs
  obtain ⟨us, hus, rfl⟩ := h
  induction us generalizing s with
  | nil => exact hs
  | cons u us ih =>
    exact ih (s := (s.run u).2) (hI s u (hus u List.mem_cons_self) hs)
      (fun v hv => hus v (List.mem_cons_of_mem u hv))

/-- No steps forget a body. -/
theorem hasPut {s s' : Store} (h : Steps P s s') {ty body : String}
    (hb : s.hasPut ty body = true) : s'.hasPut ty body = true :=
  keep (I := fun s => s.hasPut ty body = true) (fun _ u _ h => hasPut_run h u) h hb

/-- No steps uncover a pair. -/
theorem covered {s s' : Store} (h : Steps P s s') {q : Pair}
    (hq : s.statusOf q = some .covered) : s'.statusOf q = some .covered :=
  keep (I := fun s => s.statusOf q = some .covered) (fun _ u _ h => statusOf_run_covered h u) h hq

/-- Steps with no mark leave whether a pair is covered as it was. -/
theorem covered_iff {s s' : Store} (h : Steps (fun u => u.isMark = false) s s') (q : Pair) :
    s'.statusOf q = some .covered ↔ s.statusOf q = some .covered :=
  keep (I := fun t => t.statusOf q = some .covered ↔ s.statusOf q = some .covered)
    (fun t u hu ht => (statusOf_run_covered_iff t q u hu).trans ht) h Iff.rfl

end Steps

end Coverage.Store

open Coverage.Store (Steps)

/-! ### Generation records what it emits, and nothing else -/

/-- The update that records a stub's body for its type. -/
def PutRecord.record (r : PutRecord) : Update := .recordPut r.declaringType r.body

/-- Work from `s` to `s'` that records the bodies of `out`, in order, and does nothing else. -/
def Records (s : Store) (out : List PutRecord) (s' : Store) : Prop :=
  s' = s.runAll (out.map PutRecord.record)

/-- Recording composes. -/
theorem Records.composes : Composes Records where
  refl _ := rfl
  trans := by
    intro s s₁ s₂ out₁ out₂ h₁ h₂
    rw [Records, h₂, h₁, List.map_append, Store.runAll_append]

/-- Recording is a run of updates with no mark. -/
theorem Records.steps {s s' : Store} {out : List PutRecord} (h : Records s out s') :
    Steps (fun u => u.isMark = false) s s' :=
  ⟨out.map PutRecord.record, by simp [PutRecord.record, Update.isMark], h⟩

/-- One pair's turn records the body it emits, if any. -/
theorem recordStep_generatePair (strat : Template.Strategy) (ty : String) :
    PassStep Records (generatePair strat ty) := by
  intro r s p
  unfold generatePair
  cases strat.generate p with
  | error e => exact ⟨[], by simp, rfl⟩
  | ok body =>
    by_cases h : s.hasPut ty body = true
    · exact ⟨[], by simp [h], by simp [h, Records]⟩
    · exact ⟨[⟨ty, body, p⟩], by simp [h], by simp [h, Records, PutRecord.record]; rfl⟩

/-- A pass with any number of workers changes the store only by recording, in order, the
bodies it emits. -/
theorem generateAll_records (strat : Template.Strategy) (workers : Nat) (token : Token)
    (s : Store) (types : List String) :
    Records s (generateAll strat workers token s types).1.emitted
      (generateAll strat workers token s types).2 :=
  generateAll_rel Records.composes
    (generateForType_rel Records.composes (recordStep_generatePair strat)) workers token s types

/-! ### Extraction registers, taking in a report registers and marks -/

namespace Loop

/-- Extraction only registers pairs. -/
theorem extractAll_steps (views : Metadata.Views) (store : Store) (cs : List Candidate) :
    Steps (fun u => u.isMark = false) store (extractAll views store cs).2 := by
  unfold extractAll
  refine Steps.foldl _ ?_ cs _
  rintro ⟨e, s⟩ c
  dsimp only
  split
  · exact Steps.single s (u := .register _) rfl
  · exact Steps.refl s

/-- Taking in a report only registers and marks pairs. -/
theorem ingest_steps (views : Metadata.Views) (store : Store) (report : Report) :
    Steps (fun _ => True) store (ingest views store report).2.2 := by
  unfold ingest
  refine Steps.foldl _ ?_ report.covered _
  rintro ⟨n, s⟩ c
  dsimp only
  split
  · exact (Steps.single s (u := .register _) trivial).trans
      (Steps.single _ (u := .markCovered _) trivial)
  · exact Steps.refl s

variable {σ : Type}

/-! ### What delivering does to the waiting stubs, the engine and the store -/

section Deliver

variable (setup : Setup) (engine : Engine.Run σ) (batch : List PutRecord)
  (summary : CycleSummary) (st : State σ)

/-- A batch the engine took is done with; one it failed on waits. -/
theorem deliver_undelivered : (deliver setup engine batch summary st).2.undelivered =
    match replyTo setup engine batch st with
    | some reply => if reply.result.isOk then st.undelivered else batch
    | none => st.undelivered := by
  rcases deliver_cases setup engine batch summary st with
    ⟨hr, h⟩ | ⟨_, _, hr, hres, h⟩ | ⟨_, _, hr, hres, h⟩
  · simp [hr, h]
  · simp [hr, hres, h, Except.isOk, Except.toBool]
  · simp [hr, hres, h, Except.isOk, Except.toBool]

/-- The engine's state is the one of its reply. -/
theorem deliver_engine : (deliver setup engine batch summary st).2.engine =
    ((replyTo setup engine batch st).map (·.state)).getD st.engine := by
  rcases deliver_cases setup engine batch summary st with
    ⟨hr, h⟩ | ⟨_, _, hr, -, h⟩ | ⟨_, _, hr, -, h⟩ <;> rw [h, hr] <;> rfl

/-- Delivering only registers and marks pairs. -/
theorem deliver_store :
    Steps (fun _ => True) st.store (deliver setup engine batch summary st).2.store := by
  rcases deliver_cases setup engine batch summary st with
    ⟨-, h⟩ | ⟨_, _, -, -, h⟩ | ⟨_, _, -, -, h⟩ <;> rw [h]
  · exact Steps.refl _
  · exact ingest_steps _ _ _
  · exact Steps.refl _

/-- Without a report the store is as it was. -/
theorem deliver_store_of_failed
    (hfailed : ∀ reply ∈ replyTo setup engine batch st, reply.result.isOk = false) :
    (deliver setup engine batch summary st).2.store = st.store := by
  rcases deliver_cases setup engine batch summary st with
    ⟨-, h⟩ | ⟨reply, _, hr, hres, -⟩ | ⟨_, _, -, -, h⟩
  · rw [h]
  · -- a report would be a reply that took the batch
    have hok := hfailed reply hr
    simp [hres, Except.isOk, Except.toBool] at hok
  · rw [h]

/-- Delivering leaves the count of stubs sent again. -/
theorem deliver_putsResent :
    (deliver setup engine batch summary st).1.putsResent = summary.putsResent := by
  rcases deliver_cases setup engine batch summary st with
    ⟨-, h⟩ | ⟨_, _, -, -, h⟩ | ⟨_, _, -, -, h⟩ <;> rw [h]

end Deliver

/-! ### What a cycle hands the engine -/

section Cycle

variable (setup : Setup) (engine : Engine.Run σ) (st : State σ)

/-- The engine's reply to the batch of a cycle from `st`, unless the batch is empty. -/
def replyIn : Option (Engine.Reply σ) := replyTo setup engine (batchIn setup st) (awaiting setup st)

/-- Whether the engine took the batch of a cycle from `st`: it was handed it and reported. -/
def reportedIn : Bool :=
  match replyIn setup engine st with
  | some reply => reply.result.isOk
  | none => false

/-- A cycle's store, waiting stubs and engine are those that delivering its batch leaves. -/
theorem cycle_delivers :
    (cycle setup engine st).2.store =
      (deliver setup engine (batchIn setup st) (summaryIn setup st) (awaiting setup st)).2.store ∧
    (cycle setup engine st).2.undelivered =
      (deliver setup engine (batchIn setup st) (summaryIn setup st)
        (awaiting setup st)).2.undelivered ∧
    (cycle setup engine st).2.engine =
      (deliver setup engine (batchIn setup st) (summaryIn setup st)
        (awaiting setup st)).2.engine := by
  rcases (cycle_cases setup engine st).2 with ⟨r, -, h⟩ | ⟨-, h⟩ <;>
    simp only [h, State.terminate_store, State.terminate_undelivered, State.terminate_engine,
      State.enter_store, State.enter_undelivered, State.enter_engine, saved_store,
      saved_undelivered, saved_engine, and_self]

/-- Extraction only registers pairs. -/
theorem extracted_steps :
    Steps (fun u => u.isMark = false) st.store (extractPhase setup st).2.store :=
  extractAll_steps _ _ _

/-- Extraction and generation only register pairs and record bodies. -/
theorem generated_steps :
    Steps (fun u => u.isMark = false) st.store (generated setup st).2.store :=
  (extracted_steps setup st).trans (generateAll_records _ _ _ _ _).steps

/-- Generation emits through the gate from the store extraction leaves. -/
theorem emits_generated :
    Emits (extractPhase setup st).2.store (emittedIn setup st) (generated setup st).2.store :=
  emits_generateAll _ _ _ _ _

/-- The stubs sent again are the waiting ones whose pair was not covered when the cycle
began: nothing before the engine's answer covers a pair. -/
theorem resentIn_eq : resentIn setup st =
    st.undelivered.filter fun r => st.store.statusOf r.pair != some .covered := by
  unfold resentIn resend
  rw [generated_undelivered]
  apply List.filter_congr
  intro r _
  rw [Bool.eq_iff_iff, bne_iff_ne, bne_iff_ne]
  exact not_congr ((generated_steps setup st).covered_iff r.pair)

/-- After a cycle its batch waits, unless the engine took it. -/
theorem cycle_undelivered : (cycle setup engine st).2.undelivered =
    if reportedIn setup engine st then [] else batchIn setup st := by
  rw [(cycle_delivers setup engine st).2.1, deliver_undelivered, awaiting_undelivered]
  unfold reportedIn replyIn
  cases hr : replyTo setup engine (batchIn setup st) (awaiting setup st) with
  | none => simp [replyTo_eq_none hr]
  | some reply => by_cases hok : reply.result.isOk <;> simp [hok]

/-- After a cycle the engine's state is that of its reply to the cycle's batch: the batch is
what the engine is handed. -/
theorem cycle_engine : (cycle setup engine st).2.engine =
    ((replyIn setup engine st).map (·.state)).getD st.engine := by
  rw [(cycle_delivers setup engine st).2.2, deliver_engine]
  rfl

/-- A cycle only registers, marks and records. -/
theorem cycle_store_steps : Steps (fun _ => True) st.store (cycle setup engine st).2.store := by
  rw [(cycle_delivers setup engine st).1]
  exact ((generated_steps setup st).mono fun _ _ => trivial).trans (deliver_store ..)

/-- Unless the engine took the batch, a cycle's store is the one generation left. -/
theorem cycle_store_of_failed (h : reportedIn setup engine st = false) :
    (cycle setup engine st).2.store = (generated setup st).2.store := by
  rw [(cycle_delivers setup engine st).1, deliver_store_of_failed]
  · rfl
  · intro reply hreply
    unfold reportedIn replyIn at h
    rw [Option.mem_def.mp hreply] at h
    exact h

/-- A cycle counts the stubs it sends again. -/
theorem cycle_putsResent : (cycle setup engine st).1.putsResent = (resentIn setup st).length := by
  rw [(cycle_cases setup engine st).1, deliver_putsResent]
  rfl

end Cycle

/-! ### Waiting stubs -/

/-- What holds of the stubs waiting for the engine: none twice, and each one's body recorded. -/
structure Waiting (store : Store) (undelivered : List PutRecord) : Prop where
  /-- No two waiting stubs share a type and a body. -/
  nodup : (undelivered.map PutRecord.key).Nodup
  /-- Every waiting stub's body is recorded for its type. -/
  recorded : ∀ r ∈ undelivered, store.hasPut r.declaringType r.body = true

section Waiting

variable (setup : Setup) (engine : Engine.Run σ) {st : State σ}

/-- No batch holds a stub twice: the stubs sent again waited once each and were recorded
before the cycle, and generation emits each stub once and only unrecorded ones. -/
theorem Waiting.batch_nodup (h : Waiting st.store st.undelivered) :
    ((batchIn setup st).map PutRecord.key).Nodup := by
  have hemits := emits_generated setup st
  rw [batchIn, List.map_append, List.nodup_append]
  refine ⟨?_, hemits.unique, ?_⟩
  · rw [resentIn_eq]
    exact (List.filter_sublist.map _).nodup h.nodup
  · intro k₁ hk₁ k₂ hk₂ heq
    obtain ⟨r₁, hr₁, rfl⟩ := List.mem_map.mp hk₁
    obtain ⟨r₂, hr₂, rfl⟩ := List.mem_map.mp hk₂
    rw [resentIn_eq] at hr₁
    -- a stub sent again is recorded when generation starts, so generation did not emit it
    have hrec := (extracted_steps setup st).hasPut (h.recorded r₁ (List.mem_filter.mp hr₁).1)
    have hfresh := hemits.fresh r₂ hr₂
    simp only [PutRecord.key, Prod.mk.injEq] at heq
    rw [heq.1, heq.2, hfresh] at hrec
    exact absurd hrec (by simp)

/-- A cycle keeps what holds of the waiting stubs. -/
theorem Waiting.cycle (h : Waiting st.store st.undelivered) :
    Waiting (cycle setup engine st).2.store (cycle setup engine st).2.undelivered := by
  rw [cycle_undelivered]
  cases hrep : reportedIn setup engine st with
  | true => exact ⟨by simp, by simp⟩
  | false =>
    simp only [Bool.false_eq_true, if_false]
    refine ⟨h.batch_nodup setup, ?_⟩
    rw [cycle_store_of_failed setup engine st hrep]
    intro r hr
    rcases List.mem_append.mp hr with hr | hr
    · -- a stub sent again was recorded before the cycle, and stays so
      rw [resentIn_eq] at hr
      exact (generated_steps setup st).hasPut (h.recorded r (List.mem_filter.mp hr).1)
    · exact (emits_generated setup st).recorded r hr

end Waiting

/-! ### Reached states -/

/-- The states a fresh loop reaches, with the states its cycles started from, in order: it may
run a cycle, be stopped or have its token set, in any order. -/
inductive Reach (setup : Setup) (engine : Engine.Run σ) : List (State σ) → State σ → Prop
  /-- A fresh loop, with any store, metadata, directory and engine state. -/
  | fresh (store : Store) (views : Metadata.Views) (ws : Workspace) (e : σ) :
      Reach setup engine [] (State.new store views ws e)
  /-- A cycle from a reached state. -/
  | cycle {starts : List (State σ)} {st : State σ} :
      Reach setup engine starts st → Reach setup engine (starts ++ [st]) (cycle setup engine st).2
  /-- Stopping a reached loop. -/
  | stop {starts : List (State σ)} {st : State σ} (r : Reason) :
      Reach setup engine starts st → Reach setup engine starts (st.terminate r)
  /-- A reached loop whose token is another: whoever holds the token may set it at any moment,
  and reads move it on. -/
  | token {starts : List (State σ)} {st : State σ} (t : Token) :
      Reach setup engine starts st → Reach setup engine starts { st with token := t }

section Runs

variable (setup : Setup) (engine : Engine.Run σ)

/-- A run from a reached state reaches a state, through the cycles it runs; the summaries it
adds are those of these cycles. -/
theorem runFrom_reach (fuel : Nat) (st : State σ) (done : List CycleSummary) :
    ∀ {starts : List (State σ)}, Reach setup engine starts st →
      ∃ more, Reach setup engine (starts ++ more) (runFrom setup engine fuel st done).2 ∧
        (runFrom setup engine fuel st done).1 =
          done ++ more.map fun s => (cycle setup engine s).1 := by
  fun_induction runFrom setup engine fuel st done with
  | case1 fuel st done r hr => exact fun h => ⟨[], by simpa using h, by simp⟩
  | case2 fuel st done hnone check _ =>
    exact fun h => ⟨[], by simpa using (h.token check.2).stop _, by simp⟩
  | case3 fuel st done hnone check _ _ =>
    exact fun h => ⟨[], by simpa using (h.token check.2).stop _, by simp⟩
  | case4 st done hnone check _ _ =>
    exact fun h => ⟨[], by simpa using (h.token check.2).stop _, by simp⟩
  | case5 st done hnone check st₁ _ _ fuel c st' hcycle =>
    rename_i ih
    intro starts h
    -- the cycle starts from the loop as its read of the token left it
    have h₁ : Reach setup engine starts st₁ := h.token check.2
    have hstep : Reach setup engine (starts ++ [st₁]) st' := by
      simpa [hcycle] using h₁.cycle
    obtain ⟨more, hreach, hout⟩ := ih hstep
    refine ⟨st₁ :: more, by simpa using hreach, ?_⟩
    rw [hout, List.map_cons, hcycle, List.append_assoc, List.singleton_append]

/-- Every run from a reached state reaches a state, through the cycles it returns. -/
theorem run_reach {starts : List (State σ)} {st : State σ} (h : Reach setup engine starts st) :
    ∃ more, Reach setup engine (starts ++ more) (run setup engine st).2 ∧
      (run setup engine st).1.cycles = more.map fun s => (cycle setup engine s).1 := by
  obtain ⟨more, hreach, hout⟩ :=
    runFrom_reach setup engine (setup.settings.maxCycles - st.cyclesRun) st [] h
  refine ⟨more, hreach, ?_⟩
  have hcycles : (run setup engine st).1.cycles =
      (runFrom setup engine (setup.settings.maxCycles - st.cyclesRun) st []).1 := rfl
  rw [hcycles, hout, List.nil_append]

end Runs

/-! ### The invariant -/

/-- A cycle start carries on the store and the waiting stubs that the cycle before it left. -/
def Carries (setup : Setup) (engine : Engine.Run σ) (s₁ s₂ : State σ) : Prop :=
  s₂.store = (cycle setup engine s₁).2.store ∧
    s₂.undelivered = (cycle setup engine s₁).2.undelivered

/-- What holds of a reached state and the states its cycles started from. -/
structure Delivery (setup : Setup) (engine : Engine.Run σ) (starts : List (State σ))
    (st : State σ) : Prop where
  /-- The stubs waiting now are there once each, and recorded. -/
  waiting : Waiting st.store st.undelivered
  /-- So were those waiting when each cycle started. -/
  started : ∀ s ∈ starts, Waiting s.store s.undelivered
  /-- Each start, and the state now, carries on what the cycle before it left. -/
  carried : (starts ++ [st]).IsChain (Carries setup engine)
  /-- Every stub emitted so far went in a batch the engine took, waits, or has its pair
  covered. -/
  accounted : ∀ s ∈ starts, ∀ r ∈ emittedIn setup s,
    (∃ s' ∈ starts, reportedIn setup engine s' = true ∧ r ∈ batchIn setup s') ∨
      r ∈ st.undelivered ∨ st.store.statusOf r.pair = some .covered

section Invariant

variable (setup : Setup) (engine : Engine.Run σ) {starts : List (State σ)} {st : State σ}

/-- A fresh loop has no stub waiting and has run no cycle. -/
theorem delivery_fresh (store : Store) (views : Metadata.Views) (ws : Workspace) (e : σ) :
    Delivery setup engine [] (State.new store views ws e) where
  waiting := ⟨by simp [State.new], by simp [State.new]⟩
  started := by simp
  carried := .singleton _
  accounted := by simp

/-- What leaves the store and the waiting stubs as they were keeps the invariant. -/
theorem Delivery.keep {st' : State σ} (h : Delivery setup engine starts st)
    (hs : st'.store = st.store) (hu : st'.undelivered = st.undelivered) :
    Delivery setup engine starts st' where
  waiting := hs ▸ hu ▸ h.waiting
  started := h.started
  carried := by
    have hc := h.carried
    rw [List.isChain_append] at hc ⊢
    refine ⟨hc.1, .singleton _, ?_⟩
    intro x hx y hy
    simp only [List.head?_cons, Option.mem_def, Option.some.injEq] at hy
    subst hy
    obtain ⟨h₁, h₂⟩ := hc.2.2 x hx st rfl
    exact ⟨hs.trans h₁, hu.trans h₂⟩
  accounted := by
    rw [hs, hu]
    exact h.accounted

/-- A stub that waits or has its pair covered when a cycle starts, or that the cycle emits, goes
in the batch if the engine takes it, waits after, or has its pair covered after. -/
theorem accounted_cycle (starts : List (State σ)) {r : PutRecord}
    (hr : r ∈ st.undelivered ∨ st.store.statusOf r.pair = some .covered ∨ r ∈ emittedIn setup st) :
    (∃ s' ∈ starts ++ [st], reportedIn setup engine s' = true ∧ r ∈ batchIn setup s') ∨
      r ∈ (cycle setup engine st).2.undelivered ∨
      (cycle setup engine st).2.store.statusOf r.pair = some .covered := by
  -- a stub of the batch is taken by the engine, or waits after
  have hbatch : r ∈ batchIn setup st →
      (∃ s' ∈ starts ++ [st], reportedIn setup engine s' = true ∧ r ∈ batchIn setup s') ∨
        r ∈ (cycle setup engine st).2.undelivered := by
    intro hb
    cases hrep : reportedIn setup engine st with
    | true => exact .inl ⟨st, by simp, hrep, hb⟩
    | false =>
      right
      rw [cycle_undelivered, hrep]
      exact hb
  by_cases hc : st.store.statusOf r.pair = some .covered
  · exact .inr (.inr ((cycle_store_steps setup engine st).covered hc))
  rcases hr with hw | hc' | he
  · -- waiting with its pair not covered: it is sent again
    have hres : r ∈ resentIn setup st := by
      rw [resentIn_eq]
      exact List.mem_filter.mpr ⟨hw, by simpa using hc⟩
    exact (hbatch (List.mem_append_left _ hres)).imp_right .inl
  · exact absurd hc' hc
  · exact (hbatch (List.mem_append_right _ he)).imp_right .inl

/-- A cycle keeps the invariant. -/
theorem Delivery.cycle (h : Delivery setup engine starts st) :
    Delivery setup engine (starts ++ [st]) (cycle setup engine st).2 where
  waiting := h.waiting.cycle setup engine
  started := by
    intro s hs
    rcases List.mem_append.mp hs with hs | hs
    · exact h.started s hs
    · rw [List.mem_singleton.mp hs]
      exact h.waiting
  carried := isChain_snoc h.carried (by simp) ⟨rfl, rfl⟩
  accounted := by
    intro s hs r hr
    rcases List.mem_append.mp hs with hs | hs
    · rcases h.accounted s hs r hr with ⟨s', hs', hrep, hb⟩ | hw | hc
      · exact .inl ⟨s', List.mem_append_left _ hs', hrep, hb⟩
      · exact accounted_cycle setup engine starts (.inl hw)
      · exact accounted_cycle setup engine starts (.inr (.inl hc))
    · rw [List.mem_singleton.mp hs] at hr
      exact accounted_cycle setup engine starts (.inr (.inr hr))

/-- Every reached state keeps the invariant. -/
theorem reach_delivery (h : Reach setup engine starts st) : Delivery setup engine starts st := by
  induction h with
  | fresh store views ws e => exact delivery_fresh setup engine store views ws e
  | cycle _ ih => exact ih.cycle setup engine
  | stop r _ ih => exact ih.keep setup engine rfl rfl
  | token _ _ ih => exact ih.keep setup engine rfl rfl

/-- Two cycle starts one after the other: the second carries on what the first left. -/
theorem Delivery.carries {pre post : List (State σ)} {s₁ s₂ : State σ}
    (h : Delivery setup engine starts st) (hstarts : starts = pre ++ s₁ :: s₂ :: post) :
    Carries setup engine s₁ s₂ := by
  have hc := h.carried
  rw [hstarts, List.append_assoc, List.cons_append, List.cons_append,
    List.isChain_append_cons_cons] at hc
  exact hc.2.1

end Invariant

/-! ### The main statement -/

/-- **No stub is lost or sent twice on its way to the engine.** For every state a fresh loop
reaches — through runs, with any store, engine and answers of the engine, stopped or cancelled
at any point — and the states its cycles started from:
- each cycle's new stubs end the batch it hands the engine, the engine's state after the cycle
  being that of its reply to that batch;
- every stub emitted so far went in a batch the engine took, waits, or has its pair covered;
- after a batch the engine failed on, the next cycle's batch is that batch, in order, less the
  stubs whose pair was covered by then, followed by the new stubs, and the cycle counts the
  former as resent;
- no batch holds two stubs with the same type and body;
- and a run from the state reaches a state again, through the cycles it returns. -/
theorem stubs_reach_engine_once (setup : Setup) (engine : Engine.Run σ)
    {starts : List (State σ)} {st : State σ} (h : Reach setup engine starts st) :
    (∀ s ∈ starts, emittedIn setup s <:+ batchIn setup s ∧
      (cycle setup engine s).2.engine = ((replyIn setup engine s).map (·.state)).getD s.engine) ∧
    (∀ s ∈ starts, ∀ r ∈ emittedIn setup s,
      (∃ s' ∈ starts, reportedIn setup engine s' = true ∧ r ∈ batchIn setup s') ∨
        r ∈ st.undelivered ∨ st.store.statusOf r.pair = some .covered) ∧
    (∀ pre s₁ s₂ post, starts = pre ++ s₁ :: s₂ :: post → reportedIn setup engine s₁ = false →
      batchIn setup s₂ =
          (batchIn setup s₁).filter (fun r => s₂.store.statusOf r.pair != some .covered) ++
            emittedIn setup s₂ ∧
        (cycle setup engine s₂).1.putsResent =
          ((batchIn setup s₁).filter fun r => s₂.store.statusOf r.pair != some .covered).length) ∧
    (∀ s ∈ starts, ((batchIn setup s).map PutRecord.key).Nodup) ∧
    (∃ more, Reach setup engine (starts ++ more) (run setup engine st).2 ∧
      (run setup engine st).1.cycles = more.map fun s => (cycle setup engine s).1) := by
  have hinv := reach_delivery setup engine h
  refine ⟨fun s _ => ⟨List.suffix_append _ _, cycle_engine setup engine s⟩, hinv.accounted,
    ?_, fun s hs => (hinv.started s hs).batch_nodup setup, run_reach setup engine h⟩
  intro pre s₁ s₂ post hstarts hfailed
  -- the second start carries on the batch the first cycle failed on
  obtain ⟨hstore, hwaiting⟩ := hinv.carries setup engine hstarts
  rw [cycle_undelivered, hfailed] at hwaiting
  have hres : resentIn setup s₂ =
      (batchIn setup s₁).filter fun r => s₂.store.statusOf r.pair != some .covered := by
    rw [resentIn_eq, hwaiting]
    rfl
  exact ⟨by rw [batchIn, hres], by rw [cycle_putsResent, hres]⟩

/-- A loop on a store with one uncovered pair, whose engine is always down: two cycles in, the
second batch starts with what the first one failed on. -/
theorem failed_batch_sent_again :
    let setup : Setup := { strategy := ⟨[.text "stub"], 0, 2⟩ }
    let engine : Engine.Run Unit := fun _ _ _ ws => ⟨.error (.crashed "down"), (), ws, false⟩
    let s₀ := State.new (({} : Store).register ⟨"A", "f", "set", "get"⟩).2 ⟨{}, {}, .static⟩
      Workspace.initial ()
    let s₁ := (cycle setup engine s₀).2
    Reach setup engine [s₀, s₁] (cycle setup engine s₁).2 ∧ reportedIn setup engine s₀ = false ∧
      batchIn setup s₁ =
        (batchIn setup s₀).filter (fun r => s₁.store.statusOf r.pair != some .covered) ++
          emittedIn setup s₁ := by
  intro setup engine s₀ s₁
  have hreach : Reach setup engine [s₀, s₁] (cycle setup engine s₁).2 :=
    (Reach.fresh _ _ _ ()).cycle.cycle
  have hfailed : reportedIn setup engine s₀ = false := by
    unfold reportedIn replyIn replyTo
    by_cases hb : (batchIn setup s₀).isEmpty = true
    · rw [if_pos hb]
    · rw [if_neg hb]
      rfl
  exact ⟨hreach, hfailed,
    ((stubs_reach_engine_once setup engine hreach).2.2.1 [] s₀ s₁ [] rfl hfailed).1⟩

end Loop

end DefUseCoverage
