import Mathlib
import DefUseCoverage.Proofs.MetadataGrowth
import DefUseCoverage.Proofs.SnapshotRestore
import DefUseCoverage.Proofs.StopReason
/-! # What one cycle does to the store and the views

  A cycle changes the store in three places, each in its own way, and the views in one.

  - Extraction only registers. It leaves the store exactly as it was, or registers a pair new
    to it that one of the candidates forms (`extractAll_eq_or_registers`); over candidates whose
    pairs are all registered it changes nothing (`extractAll_of_registered`).
  - Generation only records. A pair has had its turn (`Tried`) when the strategy fails on it or
    the body it makes is recorded for its type. After a pass with no cancellation over every type
    with an uncovered pair, every uncovered pair has had its turn (`allTried_generateAll`); from
    a store where that holds, a pass emits nothing and changes nothing (`generateAll_of_allTried`).
  - Taking in a report grows the dynamic view by observing (`ingest_grows`) and covers each
    pair it registers at once, so it makes no pair uncovered (`ingest_uncovered`).

  No step unregisters a pair or forgets a body, so after a cycle every uncovered pair has had its
  turn (`saved_allTried`), and the views have only grown (`saved_grows`).
-/

namespace DefUseCoverage

open Coverage Metadata

/-! ### Registration and coverage, pair by pair -/

namespace Coverage

/-- A change keeps every registered pair registered. -/
theorem Update.lookup_change_isSome (u : Update) {part : Partition} {q : Pair}
    (h : (part.pairs.lookup q).isSome) : ((u.change part).pairs.lookup q).isSome := by
  cases u with
  | register p => simp [Update.change, Store.lookup_append_single, h]
  | markCovered p =>
    rw [Update.change, Store.lookup_cover]
    split <;> simp [h]
  | recordPut ty body => simpa [Update.change] using h

namespace Contents

/-- Registering a pair gives it its status, uncovered unless it had one, and leaves every other
pair's. -/
theorem statusOf_update_register (c : Contents) (p q : Pair) :
    (c.update (.register p)).statusOf q =
      if q = p then some ((c.statusOf p).getD .uncovered) else c.statusOf q := by
  cases hp : c.statusOf p with
  | some st =>
    -- a registered pair is refused
    rw [update_of_refused (by simp [accepts, hp])]
    split_ifs with hq
    · rw [hq, hp]
      rfl
    · rfl
  | none =>
    rw [update_of_accepts (by simp [accepts, hp])]
    unfold statusOf at hp ⊢
    simp only [Update.type, Update.change]
    by_cases hty : q.declaringType = p.declaringType
    · rw [hty, Function.update_self, Store.lookup_append_single]
      by_cases hq : q = p
      · subst hq
        simp [hp]
      · simp [hq]
    · have hq : q ≠ p := fun h => hty (h ▸ rfl)
      rw [Function.update_of_ne hty, if_neg hq]

/-- Marking a pair covers it when it is uncovered, and leaves every other pair's status. -/
theorem statusOf_update_markCovered (c : Contents) (p q : Pair) :
    (c.update (.markCovered p)).statusOf q =
      if q = p ∧ c.statusOf p = some .uncovered then some .covered else c.statusOf q := by
  by_cases hunc : c.statusOf p = some .uncovered
  · rw [update_of_accepts (by simp [accepts, hunc])]
    unfold statusOf at hunc ⊢
    simp only [Update.type, Update.change]
    by_cases hty : q.declaringType = p.declaringType
    · rw [hty, Function.update_self, Store.lookup_cover]
      by_cases hq : q = p
      · subst hq
        simp [hunc]
      · simp [hq]
    · have hq : q ≠ p := fun h => hty (h ▸ rfl)
      rw [Function.update_of_ne hty]
      simp [hq]
  · rw [update_of_refused (by simp [accepts, hunc])]
    simp [hunc]

end Contents

namespace Store

/-- No update unregisters a pair. -/
theorem statusOf_run_isSome {s : Store} {q : Pair} (h : (s.statusOf q).isSome) (u : Update) :
    ((s.run u).2.statusOf q).isSome := by
  rw [statusOf_eq_view] at h ⊢
  rcases run_view_cases s u with hv | hv
  · rwa [hv]
  · rw [hv]
    by_cases hty : q.declaringType = u.type
    · simp only [Contents.statusOf, hty, Function.update_self] at h ⊢
      exact u.lookup_change_isSome h
    · simpa [Contents.statusOf, Function.update_of_ne hty] using h

/-- Recording a body leaves every pair's status. -/
theorem statusOf_recordPut (s : Store) (ty body : String) (q : Pair) :
    (s.recordPut ty body).2.statusOf q = s.statusOf q := by
  show (s.run (.recordPut ty body)).2.statusOf q = s.statusOf q
  rw [statusOf_eq_view, statusOf_eq_view]
  rcases run_view_cases s (.recordPut ty body) with hv | hv
  · rw [hv]
  · rw [hv]
    by_cases hty : q.declaringType = ty
    · simp [Contents.statusOf, hty, Update.type, Update.change]
    · simp [Contents.statusOf, Update.type, Function.update_of_ne hty]

/-- On a well-formed store, registering a pair gives it its status, uncovered unless it had one,
and leaves every other pair's. -/
theorem WF.statusOf_register {s : Store} (hs : s.WF) (p q : Pair) :
    (s.register p).2.statusOf q =
      if q = p then some ((s.statusOf p).getD .uncovered) else s.statusOf q := by
  rw [show (s.register p).2 = (s.run (.register p)).2 from rfl]
  simp only [statusOf_eq_view, (hs.run_view _).2, Contents.statusOf_update_register]

/-- On a well-formed store, registering a pair and then marking it leaves it covered, and every
other pair's status as it was. -/
theorem WF.statusOf_register_markCovered {s : Store} (hs : s.WF) (p q : Pair) :
    ((s.register p).2.markCovered p).2.statusOf q =
      if q = p then some .covered else s.statusOf q := by
  have hs₁ : (s.register p).2.WF := hs.run (.register p)
  rw [show ((s.register p).2.markCovered p).2 = ((s.register p).2.run (.markCovered p)).2 from rfl,
    statusOf_eq_view, (hs₁.run_view _).2, Contents.statusOf_update_markCovered]
  simp only [← statusOf_eq_view, hs.statusOf_register]
  by_cases hq : q = p
  · -- registered now: an uncovered pair is covered, a covered one stays so
    subst hq
    cases (s.statusOf q).getD .uncovered <;> simp
  · simp [hq]

/-- A well-formed store lists a pair as uncovered for a type exactly when the pair is
uncovered and of that type. -/
theorem WF.mem_uncovered {s : Store} (hs : s.WF) {ty : String} {p : Pair} :
    p ∈ s.uncovered ty ↔ s.statusOf p = some .uncovered ∧ p.declaringType = ty := by
  rw [uncovered_eq_view, statusOf_eq_view]
  unfold Contents.uncovered Contents.statusOf
  simp only [List.mem_map, List.mem_filter, decide_eq_true_eq, Prod.exists, exists_and_right,
    exists_eq_right]
  constructor
  · intro hmem
    have hty : p.declaringType = ty := hs.pairs_typed ty _ hmem
    refine ⟨?_, hty⟩
    rw [hty]
    exact (lookup_eq_some_iff (hs.pairs_nodup ty) p .uncovered).mpr hmem
  · rintro ⟨hlookup, rfl⟩
    exact (lookup_eq_some_iff (hs.pairs_nodup _) p .uncovered).mp hlookup

/-- A well-formed store lists the type of each uncovered pair among the types with one. -/
theorem WF.mem_typesWithUncovered_of_uncovered {s : Store} (hs : s.WF) {p : Pair}
    (hp : s.statusOf p = some .uncovered) : p.declaringType ∈ s.typesWithUncovered := by
  rw [hs.mem_typesWithUncovered]
  rw [statusOf_eq_view] at hp
  exact ⟨p, (lookup_eq_some_iff (hs.pairs_nodup _) p .uncovered).mp hp⟩

/-- A well-formed store refuses to register a registered pair, and stays as it is. -/
theorem WF.register_of_registered {s : Store} (hs : s.WF) {p : Pair}
    (hp : (s.statusOf p).isSome) : s.register p = (false, s) := by
  have hacc : s.view.accepts (.register p) = false := by
    rw [Contents.accepts, ← statusOf_eq_view]
    cases h : s.statusOf p with
    | none => simp [h] at hp
    | some _ => rfl
  exact hs.run_of_refused hacc

namespace Steps

variable {P : Update → Prop}

/-- No steps unregister a pair. -/
theorem registered {s s' : Store} (h : Steps P s s') {q : Pair} (hq : (s.statusOf q).isSome) :
    (s'.statusOf q).isSome :=
  keep (I := fun s => (s.statusOf q).isSome) (fun _ u _ h => statusOf_run_isSome h u) h hq

/-- Steps keep a store well formed. -/
theorem wf {s s' : Store} (h : Steps P s s') (hs : s.WF) : s'.WF := by
  obtain ⟨us, -, rfl⟩ := h
  exact (hs.runAll us).1

end Steps

/-- `s'` is `s` after work that keeps a well-formed store well formed and makes no pair
uncovered. -/
def NoNewUncovered (s s' : Store) : Prop :=
  s.WF → s'.WF ∧ ∀ q, s'.statusOf q = some .uncovered → s.statusOf q = some .uncovered

/-- A fold whose every step relates the store before to the store after by a reflexive,
transitive relation relates the first store to the last. -/
theorem foldl_trans {α β : Type} (R : Store → Store → Prop) (hrefl : ∀ s, R s s)
    (htrans : ∀ {s₁ s₂ s₃}, R s₁ s₂ → R s₂ s₃ → R s₁ s₃) (f : β × Store → α → β × Store)
    (hf : ∀ acc a, R acc.2 (f acc a).2) :
    ∀ (l : List α) (acc : β × Store), R acc.2 (l.foldl f acc).2
  | [], acc => hrefl acc.2
  | a :: l, acc => htrans (hf acc a) (foldl_trans R hrefl htrans f hf l (f acc a))

end Store

end Coverage

open Coverage.Store (Steps)

/-- Recording leaves every pair's status. -/
theorem Records.statusOf {s s' : Store} {out : List PutRecord} (h : Records s out s') (q : Pair) :
    s'.statusOf q = s.statusOf q := by
  have hsteps : Steps (fun u => ∃ ty body, u = .recordPut ty body) s s' :=
    ⟨out.map PutRecord.record, by simp [PutRecord.record], h⟩
  refine Steps.keep (I := fun t => t.statusOf q = s.statusOf q) ?_ hsteps rfl
  rintro t u ⟨ty, body, rfl⟩ ht
  exact (Store.statusOf_recordPut t ty body q).trans ht

/-! ### Pairs that have had their turn -/

section Tried

variable {strat : Template.Strategy}

/-- A pair has had its turn with a strategy in a store: the strategy fails on it, or the body it
makes is recorded for the pair's type. -/
def Tried (strat : Template.Strategy) (s : Store) (p : Pair) : Prop :=
  ∀ body, strat.generate p = .ok body → s.hasPut p.declaringType body = true

/-- Every uncovered pair of a type has had its turn. -/
def TypeTried (strat : Template.Strategy) (s : Store) (ty : String) : Prop :=
  ∀ p, s.statusOf p = some .uncovered → p.declaringType = ty → Tried strat s p

/-- Every uncovered pair has had its turn. -/
def AllTried (strat : Template.Strategy) (s : Store) : Prop :=
  ∀ p, s.statusOf p = some .uncovered → Tried strat s p

/-- A pair keeps its turn: no step forgets a body. -/
theorem Tried.steps {P : Update → Prop} {s s' : Store} {p : Pair} (h : Tried strat s p)
    (hs : Steps P s s') : Tried strat s' p :=
  fun body hb => hs.hasPut (h body hb)

/-- Recording keeps every uncovered pair of a type tried. -/
theorem TypeTried.records {s s' : Store} {out : List PutRecord} {ty : String}
    (h : TypeTried strat s ty) (hr : Records s out s') : TypeTried strat s' ty :=
  fun p hp hty => (h p (by rwa [hr.statusOf] at hp) hty).steps hr.steps

/-- Steps that make no pair uncovered keep every uncovered pair tried. -/
theorem AllTried.steps {P : Update → Prop} {s s' : Store} (h : AllTried strat s)
    (hs : Steps P s s')
    (hunc : ∀ q, s'.statusOf q = some .uncovered → s.statusOf q = some .uncovered) :
    AllTried strat s' :=
  fun q hq => (h q (hunc q hq)).steps hs

/-! ### A generation pass gives every uncovered pair its turn -/

/-- In a fold that keeps `I`, a property of an element that a step keeps holds at the end once
it holds. -/
theorem foldl_keeps {α β : Type} (f : β → α → β) (I : β → Prop) (P : β → Prop)
    (hI : ∀ b a, I b → I (f b a)) (hkeep : ∀ b a, I b → P b → P (f b a)) :
    ∀ (l : List α) (b : β), I b → P b → P (l.foldl f b)
  | [], _, _, hp => hp
  | a :: rest, b, hb, hp => foldl_keeps f I P hI hkeep rest (f b a) (hI b a hb) (hkeep b a hb hp)

/-- In a fold that keeps `I`, when each step establishes `P` of its own element and every step
keeps `P` of every element, `P` holds at the end of every element. -/
theorem foldl_establishes {α β : Type} (f : β → α → β) (I : β → Prop) (P : α → β → Prop)
    (hI : ∀ b a, I b → I (f b a)) (hstep : ∀ b a, I b → P a (f b a))
    (hkeep : ∀ b a a', I b → P a b → P a (f b a')) :
    ∀ (l : List α) (b : β), I b → ∀ a ∈ l, P a (l.foldl f b)
  | [], _, _, _, ha => absurd ha List.not_mem_nil
  | x :: rest, b, hb, a, ha => by
    rw [List.foldl_cons]
    rcases List.mem_cons.mp ha with rfl | ha
    · exact foldl_keeps f I (P a) hI (fun b' a' hb' => hkeep b' a a' hb') rest _ (hI b a hb)
        (hstep b a hb)
    · exact foldl_establishes f I P hI hstep hkeep rest _ (hI b x hb) a ha

/-- One pair's turn leaves the pair tried. -/
theorem tried_generatePair (ty : String) (acc : GenerationReport × Store) {p : Pair}
    (hp : p.declaringType = ty) : Tried strat (generatePair strat ty acc p).2 p := by
  obtain ⟨r, s⟩ := acc
  intro body hbody
  unfold generatePair
  simp only [hbody, hp]
  split
  · next h => exact h
  · exact Store.hasPut_recordPut_self s ty body

/-- A turn only records. -/
theorem records_generatePair (ty : String) (acc : GenerationReport × Store) (p : Pair) :
    ∃ out, Records acc.2 out (generatePair strat ty acc p).2 := by
  obtain ⟨out, -, h⟩ := recordStep_generatePair strat ty acc.1 acc.2 p
  exact ⟨out, h⟩

/-- After a pass over a type, every uncovered pair of the type has had its turn. -/
theorem typeTried_generateForType {s : Store} (hs : s.WF) (ty : String) :
    TypeTried strat (generateForType strat s ty).2 ty := by
  intro p hp hty
  -- the pass meets every pair the store listed as uncovered for the type, this one among them
  have hlisted : p ∈ s.uncovered ty := by
    rw [(generateForType_rel Records.composes (recordStep_generatePair strat) s ty).statusOf] at hp
    exact hs.mem_uncovered.mpr ⟨hp, hty⟩
  unfold generateForType
  refine foldl_establishes (generatePair strat ty) (fun _ => True)
    (fun q acc => q.declaringType = ty → Tried strat acc.2 q) (fun _ _ _ => trivial)
    (fun acc q _ hq => tried_generatePair ty acc hq) ?_ _ _ trivial p hlisted hty
  intro acc q q' _ hq hqty
  obtain ⟨out, hout⟩ := records_generatePair ty acc q'
  exact (hq hqty).steps hout.steps

/-- A pass that ends early ends on a read that finds the token set, and reports it: a pass that
reports no cancellation visited every type. -/
@[simp] theorem GenerationReport.merge_cancelled (a b : GenerationReport) :
    (a.merge b).cancelled = (a.cancelled || b.cancelled) := rfl

/-- A pass reads the token before each type: a set token ends it at once, reporting the
cancellation unless no type is left. -/
theorem generateSequential_of_isSet {token : Token} (h : token.isSet = true) (s : Store) :
    ∀ types : List String,
      generateSequential strat token s types = (if types = [] then {} else { cancelled := true }, s)
  | [] => rfl
  | _ :: _ => by simp [generateSequential, h]

/-- A token found not set lets the pass visit the type and go on with the token after the read. -/
theorem generateSequential_cons {token : Token} (h : token.isSet = false) (s : Store)
    (ty : String) (rest : List String) :
    generateSequential strat token s (ty :: rest) =
      ((generateForType strat s ty).1.merge
          (generateSequential strat token.read.2 (generateForType strat s ty).2 rest).1,
        (generateSequential strat token.read.2 (generateForType strat s ty).2 rest).2) := by
  simp [generateSequential, h]

/-- A pass over a nonempty list that reports no cancellation found the token not set before its
first type, and its pass over the rest reports none either. -/
theorem generateSequential_cons_uncancelled {token : Token} {s : Store} {ty : String}
    {rest : List String}
    (hc : (generateSequential strat token s (ty :: rest)).1.cancelled = false) :
    token.isSet = false ∧
      (generateSequential strat token.read.2 (generateForType strat s ty).2 rest).1.cancelled =
        false := by
  cases hset : token.isSet
  · rw [generateSequential_cons hset, GenerationReport.merge_cancelled, Bool.or_eq_false_iff] at hc
    exact ⟨rfl, hc.2⟩
  · rw [generateSequential_of_isSet hset] at hc
    simp at hc

/-- After a pass over a list of types that reports no cancellation, every uncovered pair of each
of them has had its turn. -/
theorem typeTried_generateSequential : ∀ (token : Token) {s : Store} (types : List String),
    s.WF → (generateSequential strat token s types).1.cancelled = false →
      ∀ ty ∈ types, TypeTried strat (generateSequential strat token s types).2 ty
  | _, _, [], _, _ => fun _ hty => absurd hty List.not_mem_nil
  | token, s, ty :: rest, hs, hc => by
    obtain ⟨hset, hrest⟩ := generateSequential_cons_uncancelled hc
    rw [generateSequential_cons hset]
    have hfirst : (generateForType strat s ty).2.WF :=
      (generateForType_rel Records.composes (recordStep_generatePair strat) s ty).steps.wf hs
    have hothers := generateSequential_rel Records.composes
      (generateForType_rel Records.composes (recordStep_generatePair strat)) token.read.2
      (generateForType strat s ty).2 rest
    intro ty' hty'
    rcases List.mem_cons.mp hty' with rfl | hty'
    · exact (typeTried_generateForType hs ty').records hothers
    · exact typeTried_generateSequential token.read.2 rest hfirst hrest ty' hty'

/-- The chunks of a list read the list. -/
theorem flatten_chunks {α : Type} (n : Nat) (xs : List α) : (chunks n xs).flatten = xs := by
  fun_induction chunks n xs with
  | case1 xs hn => simp
  | case2 xs hn hempty => simpa using hempty
  | case3 xs hn hempty ih => rw [List.flatten_cons, ih, List.take_append_drop]

/-- After the passes over the pieces of a list that report no cancellation, every uncovered pair
of each type of each piece has had its turn. -/
theorem typeTried_generateChunks : ∀ (token : Token) {s : Store} (pieces : List (List String)),
    s.WF → (generateChunks strat token s pieces).1.cancelled = false →
      ∀ chunk ∈ pieces, ∀ ty ∈ chunk, TypeTried strat (generateChunks strat token s pieces).2 ty
  | _, _, [], _, _ => fun _ hchunk => absurd hchunk List.not_mem_nil
  | token, s, chunk :: rest, hs, hc => by
    rw [generateChunks] at hc ⊢
    simp only [GenerationReport.merge_cancelled, Bool.or_eq_false_iff] at hc
    have hfirst : (generateSequential strat token s chunk).2.WF :=
      (generateSequential_rel Records.composes
        (generateForType_rel Records.composes (recordStep_generatePair strat)) token s
          chunk).steps.wf hs
    have hothers := generateChunks_rel Records.composes
      (generateForType_rel Records.composes (recordStep_generatePair strat))
      (token.afterPass chunk.length) (generateSequential strat token s chunk).2 rest
    intro chunk' hchunk' ty hty
    rcases List.mem_cons.mp hchunk' with rfl | hchunk'
    · exact (typeTried_generateSequential token chunk' hs hc.1 ty hty).records hothers
    · exact typeTried_generateChunks _ rest hfirst hc.2 chunk' hchunk' ty hty

/-- After a pass with any number of workers over a list of types that reports no cancellation,
every uncovered pair of each of them has had its turn. -/
theorem typeTried_generateAll {s : Store} (hs : s.WF) (workers : Nat) (token : Token)
    (types : List String) (hc : (generateAll strat workers token s types).1.cancelled = false) :
    ∀ ty ∈ types, TypeTried strat (generateAll strat workers token s types).2 ty := by
  unfold generateAll at hc ⊢
  split at hc
  · rw [if_pos (by assumption)]
    exact typeTried_generateSequential token types hs hc
  · rw [if_neg (by assumption)]
    intro ty hty
    -- each type lies in one chunk
    have hchunk : ∃ chunk ∈ chunks ((types.length + workers - 1) / workers) types, ty ∈ chunk := by
      rw [← List.mem_flatten, flatten_chunks]
      exact hty
    obtain ⟨chunk, hchunk, htyc⟩ := hchunk
    exact typeTried_generateChunks token _ hs hc chunk hchunk ty htyc

/-- After a pass that reports no cancellation over every type with an uncovered pair, every
uncovered pair has had its turn. -/
theorem allTried_generateAll {s : Store} (hs : s.WF) (workers : Nat) (token : Token)
    (hc : (generateAll strat workers token s s.typesWithUncovered).1.cancelled = false) :
    AllTried strat (generateAll strat workers token s s.typesWithUncovered).2 := by
  intro p hp
  have hbefore : s.statusOf p = some .uncovered := by
    rwa [(generateAll_records strat workers token s _).statusOf] at hp
  exact typeTried_generateAll hs workers token _ hc p.declaringType
    (hs.mem_typesWithUncovered_of_uncovered hbefore) p hp rfl

/-! ### A pass over tried pairs does nothing -/

/-- Work that, from a well-formed store whose uncovered pairs have all had their turn, emits
nothing and leaves the store. -/
def Idle (strat : Template.Strategy) (s : Store) (out : List PutRecord) (s' : Store) : Prop :=
  s.WF → AllTried strat s → out = [] ∧ s' = s

theorem Idle.composes : Composes (Idle strat) where
  refl _ _ _ := ⟨rfl, rfl⟩
  trans := by
    intro s s₁ s₂ out₁ out₂ h₁ h₂ hs ht
    obtain ⟨rfl, rfl⟩ := h₁ hs ht
    obtain ⟨rfl, rfl⟩ := h₂ hs ht
    exact ⟨rfl, rfl⟩

/-- The turn of a tried pair emits nothing and leaves the store. -/
theorem generatePair_of_tried (ty : String) (r : GenerationReport) {s : Store} {p : Pair}
    (h : Tried strat s p) (hp : p.declaringType = ty) :
    (generatePair strat ty (r, s) p).1.emitted = r.emitted ∧
      (generatePair strat ty (r, s) p).2 = s := by
  unfold generatePair
  cases hgen : strat.generate p with
  | error e => exact ⟨rfl, rfl⟩
  | ok body =>
    have hrecorded : s.hasPut ty body = true := hp ▸ h body hgen
    simp [hrecorded]

/-- A pass over a type from a store whose uncovered pairs have all had their turn does nothing. -/
theorem idle_generateForType (s : Store) (ty : String) :
    Idle strat s (generateForType strat s ty).1.emitted (generateForType strat s ty).2 := by
  intro hs htried
  unfold generateForType
  suffices hfold : ∀ l : List Pair, (∀ p ∈ l, p ∈ s.uncovered ty) → ∀ r : GenerationReport,
      (l.foldl (generatePair strat ty) (r, s)).1.emitted = r.emitted ∧
        (l.foldl (generatePair strat ty) (r, s)).2 = s from
    hfold _ (fun _ h => h) {}
  intro l
  induction l with
  | nil => exact fun _ _ => ⟨rfl, rfl⟩
  | cons p rest ih =>
    intro hl r
    obtain ⟨hunc, hty⟩ := hs.mem_uncovered.mp (hl p List.mem_cons_self)
    obtain ⟨hemitted, hstore⟩ := generatePair_of_tried ty r (htried p hunc) hty
    have hturn : generatePair strat ty (r, s) p = ((generatePair strat ty (r, s) p).1, s) :=
      Prod.ext rfl hstore
    rw [List.foldl_cons, hturn]
    obtain ⟨h₁, h₂⟩ := ih (fun q hq => hl q (List.mem_cons_of_mem p hq)) _
    exact ⟨h₁.trans hemitted, h₂⟩

/-- A pass with any number of workers, wherever the token stops it, from a well-formed store whose
uncovered pairs have all had their turn emits nothing and leaves the store. -/
theorem generateAll_of_allTried {s : Store} (hs : s.WF) (h : AllTried strat s) (workers : Nat)
    (token : Token) (types : List String) :
    (generateAll strat workers token s types).1.emitted = [] ∧
      (generateAll strat workers token s types).2 = s :=
  generateAll_rel Idle.composes idle_generateForType workers token s types hs h

/-! ### A pass with no cancellation reports none -/

/-- A turn leaves the report's cancellation. -/
theorem generatePair_cancelled (ty : String) (acc : GenerationReport × Store) (p : Pair) :
    (generatePair strat ty acc p).1.cancelled = acc.1.cancelled := by
  obtain ⟨r, s⟩ := acc
  unfold generatePair
  cases strat.generate p with
  | error e => rfl
  | ok body =>
    dsimp only
    split <;> rfl

/-- A pass over a type reports no cancellation. -/
theorem generateForType_cancelled (s : Store) (ty : String) :
    (generateForType strat s ty).1.cancelled = false :=
  foldl_keeps (generatePair strat ty) (fun _ => True) (fun acc => acc.1.cancelled = false)
    (fun _ _ _ => trivial) (fun acc p _ h => (generatePair_cancelled ty acc p).trans h) _ _
    trivial rfl

/-- A pass over a list of types with a token that is never set reports no cancellation. -/
theorem generateSequential_cancelled : ∀ (token : Token) (s : Store) (types : List String),
    token.setFrom = none → (generateSequential strat token s types).1.cancelled = false
  | _, _, [], _ => rfl
  | token, s, ty :: rest, h => by
    rw [generateSequential_cons (token.isSet_of_setFrom_none h), GenerationReport.merge_cancelled,
      generateForType_cancelled, Bool.false_or]
    exact generateSequential_cancelled token.read.2 _ rest (by rw [Token.read_setFrom, h])

/-- The passes over pieces of a list with a token that is never set report no cancellation. -/
theorem generateChunks_cancelled : ∀ (token : Token) (s : Store) (pieces : List (List String)),
    token.setFrom = none → (generateChunks strat token s pieces).1.cancelled = false
  | _, _, [], _ => rfl
  | token, s, chunk :: rest, h => by
    rw [generateChunks, GenerationReport.merge_cancelled, generateSequential_cancelled token s
      chunk h, generateChunks_cancelled _ _ rest (by rw [Token.afterPass_setFrom, h])]
    rfl

/-- A pass with any number of workers and a token that is never set reports no cancellation. -/
theorem generateAll_cancelled (workers : Nat) {token : Token} (h : token.setFrom = none) (s : Store)
    (types : List String) : (generateAll strat workers token s types).1.cancelled = false := by
  unfold generateAll
  split
  · exact generateSequential_cancelled token s types h
  · exact generateChunks_cancelled token s _ h

end Tried

/-! ### Extraction and taking in a report -/

namespace Loop

/-- One candidate's turn of extraction. -/
def extractStep (views : Views) : Extraction × Store → Candidate → Extraction × Store :=
  fun (e, s) c =>
    match views.extract c with
    | .ok p =>
      let (isNew, s) := s.register p
      ({ e with accepted := e.accepted + 1, newPairs := e.newPairs + (if isNew then 1 else 0) }, s)
    | .error _ => ({ e with rejected := e.rejected + 1 }, s)

theorem extractAll_eq_foldl (views : Views) (store : Store) (cs : List Candidate) :
    extractAll views store cs = cs.foldl (extractStep views) ({ candidates := cs.length }, store) :=
  rfl

/-- A candidate that forms a pair has it registered. -/
theorem extractStep_of_ok {views : Views} {c : Candidate} {p : Pair}
    (h : views.extract c = .ok p) (e : Extraction) (s : Store) :
    (extractStep views (e, s) c).2 = (s.register p).2 := by
  unfold extractStep
  simp only [h]

/-- A candidate that forms no pair leaves the store. -/
theorem extractStep_of_error {views : Views} {c : Candidate} {err : Rejection}
    (h : views.extract c = .error err) (e : Extraction) (s : Store) :
    (extractStep views (e, s) c).2 = s := by
  unfold extractStep
  simp only [h]

/-- A candidate's turn only registers. -/
theorem extractStep_steps (views : Views) (acc : Extraction × Store) (c : Candidate) :
    Steps (fun u => u.isMark = false) acc.2 (extractStep views acc c).2 := by
  obtain ⟨e, s⟩ := acc
  cases h : views.extract c with
  | ok p =>
    rw [extractStep_of_ok h]
    exact Steps.single s (u := .register _) rfl
  | error err =>
    rw [extractStep_of_error h]
    exact Steps.refl s

/-- Extraction from a well-formed store leaves it as it was, or registers a pair new to it that
one of the candidates forms. -/
theorem foldl_extractStep_eq_or_registers (views : Views) :
    ∀ (cs : List Candidate) (acc : Extraction × Store), acc.2.WF →
      (cs.foldl (extractStep views) acc).2 = acc.2 ∨
        ∃ c ∈ cs, ∃ p, views.extract c = .ok p ∧ acc.2.statusOf p = none ∧
          ((cs.foldl (extractStep views) acc).2.statusOf p).isSome
  | [], _, _ => .inl rfl
  | c :: rest, ⟨e, s⟩, hs => by
    rw [List.foldl_cons]
    -- the rest of the pass, from the store this candidate's turn leaves
    have hrest := foldl_extractStep_eq_or_registers views rest (extractStep views (e, s) c)
      ((extractStep_steps views (e, s) c).wf hs)
    have hlater := Steps.foldl (extractStep views) (extractStep_steps views) rest
      (extractStep views (e, s) c)
    cases hex : views.extract c with
    | error err =>
      have hturn := extractStep_of_error hex e s
      rw [hturn] at hrest
      rcases hrest with hsame | ⟨c', hc', p, hp, hnone, hreg⟩
      · exact .inl hsame
      · exact .inr ⟨c', List.mem_cons_of_mem c hc', p, hp, hnone, hreg⟩
    | ok p =>
      have hturn := extractStep_of_ok hex e s
      by_cases hnew : s.statusOf p = none
      · -- a new pair: registered now, and no later turn unregisters it
        refine .inr ⟨c, List.mem_cons_self, p, hex, hnew, hlater.registered ?_⟩
        rw [hturn, hs.statusOf_register, if_pos rfl]
        rfl
      · -- a registered pair is refused and the store stays
        have hrefused : (s.register p).2 = s :=
          congrArg Prod.snd (hs.register_of_registered (Option.ne_none_iff_isSome.mp hnew))
        rw [hturn, hrefused] at hrest
        rcases hrest with hsame | ⟨c', hc', p', hp', hnone, hreg⟩
        · exact .inl hsame
        · exact .inr ⟨c', List.mem_cons_of_mem c hc', p', hp', hnone, hreg⟩

/-- Extraction from a well-formed store leaves it as it was, or registers a pair new to it that
one of the candidates forms. -/
theorem extractAll_eq_or_registers (views : Views) {store : Store} (hs : store.WF)
    (cs : List Candidate) :
    (extractAll views store cs).2 = store ∨
      ∃ c ∈ cs, ∃ p, views.extract c = .ok p ∧ store.statusOf p = none ∧
        ((extractAll views store cs).2.statusOf p).isSome := by
  rw [extractAll_eq_foldl]
  exact foldl_extractStep_eq_or_registers views cs _ hs

/-- A candidate whose pair a well-formed store has registered leaves the store and the count of
new pairs. -/
theorem extractStep_of_registered {views : Views} {c : Candidate} {e : Extraction} {s : Store}
    (hs : s.WF) (h : ∀ p, views.extract c = .ok p → (s.statusOf p).isSome) :
    (extractStep views (e, s) c).2 = s ∧ (extractStep views (e, s) c).1.newPairs = e.newPairs := by
  unfold extractStep
  cases hex : views.extract c with
  | error err => exact ⟨rfl, rfl⟩
  | ok p => simp [hs.register_of_registered (h p hex)]

/-- Over candidates whose pairs a well-formed store has all registered, extraction leaves the
store and the count of new pairs. -/
theorem foldl_extractStep_of_registered (views : Views) :
    ∀ (cs : List Candidate) (acc : Extraction × Store), acc.2.WF →
      (∀ c ∈ cs, ∀ p, views.extract c = .ok p → (acc.2.statusOf p).isSome) →
      (cs.foldl (extractStep views) acc).2 = acc.2 ∧
        (cs.foldl (extractStep views) acc).1.newPairs = acc.1.newPairs
  | [], _, _, _ => ⟨rfl, rfl⟩
  | c :: rest, ⟨e, s⟩, hs, hreg => by
    obtain ⟨hstore, hcount⟩ := extractStep_of_registered (e := e) hs (hreg c List.mem_cons_self)
    have hturn : extractStep views (e, s) c = ((extractStep views (e, s) c).1, s) :=
      Prod.ext rfl hstore
    rw [List.foldl_cons, hturn]
    obtain ⟨hrest, hrestCount⟩ := foldl_extractStep_of_registered views rest
      ((extractStep views (e, s) c).1, s) hs (fun c' hc' => hreg c' (List.mem_cons_of_mem c hc'))
    exact ⟨hrest, hrestCount.trans hcount⟩

/-- Over candidates whose pairs a well-formed store has all registered, extraction leaves the
store and registers no new pair. -/
theorem extractAll_of_registered (views : Views) {store : Store} (hs : store.WF)
    {cs : List Candidate} (h : ∀ c ∈ cs, ∀ p, views.extract c = .ok p → (store.statusOf p).isSome) :
    (extractAll views store cs).2 = store ∧ (extractAll views store cs).1.newPairs = 0 := by
  rw [extractAll_eq_foldl]
  exact foldl_extractStep_of_registered views cs _ hs h

/-- Extraction from a well-formed store registers the pair of every candidate that forms one. -/
theorem foldl_extractStep_registers (views : Views) :
    ∀ (cs : List Candidate) (acc : Extraction × Store), acc.2.WF →
      ∀ c ∈ cs, ∀ p, views.extract c = .ok p →
        ((cs.foldl (extractStep views) acc).2.statusOf p).isSome
  | [], _, _, _, hc, _, _ => absurd hc List.not_mem_nil
  | c :: rest, ⟨e, s⟩, hs, c', hc', p, hp => by
    rw [List.foldl_cons]
    rcases List.mem_cons.mp hc' with rfl | hrest
    · -- registered at its own turn, and no later turn unregisters it
      refine (Steps.foldl (extractStep views) (extractStep_steps views) rest _).registered ?_
      rw [extractStep_of_ok hp, hs.statusOf_register, if_pos rfl]
      rfl
    · exact foldl_extractStep_registers views rest _ ((extractStep_steps views (e, s) c).wf hs)
        c' hrest p hp

/-- Extraction from a well-formed store registers the pair of every candidate that forms one. -/
theorem extractAll_registers (views : Views) {store : Store} (hs : store.WF) {cs : List Candidate}
    {c : Candidate} (hc : c ∈ cs) {p : Pair} (hp : views.extract c = .ok p) :
    ((extractAll views store cs).2.statusOf p).isSome := by
  rw [extractAll_eq_foldl]
  exact foldl_extractStep_registers views cs _ hs c hc p hp

/-- Taking in a report grows the views by observing. -/
theorem ingest_grows (views : Views) (store : Store) (report : Report) :
    views.Grows (ingest views store report).2.1 :=
  Views.grows_observe views report.observed

/-- Taking in a report into a well-formed store keeps it well formed and makes no pair
uncovered: a pair it registers it covers at once. -/
theorem ingest_uncovered (views : Views) {store : Store} (hs : store.WF) (report : Report) :
    (ingest views store report).2.2.WF ∧
      ∀ q, (ingest views store report).2.2.statusOf q = some .uncovered →
        store.statusOf q = some .uncovered := by
  suffices h : Store.NoNewUncovered store (ingest views store report).2.2 from h hs
  unfold ingest
  refine Store.foldl_trans _ (fun _ hs => ⟨hs, fun _ h => h⟩) ?_ _ ?_ report.covered _
  · intro s₁ s₂ s₃ h₁₂ h₂₃ hs₁
    obtain ⟨hs₂, hunc₁₂⟩ := h₁₂ hs₁
    obtain ⟨hs₃, hunc₂₃⟩ := h₂₃ hs₂
    exact ⟨hs₃, fun q hq => hunc₁₂ q (hunc₂₃ q hq)⟩
  · rintro ⟨n, s⟩ c
    dsimp only
    split
    · next p _ =>
      intro hs
      refine ⟨(hs.run (.register p)).run (.markCovered p), fun q hq => ?_⟩
      have hstatus := hs.statusOf_register_markCovered p q
      split_ifs at hstatus with hqp
      · exact absurd (hstatus.symm.trans hq) (by simp)
      · exact hstatus ▸ hq
    · exact fun hs => ⟨hs, fun _ h => h⟩

/-! ### A whole cycle -/

variable {σ : Type}

@[simp] theorem State.enter_views (st : State σ) (p : Phase) : (st.enter p).views = st.views := rfl

section Cycle

variable (setup : Setup) (engine : Engine.Run σ) (st : State σ)

/-- A cycle extracts from its views into its store, for the types of interest. -/
theorem extractPhase_store : (extractPhase setup st).2.store =
    (extractAll st.views st.store
      (st.views.candidates (typesOfInterest setup.settings.typesOfInterest st.views))).2 := rfl

/-- A cycle generates, with its token, for every type with an uncovered pair once extraction is
done. -/
theorem generated_store : (generated setup st).2.store =
    (generateAll setup.strategy setup.workers st.token (extractPhase setup st).2.store
      (extractPhase setup st).2.store.typesWithUncovered).2 := rfl

theorem emittedIn_eq : emittedIn setup st =
    (generateAll setup.strategy setup.workers st.token (extractPhase setup st).2.store
      (extractPhase setup st).2.store.typesWithUncovered).1.emitted := rfl

theorem generated_report : (generated setup st).1 =
    (generateAll setup.strategy setup.workers st.token (extractPhase setup st).2.store
      (extractPhase setup st).2.store.typesWithUncovered).1 := rfl

/-- Generation reads the token before each type it visits. -/
theorem generated_token : (generated setup st).2.token =
    st.token.afterPass (extractPhase setup st).2.store.typesWithUncovered.length := rfl

/-- Delivering a cycle's batch leaves its views and store, or takes in a report. -/
theorem saved_views_store :
    ((saved setup engine st).views = st.views ∧
        (saved setup engine st).store = (generated setup st).2.store) ∨
      ∃ report, (saved setup engine st).views = (ingest st.views (generated setup st).2.store report).2.1 ∧
        (saved setup engine st).store = (ingest st.views (generated setup st).2.store report).2.2 := by
  rw [saved_views, saved_store]
  rcases deliver_cases setup engine (batchIn setup st) (summaryIn setup st) (awaiting setup st) with
    ⟨-, h⟩ | ⟨_, report, -, -, h⟩ | ⟨_, _, -, -, h⟩ <;> rw [h]
  · exact .inl ⟨rfl, rfl⟩
  · exact .inr ⟨report, rfl, rfl⟩
  · exact .inl ⟨rfl, rfl⟩

/-- A cycle whose batch is empty sends nothing: the loop keeps its views and engine, the store
generation left, and the token as generation read it. -/
theorem saved_of_batch_empty (hb : batchIn setup st = []) :
    (saved setup engine st).views = st.views ∧
      (saved setup engine st).store = (generated setup st).2.store ∧
      (saved setup engine st).engine = st.engine ∧
      (persisted setup engine st).token = (generated setup st).2.token := by
  rw [saved_views, saved_store, saved_engine, persisted_token]
  rcases deliver_cases setup engine (batchIn setup st) (summaryIn setup st) (awaiting setup st) with
    ⟨-, h⟩ | ⟨_, _, hr, -, -⟩ | ⟨_, _, hr, -, -⟩
  · rw [h]
    exact ⟨rfl, rfl, rfl, rfl⟩
  all_goals simp [replyTo, hb] at hr

/-- A cycle whose batch is empty reports what it extracted and generated, and nothing else. -/
theorem cycle_summary_of_batch_empty (hb : batchIn setup st = []) :
    (cycle setup engine st).1 = summaryIn setup st := by
  rw [(cycle_cases setup engine st).1]
  rcases deliver_cases setup engine (batchIn setup st) (summaryIn setup st) (awaiting setup st) with
    ⟨-, h⟩ | ⟨_, _, hr, -, -⟩ | ⟨_, _, hr, -, -⟩
  · rw [h]
  all_goals simp [replyTo, hb] at hr

/-- A cycle that emits nothing leaves generation's store as extraction left it. -/
theorem generated_store_of_emitted (he : emittedIn setup st = []) :
    (generated setup st).2.store = (extractPhase setup st).2.store := by
  have hrec := generateAll_records setup.strategy setup.workers st.token
    (extractPhase setup st).2.store (extractPhase setup st).2.store.typesWithUncovered
  rw [← emittedIn_eq, he] at hrec
  exact hrec

/-- A cycle only grows the views. -/
theorem saved_grows : st.views.Grows (saved setup engine st).views := by
  rcases saved_views_store setup engine st with ⟨hv, -⟩ | ⟨report, hv, -⟩ <;> rw [hv]
  · exact Views.Grows.refl _
  · exact ingest_grows _ _ _

/-- From extraction on, a cycle only registers, marks and records. -/
theorem saved_store_steps_of_extracted :
    Steps (fun _ => True) (extractPhase setup st).2.store (saved setup engine st).store := by
  rw [saved_store]
  exact ((generateAll_records _ _ _ _ _).steps.mono fun _ _ => trivial).trans
    (deliver_store setup engine (batchIn setup st) (summaryIn setup st) (awaiting setup st))

/-- A cycle only registers, marks and records. -/
theorem saved_store_steps : Steps (fun _ => True) st.store (saved setup engine st).store :=
  ((extracted_steps setup st).mono fun _ _ => trivial).trans
    (saved_store_steps_of_extracted setup engine st)

/-- A cycle keeps the store well formed. -/
theorem saved_wf (hs : st.store.WF) : (saved setup engine st).store.WF :=
  (saved_store_steps setup engine st).wf hs

/-- After a cycle from a well-formed store whose generation saw no cancellation, every uncovered
pair has had its turn: generation gives every one its turn, and a report makes none uncovered. -/
theorem saved_allTried (hs : st.store.WF) (hc : (generated setup st).1.cancelled = false) :
    AllTried setup.strategy (saved setup engine st).store := by
  have hext : (extractPhase setup st).2.store.WF := (extracted_steps setup st).wf hs
  have hgen : AllTried setup.strategy (generated setup st).2.store := by
    rw [generated_report] at hc
    rw [generated_store]
    exact allTried_generateAll hext _ _ hc
  have hgenwf : (generated setup st).2.store.WF := (generated_steps setup st).wf hs
  rcases saved_views_store setup engine st with ⟨-, hstore⟩ | ⟨report, -, hstore⟩ <;> rw [hstore]
  · exact hgen
  · exact hgen.steps (ingest_steps _ _ _) (ingest_uncovered _ hgenwf report).2

/-- A cycle's extraction leaves the store as it was, or registers a pair new to it that a
candidate of the views forms. -/
theorem extracted_eq_or_registers (hs : st.store.WF) :
    (extractPhase setup st).2.store = st.store ∨
      ∃ c ∈ st.views.candidates (typesOfInterest setup.settings.typesOfInterest st.views),
        ∃ p, st.views.extract c = .ok p ∧ st.store.statusOf p = none ∧
          ((extractPhase setup st).2.store.statusOf p).isSome :=
  extractAll_eq_or_registers _ hs _

/-- A cycle whose extraction leaves a store where every uncovered pair has had its turn emits
nothing. -/
theorem emittedIn_of_allTried (hs : (extractPhase setup st).2.store.WF)
    (h : AllTried setup.strategy (extractPhase setup st).2.store) : emittedIn setup st = [] := by
  rw [emittedIn_eq]
  exact (generateAll_of_allTried hs h _ _ _).1

end Cycle

end Loop

end DefUseCoverage
