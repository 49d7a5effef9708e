import Mathlib
import DefUseCoverage.Proofs.ResumeFixpoint
/-! # Which types extraction registers pairs for

  A cycle's extraction lists the candidates of its types of interest, each view listing the
  candidates whose field one of those types declares in that view, and registers the pair of
  every candidate that forms one. The pair takes its type from the views' resolution of its
  names, in policy order, and not from the view that listed it.

  - The types of interest are the configured ones, or the views' known types when none are
    configured, sorted with no repeats (`typesOfInterest_sorted`).
  - A pair extraction registers is the pair of a listed candidate (`extractAll_source`).
  - The views resolve a name to what a consulted database that knows it says, unless the
    static view, consulted first, knows it otherwise (`Views.resolve?_eq_or_static`). So a
    listed candidate's pair is of a type of interest, or the static view declares its field in
    the pair's type while the dynamic view declares it in a type of interest
    (`Views.scope_of_extract`); with no types configured it is always of a known type.

  Main statement: `extraction_scope`; `extraction_outside_types_of_interest` shows a pair of a
  type outside the types of interest registered under the static-then-dynamic policy.
-/

namespace DefUseCoverage

open Coverage Metadata

/-! ### Resolution through the views -/

namespace Metadata.Views

/-- A name the views resolve has the type some consulted database gives it. -/
theorem exists_of_resolve? {v : Views} {k : Kind} {n t : String} (h : v.resolve? k n = some t) :
    ∃ db ∈ v.ordered, db.resolve? k n = some t :=
  List.exists_of_findSome?_eq_some h

/-- The views resolve a name to the type a consulted database that knows it gives, unless the
database is the dynamic view and the static view, consulted before it, gives another. -/
theorem resolve?_eq_or_static {v : Views} {db : Db} (hdb : db ∈ v.ordered) {k : Kind}
    {n t t' : String} (ht : db.resolve? k n = some t) (ht' : v.resolve? k n = some t') :
    t' = t ∨ v.policy = .staticThenDynamic ∧ db = v.dynamic ∧ v.static.resolve? k n = some t' := by
  unfold resolve? at ht'
  cases hp : v.policy with
  | static | dynamic =>
    -- one database is consulted, the one that knows the name
    simp only [ordered, hp, List.mem_singleton] at hdb ht'
    subst hdb
    simp_all
  | staticThenDynamic =>
    simp only [ordered, hp, List.mem_cons, List.not_mem_nil, or_false] at hdb ht'
    rw [List.findSome?_cons] at ht'
    rcases hdb with rfl | rfl
    · -- the static view is consulted first and knows the name
      simp_all
    · cases hs : v.static.resolve? k n with
      | none => simp_all
      | some ts =>
        -- the static view answers before the dynamic one
        rw [hs] at ht'
        exact .inr ⟨rfl, rfl, ht'⟩

/-- **The type of a listed candidate's pair.** Over databases that record each field once, the
pair of a candidate the views list for some types is of one of them, or else the views consult
the static view first, it declares the field in the pair's type, and the dynamic view declares
it in one of the types. -/
theorem scope_of_extract {v : Views} (hs : v.static.WF) (hd : v.dynamic.WF) {types : List String}
    {c : Candidate} {p : Pair} (hc : c ∈ v.candidates types) (hp : v.extract c = .ok p) :
    p.declaringType ∈ types ∨
      p.declaringType ∉ types ∧ v.policy = .staticThenDynamic ∧
        v.static.fieldType? p.field = some p.declaringType ∧
        ∃ ty ∈ types, v.dynamic.fieldType? p.field = some ty := by
  obtain ⟨rfl, hf, -, -⟩ := extract_eq_ok.mp hp
  simp only [candidates, mem_dedup, List.mem_flatMap] at hc
  obtain ⟨db, hdb, hc⟩ := hc
  -- the listing database declares the field in a requested type
  obtain ⟨⟨ty, hty, hfield⟩, -⟩ := Db.mem_candidates.mp hc
  have hdbty : db.resolve? .field p.field = some ty :=
    ((wf_of_mem_ordered hs hd hdb).fieldType?_eq_some_iff).mpr hfield
  by_cases hin : p.declaringType ∈ types
  · exact .inl hin
  · rcases resolve?_eq_or_static hdb hdbty hf with heq | ⟨hpol, rfl, hstatic⟩
    · exact absurd (heq ▸ hty) hin
    · exact .inr ⟨hin, hpol, hstatic, ty, hty, hdbty⟩

/-- Over databases as their operations build them, a name the views resolve as a field has a
type the views know. -/
theorem resolve?_field_mem_knownTypes {v : Views} (hs : v.static.WF) (hd : v.dynamic.WF)
    {n t : String} (h : v.resolve? .field n = some t) : t ∈ v.knownTypes := by
  obtain ⟨db, hdb, ht⟩ := exists_of_resolve? h
  exact mem_knownTypes.mpr
    ⟨db, hdb, (wf_of_mem_ordered hs hd hdb).field_types _ (Db.mem_fields_of_fieldType? ht)⟩

end Metadata.Views

namespace Loop

/-! ### The types of interest -/

/-- Dropping repeated neighbours from a sorted list leaves it strictly sorted. -/
theorem dropAdjacentRepeats_sorted :
    ∀ {l : List String}, l.Pairwise (· ≤ ·) → (dropAdjacentRepeats l).Pairwise (· < ·)
  | [], _ => by simp [dropAdjacentRepeats]
  | [a], _ => by simp [dropAdjacentRepeats]
  | a :: b :: rest, h => by
    have hrest := dropAdjacentRepeats_sorted (List.pairwise_cons.mp h).2
    unfold dropAdjacentRepeats
    split_ifs with hab
    · exact hrest
    · -- `a` is below `b`, and `b` is at most every later item
      refine List.pairwise_cons.mpr ⟨fun x hx => ?_, hrest⟩
      have hab' : a < b := lt_of_le_of_ne ((List.pairwise_cons.mp h).1 b List.mem_cons_self) hab
      rcases List.mem_cons.mp (mem_dropAdjacentRepeats.mp hx) with rfl | hx'
      · exact hab'
      · exact lt_of_lt_of_le hab' ((List.pairwise_cons.mp (List.pairwise_cons.mp h).2).1 x hx')

/-- The types of interest are sorted, with no repeats. -/
theorem typesOfInterest_sorted (configured : List String) (views : Views) :
    (typesOfInterest configured views).Pairwise (· < ·) := by
  unfold typesOfInterest
  refine dropAdjacentRepeats_sorted ?_
  have hsorted := @List.pairwise_mergeSort String (fun a b => decide (a ≤ b))
    (fun a b c hab hbc => by simp only [decide_eq_true_eq] at *; exact le_trans hab hbc)
    (fun a b => by simpa using le_total a b)
    (if configured.isEmpty then views.knownTypes else configured)
  exact hsorted.imp fun h => by simpa using h

/-! ### What extraction registers -/

/-- A pair that a pass of extraction registers was registered before, or is formed by one of
the candidates. -/
theorem foldl_extractStep_source (views : Views) :
    ∀ (cs : List Candidate) (acc : Extraction × Store), acc.2.WF → ∀ p : Pair,
      ((cs.foldl (extractStep views) acc).2.statusOf p).isSome →
        (acc.2.statusOf p).isSome ∨ ∃ c ∈ cs, views.extract c = .ok p
  | [], _, _, _, h => .inl h
  | c :: rest, ⟨e, s⟩, hs, p, h => by
    rw [List.foldl_cons] at h
    rcases foldl_extractStep_source views rest _ ((extractStep_steps views (e, s) c).wf hs) p h
      with hmid | ⟨c', hc', hp⟩
    · -- registered after this candidate's turn: by the turn, or before it
      cases hex : views.extract c with
      | error err =>
        rw [extractStep_of_error hex] at hmid
        exact .inl hmid
      | ok q =>
        rw [extractStep_of_ok hex, hs.statusOf_register] at hmid
        by_cases hpq : p = q
        · subst hpq
          exact .inr ⟨c, List.mem_cons_self, hex⟩
        · rw [if_neg hpq] at hmid
          exact .inl hmid
    · exact .inr ⟨c', List.mem_cons_of_mem c hc', hp⟩

/-- A pair extraction registers in a well-formed store was registered before, or is formed by
one of the candidates. -/
theorem extractAll_source (views : Views) {store : Store} (hs : store.WF) (cs : List Candidate)
    (p : Pair) (h : ((extractAll views store cs).2.statusOf p).isSome) :
    (store.statusOf p).isSome ∨ ∃ c ∈ cs, views.extract c = .ok p := by
  rw [extractAll_eq_foldl] at h
  exact foldl_extractStep_source views cs _ hs p h

/-! ### The main statement -/

variable {σ : Type}

/-- Where a pair that a cycle's extraction registers comes from, for a setup and a loop state. -/
structure Scope (setup : Setup) (st : State σ) (p : Pair) : Prop where
  /-- The types of interest are sorted, with no repeats. -/
  sorted : (typesOfInterest setup.settings.typesOfInterest st.views).Pairwise (· < ·)
  /-- They are the configured types, or the views' known types when none are configured. -/
  members : ∀ ty, ty ∈ typesOfInterest setup.settings.typesOfInterest st.views ↔
    ty ∈ (if setup.settings.typesOfInterest.isEmpty then st.views.knownTypes
      else setup.settings.typesOfInterest)
  /-- The pair's candidate is listed for the types of interest. -/
  listed : p.toCandidate ∈ st.views.candidates (typesOfInterest setup.settings.typesOfInterest st.views)
  /-- The views form the pair from its candidate. -/
  formed : st.views.extract p.toCandidate = .ok p
  /-- With no types configured, the pair is of a type of interest. -/
  unconfigured : setup.settings.typesOfInterest = [] →
    p.declaringType ∈ typesOfInterest setup.settings.typesOfInterest st.views
  /-- The pair is of a type of interest, or the static view, consulted first, declares its field
  in the pair's type while the dynamic view declares it in a type of interest. -/
  scope : p.declaringType ∈ typesOfInterest setup.settings.typesOfInterest st.views ∨
    p.declaringType ∉ typesOfInterest setup.settings.typesOfInterest st.views ∧
      st.views.policy = .staticThenDynamic ∧
      st.views.static.fieldType? p.field = some p.declaringType ∧
      ∃ ty ∈ typesOfInterest setup.settings.typesOfInterest st.views,
        st.views.dynamic.fieldType? p.field = some ty

/-- **What extraction registers.** Take a cycle's extraction from a well-formed store, over
static and dynamic views that record each field once, for any policy and any configured types.
A pair it registers that was not registered before is the pair of a candidate the views list
for the types of interest. It is of a type of interest when no types are configured, and in any
case unless the views consult the static view first, it declares the pair's field in the pair's
type, and the dynamic view declares it in a type of interest. -/
theorem extraction_scope (setup : Setup) (st : State σ) (hs : st.store.WF)
    (hstatic : st.views.static.WF) (hdyn : st.views.dynamic.WF) (p : Pair)
    (hnew : st.store.statusOf p = none)
    (hreg : ((extractPhase setup st).2.store.statusOf p).isSome) : Scope setup st p := by
  -- the new pair is formed by a listed candidate, which is the pair's own
  obtain ⟨c, hc, hp⟩ : ∃ c ∈ st.views.candidates
      (typesOfInterest setup.settings.typesOfInterest st.views), st.views.extract c = .ok p := by
    rw [extractPhase_store] at hreg
    rcases extractAll_source st.views hs _ p hreg with hold | hsrc
    · rw [hnew] at hold
      cases hold
    · exact hsrc
  obtain ⟨hcand, hf, -, -⟩ := extract_eq_ok.mp hp
  subst hcand
  refine ⟨typesOfInterest_sorted _ _, fun _ => mem_typesOfInterest, hc, hp, fun hnil => ?_,
    Views.scope_of_extract hstatic hdyn hc hp⟩
  -- with no types configured, the types of interest are the known types
  rw [mem_typesOfInterest, hnil, List.isEmpty_nil, if_pos rfl]
  exact Views.resolve?_field_mem_knownTypes hstatic hdyn hf

/-! ### A pair outside the types of interest -/

/-- Views that type one field two ways: the static view declares `X.F` and the methods writing
and reading it in `A`, the dynamic view in `B`. -/
def crossedViews : Views :=
  ⟨⟨["A"], [("X.F", "A")], [("X.Set", ⟨"A", ["X.F"], []⟩), ("X.Get", ⟨"A", [], ["X.F"]⟩)]⟩,
    ⟨["B"], [("X.F", "B")], [("X.Set", ⟨"B", ["X.F"], []⟩), ("X.Get", ⟨"B", [], ["X.F"]⟩)]⟩,
    .staticThenDynamic⟩

/-- With `B` the only type of interest, only the dynamic view lists the candidate of `X.F`, the
static view resolves its names to `A`, and extraction into an empty store registers the pair
of `A`. -/
theorem crossedViews_registers :
    ((extractPhase { settings := { typesOfInterest := ["B"] }, strategy := ⟨[], 0, 2⟩ }
      (State.new {} crossedViews ⟨[], []⟩ ())).2.store.statusOf
        ⟨"A", "X.F", "X.Set", "X.Get"⟩).isSome ∧
      typesOfInterest ["B"] crossedViews = ["B"] := by
  have htypes : typesOfInterest ["B"] crossedViews = ["B"] := by
    simp [typesOfInterest, dropAdjacentRepeats]
  have hc : (⟨"X.F", "X.Set", "X.Get"⟩ : Candidate) ∈
      crossedViews.candidates (typesOfInterest ["B"] crossedViews) := by
    rw [htypes]
    decide
  have hp : crossedViews.extract ⟨"X.F", "X.Set", "X.Get"⟩ = .ok ⟨"A", "X.F", "X.Set", "X.Get"⟩ :=
    extract_eq_ok.mpr ⟨rfl, rfl, rfl, rfl⟩
  refine ⟨?_, htypes⟩
  rw [extractPhase_store]
  exact extractAll_registers crossedViews Store.wf_empty hc hp

/-- Extraction can register a pair of a type outside the types of interest. -/
theorem extraction_outside_types_of_interest :
    let setup : Setup := { settings := { typesOfInterest := ["B"] }, strategy := ⟨[], 0, 2⟩ }
    let st : State Unit := State.new {} crossedViews ⟨[], []⟩ ()
    let p : Pair := ⟨"A", "X.F", "X.Set", "X.Get"⟩
    ((extractPhase setup st).2.store.statusOf p).isSome ∧
      p.declaringType ∉ typesOfInterest setup.settings.typesOfInterest st.views := by
  intro setup st p
  obtain ⟨hreg, htypes⟩ := crossedViews_registers
  refine ⟨hreg, ?_⟩
  show "A" ∉ typesOfInterest ["B"] crossedViews
  rw [htypes]
  decide

/-- The views of `crossedViews` are as their operations build them, and the pair of `A` that
extraction registers with `B` the only type of interest is of the static view's type. -/
theorem extraction_scope_crossed :
    let setup : Setup := { settings := { typesOfInterest := ["B"] }, strategy := ⟨[], 0, 2⟩ }
    let st : State Unit := State.new {} crossedViews ⟨[], []⟩ ()
    let p : Pair := ⟨"A", "X.F", "X.Set", "X.Get"⟩
    st.store.WF ∧ st.views.static.WF ∧ st.views.dynamic.WF ∧ st.store.statusOf p = none ∧
      ((extractPhase setup st).2.store.statusOf p).isSome ∧ Scope setup st p := by
  intro setup st p
  have hs : st.store.WF := Store.wf_empty
  have hstatic : st.views.static.WF := ⟨by decide, by decide, by decide, by decide⟩
  have hdyn : st.views.dynamic.WF := ⟨by decide, by decide, by decide, by decide⟩
  have hnew : st.store.statusOf p = none := rfl
  have hreg := crossedViews_registers.1
  exact ⟨hs, hstatic, hdyn, hnew, hreg, extraction_scope setup st hs hstatic hdyn p hnew hreg⟩

end Loop

end DefUseCoverage
