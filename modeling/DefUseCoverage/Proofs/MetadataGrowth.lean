import Mathlib
import DefUseCoverage.Metadata.Views
/-! # What observing can and cannot change in the metadata

  The dynamic view grows from what test runs observe. An observed field or method is recorded
  with no defines and no uses, and a name already known keeps its type. So observing

  - keeps the type every known name resolves to (`Db.resolve?_observe`), and so keeps every
    resolution of the views, whatever the policy (`Views.Grows.resolve?`);
  - adds no def-use triple, a field with a method recorded as defining it and one recorded as
    using it (`Db.triples_observe`).

  Every candidate the views list is such a triple (`Views.mem_triples_of_mem_candidates`), and
  the pair a candidate forms is read off the types its three names resolve to
  (`extract_eq_ok`). So every pair extraction can ever register comes from a triple the views
  had before anything was observed.
-/

namespace DefUseCoverage.Metadata

/-! ### Adding what is missing -/

section ExtendNew

variable {α : Type} [BEq α] [LawfulBEq α]

@[simp] theorem mem_insertNew {xs : List α} {x y : α} : y ∈ insertNew xs x ↔ y ∈ xs ∨ y = x := by
  unfold insertNew
  split
  · next h =>
    refine ⟨.inl, fun hy => hy.elim id fun hyx => hyx ▸ List.contains_iff_mem.mp h⟩
  · simp

@[simp] theorem mem_extendNew {xs ys : List α} {y : α} : y ∈ extendNew xs ys ↔ y ∈ xs ∨ y ∈ ys := by
  induction ys generalizing xs with
  | nil => simp [extendNew]
  | cons x rest ih =>
    simp only [extendNew, List.foldl_cons] at ih ⊢
    rw [ih, mem_insertNew, List.mem_cons]
    tauto

@[simp] theorem mem_dedup {xs : List α} {y : α} : y ∈ dedup xs ↔ y ∈ xs := by
  simp [dedup]

omit [LawfulBEq α] in
/-- Adding what is missing keeps what was there, in front. -/
theorem prefix_insertNew (xs : List α) (x : α) : xs <+: insertNew xs x := by
  unfold insertNew
  split
  · exact List.prefix_refl xs
  · exact List.prefix_append xs [x]

omit [LawfulBEq α] in
theorem prefix_extendNew (xs ys : List α) : xs <+: extendNew xs ys := by
  induction ys generalizing xs with
  | nil => exact List.prefix_refl xs
  | cons y ys ih => exact (prefix_insertNew xs y).trans (ih _)

theorem nodup_insertNew {xs : List α} (h : xs.Nodup) (x : α) : (insertNew xs x).Nodup := by
  unfold insertNew
  split
  · exact h
  · next hx => exact h.append (List.nodup_singleton x) (by simpa using hx)

end ExtendNew

/-! ### Def-use triples -/

namespace Db

/-- The def-use triples of a database: each field with each recorded method that defines it
and each that uses it. -/
def triples (db : Db) : List Candidate :=
  db.methods.flatMap fun (d, md) => md.defines.flatMap fun f =>
    (db.methods.filter (·.2.uses.contains f)).map fun (u, _) => ⟨f, d, u⟩

theorem mem_triples {db : Db} {c : Candidate} :
    c ∈ db.triples ↔
      (∃ md, (c.defMethod, md) ∈ db.methods ∧ c.field ∈ md.defines) ∧
        ∃ mu, (c.useMethod, mu) ∈ db.methods ∧ c.field ∈ mu.uses := by
  obtain ⟨f, d, u⟩ := c
  simp only [triples, List.mem_flatMap, List.mem_map, List.mem_filter, List.contains_iff_mem,
    Prod.exists, Candidate.mk.injEq]
  constructor
  · rintro ⟨d', md, hd, f', hf, u', mu, ⟨hu, huses⟩, rfl, rfl, rfl⟩
    exact ⟨⟨md, hd, hf⟩, mu, hu, huses⟩
  · rintro ⟨⟨md, hd, hf⟩, mu, hu, huses⟩
    exact ⟨d, md, hd, f, hf, u, mu, ⟨hu, huses⟩, rfl, rfl, rfl⟩

/-- A database whose recorded methods are old ones or define and use nothing has no new
triple. -/
theorem mem_triples_of_methods {db db' : Db}
    (h : ∀ e ∈ db'.methods, e ∈ db.methods ∨ (e.2.defines = [] ∧ e.2.uses = []))
    {c : Candidate} (hc : c ∈ db'.triples) : c ∈ db.triples := by
  obtain ⟨⟨md, hd, hf⟩, mu, hu, huses⟩ := mem_triples.mp hc
  refine mem_triples.mpr ⟨⟨md, ?_, hf⟩, mu, ?_, huses⟩
  · rcases h _ hd with hold | ⟨hnil, -⟩
    · exact hold
    · exact absurd hf (by rw [show md.defines = [] from hnil]; simp)
  · rcases h _ hu with hold | ⟨-, hnil⟩
    · exact hold
    · exact absurd huses (by rw [show mu.uses = [] from hnil]; simp)

/-- A candidate of a database for some types: a field of one of them, a method defining it and one
using it. -/
theorem mem_candidates {db : Db} {types : List String} {c : Candidate} :
    c ∈ db.candidates types ↔
      (∃ ty ∈ types, (c.field, ty) ∈ db.fields) ∧
        (∃ md, (c.defMethod, md) ∈ db.methods ∧ c.field ∈ md.defines) ∧
        ∃ mu, (c.useMethod, mu) ∈ db.methods ∧ c.field ∈ mu.uses := by
  obtain ⟨f, d, u⟩ := c
  simp only [candidates, List.mem_flatMap, List.mem_map, List.mem_filter, List.contains_iff_mem,
    Prod.exists, Candidate.mk.injEq, beq_iff_eq]
  constructor
  · rintro ⟨ty, hty, f', ty', ⟨hf, hty'⟩, d', md, ⟨hd, hdef⟩, u', mu, ⟨hu, huses⟩, rfl, rfl, rfl⟩
    exact ⟨⟨ty, hty, hty' ▸ hf⟩, ⟨md, hd, hdef⟩, mu, hu, huses⟩
  · rintro ⟨⟨ty, hty, hf⟩, ⟨md, hd, hdef⟩, mu, hu, huses⟩
    exact ⟨ty, hty, f, ty, ⟨hf, rfl⟩, d, md, ⟨hd, hdef⟩, u, mu, ⟨hu, huses⟩, rfl, rfl, rfl⟩

/-- Every candidate of a database is one of its triples. -/
theorem mem_triples_of_mem_candidates {db : Db} {types : List String} {c : Candidate}
    (hc : c ∈ db.candidates types) : c ∈ db.triples := by
  simp only [candidates, List.mem_flatMap, List.mem_map, List.mem_filter, List.contains_iff_mem,
    Prod.exists] at hc
  obtain ⟨-, -, f, -, -, d, md, ⟨hd, hf⟩, u, mu, ⟨hu, huses⟩, rfl⟩ := hc
  exact mem_triples.mpr ⟨⟨md, hd, hf⟩, mu, hu, huses⟩

/-! ### Observing -/

/-- A method known under a name is recorded under it. -/
theorem mem_methods_of_method? {db : Db} {name : String} {m : Method}
    (h : db.method? name = some m) : (name, m) ∈ db.methods := by
  obtain ⟨e, he, rfl⟩ := Option.map_eq_some_iff.mp h
  have hkey : e.1 = name := by simpa using List.find?_some he
  exact hkey ▸ List.mem_of_find?_eq_some he

/-- Declaring a method with no defines and no uses records old methods, or the new one with
nothing defined or used. -/
theorem mem_methods_declareMethod_nil {db : Db} {ty name : String} {e : String × Method}
    (he : e ∈ (db.declareMethod ty name [] []).2.methods) :
    e ∈ db.methods ∨ (e.2.defines = [] ∧ e.2.uses = []) := by
  unfold declareMethod at he
  split at he
  · next m hm =>
    split at he
    · -- the method is replaced by itself: extending by nothing changes nothing
      obtain ⟨e', he', rfl⟩ := List.mem_map.mp he
      split
      · exact .inl (mem_methods_of_method? hm)
      · exact .inl he'
    · exact .inl he
  · rcases List.mem_append.mp he with hold | hnew
    · exact .inl hold
    · right
      rw [List.mem_singleton.mp hnew]
      exact ⟨rfl, rfl⟩

/-- Observing adds no triple. -/
theorem triples_observe {db : Db} {o : Observed} {c : Candidate}
    (hc : c ∈ (db.observe o).2.triples) : c ∈ db.triples := by
  unfold observe at hc
  split at hc
  · -- a field leaves the methods as they are
    refine mem_triples_of_methods (fun e he => .inl ?_) hc
    unfold declareField at he
    split at he <;> exact he
  · exact mem_triples_of_methods (fun _ he => mem_methods_declareMethod_nil he) hc

/-- Declaring a field keeps the type of every known field. -/
theorem fieldType?_declareField {db : Db} {ty name n t : String} (h : db.fieldType? n = some t) :
    (db.declareField ty name).2.fieldType? n = some t := by
  unfold declareField
  split
  · exact h
  · unfold fieldType? at h ⊢
    obtain ⟨e, he, rfl⟩ := Option.map_eq_some_iff.mp h
    simp [List.find?_append, he]

/-- Rewriting entries without changing their names keeps what a search by name finds. -/
theorem find?_map_of_fst {l : List (String × Method)} {g : String × Method → String × Method}
    (hg : ∀ x, (g x).1 = x.1) (n : String) :
    (l.map g).find? (·.1 == n) = (l.find? (·.1 == n)).map g := by
  have hpred : ((fun x : String × Method => x.1 == n) ∘ g) = fun x => x.1 == n := by
    funext x
    simp [hg]
  rw [List.find?_map, hpred]

/-- Declaring a method keeps every known method under its declaring type, with its defines and
uses the first of its new ones. -/
theorem method?_declareMethod_grows {db : Db} (ty name : String) (ds us : List String)
    {n : String} {m : Method} (h : db.method? n = some m) :
    ∃ m', (db.declareMethod ty name ds us).2.method? n = some m' ∧
      m'.declaringType = m.declaringType ∧ m.defines <+: m'.defines ∧ m.uses <+: m'.uses := by
  unfold declareMethod
  split
  · next m₀ hm₀ =>
    split
    · -- the method's entries are rewritten in place, under their names and with its type
      obtain ⟨e, he, rfl⟩ := Option.map_eq_some_iff.mp h
      have hkey : e.1 = n := by simpa using List.find?_some he
      unfold method?
      rw [find?_map_of_fst (fun x => by split <;> simp_all) n, he]
      refine ⟨_, rfl, ?_⟩
      dsimp only
      split
      · next hn =>
        -- the entry found is the declared method, the one `method?` gave
        have hname : n = name := hkey.symm.trans (by simpa using hn)
        rw [← hname] at hm₀
        unfold method? at hm₀
        rw [he] at hm₀
        have hm : e.2 = m₀ := by simpa using hm₀
        rw [hm]
        exact ⟨rfl, prefix_extendNew _ _, prefix_extendNew _ _⟩
      · exact ⟨rfl, List.prefix_refl _, List.prefix_refl _⟩
    · exact ⟨m, h, rfl, List.prefix_refl _, List.prefix_refl _⟩
  · unfold method? at h ⊢
    obtain ⟨e, he, rfl⟩ := Option.map_eq_some_iff.mp h
    exact ⟨e.2, by simp [List.find?_append, he], rfl, List.prefix_refl _, List.prefix_refl _⟩

/-- Declaring a method keeps the declaring type of every known method. -/
theorem method?_declareMethod {db : Db} (ty name : String) (ds us : List String) {n : String}
    {m : Method} (h : db.method? n = some m) :
    ∃ m', (db.declareMethod ty name ds us).2.method? n = some m' ∧
      m'.declaringType = m.declaringType := by
  obtain ⟨m', hm', hty, -, -⟩ := method?_declareMethod_grows ty name ds us h
  exact ⟨m', hm', hty⟩

/-- Observing keeps the type every known name resolves to. -/
theorem resolve?_observe {db : Db} (o : Observed) {k : Kind} {n t : String}
    (h : db.resolve? k n = some t) : (db.observe o).2.resolve? k n = some t := by
  cases k with
  | field =>
    unfold observe
    split
    · exact fieldType?_declareField h
    · unfold declareMethod
      split
      · split <;> exact h
      · exact h
  | method =>
    obtain ⟨m, hm, rfl⟩ := Option.map_eq_some_iff.mp h
    unfold observe
    split
    · unfold declareField
      split <;> exact h
    · obtain ⟨m', hm', hty⟩ := method?_declareMethod o.declaringType o.name [] [] hm
      simp [resolve?, hm', hty]

/-! ### Databases as their operations build them -/

/-- A database as its operations build it: each field and each method recorded once, and the
declaring type of each listed among its types. -/
structure WF (db : Db) : Prop where
  /-- Each field is recorded once. -/
  fields_nodup : (db.fields.map (·.1)).Nodup
  /-- Each method is recorded once. -/
  methods_nodup : (db.methods.map (·.1)).Nodup
  /-- A field's declaring type is listed. -/
  field_types : ∀ e ∈ db.fields, e.2 ∈ db.types
  /-- A method's declaring type is listed. -/
  method_types : ∀ e ∈ db.methods, e.2.declaringType ∈ db.types

theorem wf_empty : ({} : Db).WF := ⟨List.nodup_nil, List.nodup_nil, by simp, by simp⟩

/-- A name no entry carries is not among the keys. -/
theorem not_mem_keys_of_find?_eq_none {β : Type} {l : List (String × β)} {name : String}
    (h : l.find? (·.1 == name) = none) : name ∉ l.map (·.1) := by
  intro hmem
  obtain ⟨e, he, rfl⟩ := List.mem_map.mp hmem
  exact absurd (List.find?_eq_none.mp h e he) (by simp)

/-- Declaring a field keeps a database well formed. -/
theorem WF.declareField {db : Db} (h : db.WF) (ty name : String) :
    (db.declareField ty name).2.WF := by
  unfold Db.declareField
  split
  · exact h
  · next hnone =>
    have hnew : name ∉ db.fields.map (·.1) :=
      not_mem_keys_of_find?_eq_none (Option.map_eq_none_iff.mp hnone)
    refine ⟨?_, h.methods_nodup, ?_, fun e he => mem_insertNew.mpr (.inl (h.method_types e he))⟩
    · rw [List.map_append, List.nodup_append]
      refine ⟨h.fields_nodup, by simp, fun a ha b hb hab => hnew ?_⟩
      rw [List.map_singleton, List.mem_singleton] at hb
      rw [hab, hb] at ha
      exact ha
    · intro e he
      rcases List.mem_append.mp he with hold | hnew'
      · exact mem_insertNew.mpr (.inl (h.field_types e hold))
      · rw [List.mem_singleton.mp hnew']
        exact mem_insertNew.mpr (.inr rfl)

/-- Declaring a method keeps a database well formed. -/
theorem WF.declareMethod {db : Db} (h : db.WF) (ty name : String) (ds us : List String) :
    (db.declareMethod ty name ds us).2.WF := by
  unfold Db.declareMethod
  split
  · next m hm =>
    split
    · -- the method's entries are rewritten under their names, with its type
      refine ⟨h.fields_nodup, ?_, h.field_types, ?_⟩
      · rw [List.map_map]
        convert h.methods_nodup using 2
        funext e
        by_cases he : e.1 = name <;> simp [he]
      · intro e he
        obtain ⟨e', he', rfl⟩ := List.mem_map.mp he
        split
        · exact h.method_types (name, m) (mem_methods_of_method? hm)
        · exact h.method_types e' he'
    · exact h
  · next hnone =>
    have hnew : name ∉ db.methods.map (·.1) :=
      not_mem_keys_of_find?_eq_none (Option.map_eq_none_iff.mp hnone)
    refine ⟨h.fields_nodup, ?_, fun e he => mem_insertNew.mpr (.inl (h.field_types e he)), ?_⟩
    · rw [List.map_append, List.nodup_append]
      refine ⟨h.methods_nodup, by simp, fun a ha b hb hab => hnew ?_⟩
      rw [List.map_singleton, List.mem_singleton] at hb
      rw [hab, hb] at ha
      exact ha
    · intro e he
      rcases List.mem_append.mp he with hold | hnew'
      · exact mem_insertNew.mpr (.inl (h.method_types e hold))
      · rw [List.mem_singleton.mp hnew']
        exact mem_insertNew.mpr (.inr rfl)

/-- Observing keeps a database well formed. -/
theorem WF.observe {db : Db} (h : db.WF) (o : Observed) : (db.observe o).2.WF := by
  unfold Db.observe
  split
  · exact h.declareField _ _
  · exact h.declareMethod _ _ _ _

end Db

/-! ### Views grown by observing -/

namespace Views

/-- The def-use triples of both views, whichever the policy consults. -/
def triples (v : Views) : List Candidate := v.static.triples ++ v.dynamic.triples

/-- Every candidate the views list is one of their triples. -/
theorem mem_triples_of_mem_candidates {v : Views} {types : List String} {c : Candidate}
    (hc : c ∈ v.candidates types) : c ∈ v.triples := by
  simp only [candidates, mem_dedup, List.mem_flatMap] at hc
  obtain ⟨db, hdb, hc⟩ := hc
  have htriple := Db.mem_triples_of_mem_candidates hc
  unfold ordered at hdb
  split at hdb
  · obtain rfl : db = v.static := by simpa using hdb
    exact List.mem_append_left _ htriple
  · obtain rfl : db = v.dynamic := by simpa using hdb
    exact List.mem_append_right _ htriple
  · rcases (by simpa using hdb : db = v.static ∨ db = v.dynamic) with rfl | rfl
    · exact List.mem_append_left _ htriple
    · exact List.mem_append_right _ htriple

/-- `v'` is `v` with its dynamic view grown by observing: the same static view and policy,
every name the dynamic view knew resolving the same, and no new triple. -/
structure Grows (v v' : Views) : Prop where
  /-- The static view is the same. -/
  static : v'.static = v.static
  /-- The policy is the same. -/
  policy : v'.policy = v.policy
  /-- Every known name keeps its type. -/
  resolve : ∀ k n t, v.dynamic.resolve? k n = some t → v'.dynamic.resolve? k n = some t
  /-- No triple is new. -/
  triples : ∀ c ∈ v'.dynamic.triples, c ∈ v.dynamic.triples

theorem Grows.refl (v : Views) : Grows v v := ⟨rfl, rfl, fun _ _ _ h => h, fun _ h => h⟩

theorem Grows.trans {v₁ v₂ v₃ : Views} (h₁ : Grows v₁ v₂) (h₂ : Grows v₂ v₃) : Grows v₁ v₃ :=
  ⟨h₂.static.trans h₁.static, h₂.policy.trans h₁.policy,
    fun k n t h => h₂.resolve k n t (h₁.resolve k n t h),
    fun c h => h₁.triples c (h₂.triples c h)⟩

/-- Views with the same static view and policy as others resolve every name the others resolve,
to the same type, when their dynamic view does. -/
theorem resolve?_of_dynamic {v v' : Views} (hs : v'.static = v.static) (hp : v'.policy = v.policy)
    (hd : ∀ k n t, v.dynamic.resolve? k n = some t → v'.dynamic.resolve? k n = some t)
    {k : Kind} {n t : String} (hr : v.resolve? k n = some t) : v'.resolve? k n = some t := by
  unfold Views.resolve? ordered at *
  rw [hs, hp]
  split at hr <;> simp only [List.findSome?_cons, List.findSome?_nil] at hr ⊢
  · exact hr
  · cases hdyn : v.dynamic.resolve? k n with
    | none => simp [hdyn] at hr
    | some t' =>
      simp only [hdyn, Option.some.injEq] at hr
      simp [hd k n t' hdyn, hr]
  · -- the static view answers first, and it is the same
    cases hstatic : v.static.resolve? k n with
    | some t' => simpa [hstatic] using hr
    | none =>
      cases hdyn : v.dynamic.resolve? k n with
      | none => simp [hstatic, hdyn] at hr
      | some t' =>
        simp only [hstatic, hdyn, Option.some.injEq] at hr
        simp [hd k n t' hdyn, hr]

/-- Grown views resolve every name the views resolved to the same type. -/
theorem Grows.resolve? {v v' : Views} (h : Grows v v') {k : Kind} {n t : String}
    (hr : v.resolve? k n = some t) : v'.resolve? k n = some t :=
  resolve?_of_dynamic h.static h.policy h.resolve hr

/-- Grown views have no triple the views lacked. -/
theorem Grows.triples_subset {v v' : Views} (h : Grows v v') {c : Candidate}
    (hc : c ∈ v'.triples) : c ∈ v.triples := by
  unfold Views.triples at *
  rw [h.static] at hc
  rcases List.mem_append.mp hc with hs | hd
  · exact List.mem_append_left _ hs
  · exact List.mem_append_right _ (h.triples c hd)

/-- Observing entities, in order, keeps a database well formed. -/
theorem wf_foldl_observe {db : Db} (h : db.WF) (os : List Observed) :
    (os.foldl (fun db o => (db.observe o).2) db).WF := by
  induction os generalizing db with
  | nil => exact h
  | cons o rest ih => exact ih (h.observe o)

/-- Observing entities, in order, into the dynamic view grows the views. -/
theorem grows_observe (v : Views) (os : List Observed) :
    Grows v { v with dynamic := os.foldl (fun db o => (db.observe o).2) v.dynamic } := by
  induction os generalizing v with
  | nil => exact Grows.refl v
  | cons o rest ih =>
    have hstep : Grows v { v with dynamic := (v.dynamic.observe o).2 } :=
      ⟨rfl, rfl, fun _ _ _ h => Db.resolve?_observe o h, fun _ h => Db.triples_observe h⟩
    exact hstep.trans (ih _)

end Views

/-! ### The pair a candidate forms -/

/-- A candidate forms a pair under a lookup exactly when its field, definition and use resolve
to one type; the pair is then the candidate's names under that type. -/
theorem extractWith_eq_ok {lookup : Kind → String → Option String} {c : Candidate} {p : Pair} :
    extractWith lookup c = .ok p ↔
      p.toCandidate = c ∧ lookup .field c.field = some p.declaringType ∧
        lookup .method c.defMethod = some p.declaringType ∧
        lookup .method c.useMethod = some p.declaringType := by
  obtain ⟨f, d, u⟩ := c
  unfold extractWith resolveWith
  cases hf : lookup .field f with
  | none => simp [bind, Except.bind]
  | some tf =>
    cases hd : lookup .method d with
    | none => simp [bind, Except.bind]
    | some td =>
      cases hu : lookup .method u with
      | none => simp [bind, Except.bind]
      | some tu =>
        -- all three names are known: the pair forms exactly when their types agree
        simp only [bind, Except.bind, Pair.ofMembers, Option.some.injEq]
        by_cases htypes : tf = td ∧ tf = tu
        · obtain ⟨rfl, rfl⟩ := htypes
          obtain ⟨ty, f', d', u'⟩ := p
          simp [Pair.toCandidate]
          tauto
        · simp only [htypes, if_false]
          simp only [reduceCtorEq, false_iff]
          rintro ⟨-, rfl, rfl, rfl⟩
          exact htypes ⟨rfl, rfl⟩

theorem extract_eq_ok {v : Views} {c : Candidate} {p : Pair} :
    v.extract c = .ok p ↔
      p.toCandidate = c ∧ v.resolve? .field c.field = some p.declaringType ∧
        v.resolve? .method c.defMethod = some p.declaringType ∧
        v.resolve? .method c.useMethod = some p.declaringType :=
  extractWith_eq_ok

end DefUseCoverage.Metadata
