import Mathlib
import DefUseCoverage.Proofs.MetadataGrowth
/-! # Metadata only grows, and every candidate resolves

  A metadata database changes by four calls (`Db.Call`): declaring a field of a type,
  declaring a method of a type with the fields it defines and uses, recording an entity seen at
  run time, and adding the types a file lists. Each only adds.

  - `Db.Kept I`: declaring a field, declaring a method and listing a type keep `I`. Every call
    is made of these three, so every history of calls keeps `I` (`Db.Kept.applyAll`).
  - `Db.Extends db db'`: every name `db` resolves, `db'` resolves to the same type; the known
    types of `db` begin those of `db'`; and each method's defines and uses begin its defines
    and uses in `db'`. It is reflexive and transitive, and extending a database is kept, so
    every history of calls extends (`Db.extends_applyAll`).
  - From the empty database on, the known types have no repeats (`Db.kept_nodup_types`)
    and, the database being well formed (`Db.kept_wf`), list the declaring type of every field
    and method.
  - Declaring and recording answer whether the name was unknown in its namespace
    (`Db.declareField_fst`, `Db.declareMethod_fst`, `Db.observe_fst`).
  - Main statement: `declarations_append_only`; with it, views whose dynamic view alone grows
    keep every resolution, whatever the policy.

  A candidate the views list is a field of a requested type with a method recorded as defining
  it and one recorded as using it, all in one consulted view. So each of its three names
  resolves through the views, and extraction gives a pair exactly when the three types agree,
  and a mismatch otherwise: never an unknown name (`candidates_resolve`).
-/

namespace DefUseCoverage.Metadata

namespace Db

/-! ### Calls that add to a database -/

/-- A call that adds to a metadata database. -/
inductive Call where
  /-- Declare a field of a type. -/
  | field (ty name : String)
  /-- Declare a method of a type, with fields it defines and uses. -/
  | method (ty name : String) (defines uses : List String)
  /-- Record an entity seen at run time. -/
  | observe (o : Observed)
  /-- Add every type a file lists. -/
  | extend (f : FileContents)

/-- The database after a call. -/
def apply (db : Db) : Call → Db
  | .field ty name => (db.declareField ty name).2
  | .method ty name ds us => (db.declareMethod ty name ds us).2
  | .observe o => (db.observe o).2
  | .extend f => db.extend f

/-- The database after calls, in order. -/
def applyAll (db : Db) (calls : List Call) : Db := calls.foldl apply db

@[simp] theorem applyAll_nil (db : Db) : db.applyAll [] = db := rfl

@[simp] theorem applyAll_append (db : Db) (calls more : List Call) :
    db.applyAll (calls ++ more) = (db.applyAll calls).applyAll more := by
  simp [applyAll, List.foldl_append]

/-! ### What each call leaves -/

section Frames

variable (db : Db) (ty name : String) (ds us : List String)

@[simp] theorem methods_declareField : (db.declareField ty name).2.methods = db.methods := by
  unfold declareField
  split <;> rfl

@[simp] theorem fields_declareMethod : (db.declareMethod ty name ds us).2.fields = db.fields := by
  unfold declareMethod
  split
  · split <;> rfl
  · rfl

theorem types_declareField :
    (db.declareField ty name).2.types = db.types ∨
      (db.declareField ty name).2.types = insertNew db.types ty := by
  unfold declareField
  split
  · exact .inl rfl
  · exact .inr rfl

theorem types_declareMethod :
    (db.declareMethod ty name ds us).2.types = db.types ∨
      (db.declareMethod ty name ds us).2.types = insertNew db.types ty := by
  unfold declareMethod
  split
  · exact .inl (by split <;> rfl)
  · exact .inr rfl

end Frames

/-! ### Extending a database -/

/-- `db'` extends `db`: every name keeps the type it resolves to, the known types of `db` begin
those of `db'`, and each method's defines and uses begin its defines and uses in `db'`. -/
structure Extends (db db' : Db) : Prop where
  /-- Every resolved name resolves to the same type. -/
  resolve : ∀ k n t, db.resolve? k n = some t → db'.resolve? k n = some t
  /-- The known types only grow at the end. -/
  types : db.types <+: db'.types
  /-- A method's defines and uses only grow at the end. -/
  sets : ∀ n m, db.method? n = some m →
    ∃ m', db'.method? n = some m' ∧ m.defines <+: m'.defines ∧ m.uses <+: m'.uses

theorem Extends.refl (db : Db) : db.Extends db :=
  ⟨fun _ _ _ h => h, List.prefix_refl _,
    fun _ m h => ⟨m, h, List.prefix_refl _, List.prefix_refl _⟩⟩

theorem Extends.trans {db₁ db₂ db₃ : Db} (h₁ : db₁.Extends db₂) (h₂ : db₂.Extends db₃) :
    db₁.Extends db₃ where
  resolve k n t h := h₂.resolve k n t (h₁.resolve k n t h)
  types := h₁.types.trans h₂.types
  sets n m h := by
    obtain ⟨m₂, hm₂, hd₂, hu₂⟩ := h₁.sets n m h
    obtain ⟨m₃, hm₃, hd₃, hu₃⟩ := h₂.sets n m₂ hm₂
    exact ⟨m₃, hm₃, hd₂.trans hd₃, hu₂.trans hu₃⟩

theorem extends_declareField (db : Db) (ty name : String) :
    db.Extends (db.declareField ty name).2 where
  resolve k n t h := by
    cases k with
    | field => exact fieldType?_declareField h
    | method => simpa [resolve?, method?] using h
  types := by
    rcases types_declareField db ty name with h | h
    · exact h ▸ List.prefix_refl _
    · exact h ▸ prefix_insertNew _ _
  sets n m h := ⟨m, by simpa [method?] using h, List.prefix_refl _, List.prefix_refl _⟩

theorem extends_declareMethod (db : Db) (ty name : String) (ds us : List String) :
    db.Extends (db.declareMethod ty name ds us).2 where
  resolve k n t h := by
    cases k with
    | field => simpa [resolve?, fieldType?] using h
    | method =>
      obtain ⟨m, hm, rfl⟩ := Option.map_eq_some_iff.mp h
      obtain ⟨m', hm', hty, -, -⟩ := method?_declareMethod_grows ty name ds us hm
      simp [resolve?, hm', hty]
  types := by
    rcases types_declareMethod db ty name ds us with h | h
    · exact h ▸ List.prefix_refl _
    · exact h ▸ prefix_insertNew _ _
  sets n m h := by
    obtain ⟨m', hm', -, hd, hu⟩ := method?_declareMethod_grows ty name ds us h
    exact ⟨m', hm', hd, hu⟩

/-- Listing a type adds it to the known types, and nothing else. -/
theorem extends_listType (db : Db) (ty : String) :
    db.Extends { db with types := insertNew db.types ty } :=
  ⟨fun _ _ _ h => h, prefix_insertNew _ _,
    fun _ m h => ⟨m, h, List.prefix_refl _, List.prefix_refl _⟩⟩

/-! ### The known types, and well-formedness -/

theorem nodup_types_declareField {db : Db} (h : db.types.Nodup) (ty name : String) :
    (db.declareField ty name).2.types.Nodup := by
  rcases types_declareField db ty name with h' | h' <;> rw [h']
  · exact h
  · exact nodup_insertNew h ty

theorem nodup_types_declareMethod {db : Db} (h : db.types.Nodup) (ty name : String)
    (ds us : List String) : (db.declareMethod ty name ds us).2.types.Nodup := by
  rcases types_declareMethod db ty name ds us with h' | h' <;> rw [h']
  · exact h
  · exact nodup_insertNew h ty

/-- Listing a type keeps a database well formed. -/
theorem WF.listType {db : Db} (h : db.WF) (ty : String) :
    ({ db with types := insertNew db.types ty } : Db).WF :=
  ⟨h.fields_nodup, h.methods_nodup,
    fun e he => mem_insertNew.mpr (.inl (h.field_types e he)),
    fun e he => mem_insertNew.mpr (.inl (h.method_types e he))⟩

/-! ### What every call keeps -/

/-- A property of databases that declaring a field, declaring a method and listing a type keep.
Every call is made of these three, so every call keeps it. -/
structure Kept (I : Db → Prop) : Prop where
  /-- Declaring a field keeps it. -/
  field : ∀ (db : Db) ty name, I db → I (db.declareField ty name).2
  /-- Declaring a method keeps it. -/
  method : ∀ (db : Db) ty name ds us, I db → I (db.declareMethod ty name ds us).2
  /-- Listing a type keeps it. -/
  list : ∀ (db : Db) ty, I db → I { db with types := insertNew db.types ty }

namespace Kept

variable {I : Db → Prop}

/-- Recording an entity declares it as a field or as a method. -/
theorem observe (hI : Kept I) {db : Db} (h : I db) (o : Observed) : I (db.observe o).2 := by
  unfold Db.observe
  split
  · exact hI.field _ _ _ h
  · exact hI.method _ _ _ _ _ h

/-- Adding a listed type lists it, then declares its fields, then its methods. -/
theorem addEntry (hI : Kept I) {db : Db} (h : I db) (t : TypeEntry) : I (db.addEntry t) := by
  unfold Db.addEntry
  have hfields := List.foldlRecOn (motive := I) t.fields
    (fun db f => (db.declareField t.name f).2) (hI.list db t.name h)
    fun _ hd f _ => hI.field _ t.name f hd
  exact List.foldlRecOn (motive := I) t.methods
    (fun db m => (db.declareMethod t.name m.name m.defines m.uses).2) hfields
    fun _ hd _ _ => hI.method _ t.name _ _ _ hd

theorem apply (hI : Kept I) {db : Db} (h : I db) : ∀ c : Call, I (db.apply c)
  | .field ty name => hI.field db ty name h
  | .method ty name ds us => hI.method db ty name ds us h
  | .observe o => hI.observe h o
  | .extend f => List.foldlRecOn (motive := I) f.types Db.addEntry h
      fun _ hd t _ => hI.addEntry hd t

theorem applyAll (hI : Kept I) {db : Db} (h : I db) (calls : List Call) :
    I (db.applyAll calls) :=
  List.foldlRecOn (motive := I) calls Db.apply h fun _ hd c _ => hI.apply hd c

end Kept

/-- Every call extends: extending a given database is kept. -/
theorem kept_extends (db₀ : Db) : Kept (db₀.Extends ·) :=
  ⟨fun db ty name h => h.trans (extends_declareField db ty name),
    fun db ty name ds us h => h.trans (extends_declareMethod db ty name ds us),
    fun db ty h => h.trans (extends_listType db ty)⟩

/-- Every history of calls extends a database. -/
theorem extends_applyAll (db : Db) (calls : List Call) : db.Extends (db.applyAll calls) :=
  (kept_extends db).applyAll (Extends.refl db) calls

/-- Known types without repeats are kept. -/
theorem kept_nodup_types : Kept (·.types.Nodup) :=
  ⟨fun _ ty name h => nodup_types_declareField h ty name,
    fun _ ty name ds us h => nodup_types_declareMethod h ty name ds us,
    fun _ ty h => nodup_insertNew h ty⟩

/-- Well-formedness is kept. -/
theorem kept_wf : Kept Db.WF :=
  ⟨fun _ ty name h => h.declareField ty name, fun _ ty name ds us h => h.declareMethod ty name ds us,
    fun _ ty h => h.listType ty⟩

/-! ### What declaring answers -/

/-- Declaring a field answers whether no field had its name. -/
theorem declareField_fst (db : Db) (ty name : String) :
    (db.declareField ty name).1 = true ↔ db.resolve? .field name = none := by
  unfold declareField
  split <;> simp_all [resolve?]

/-- Declaring a method answers whether no method had its name, whatever its type. -/
theorem declareMethod_fst (db : Db) (ty name : String) (ds us : List String) :
    (db.declareMethod ty name ds us).1 = true ↔ db.resolve? .method name = none := by
  unfold declareMethod
  split
  · next m hm =>
    have hknown : db.resolve? .method name ≠ none := by simp [resolve?, hm]
    split <;> simpa using hknown
  · next hm => simp [resolve?, hm]

/-- Recording an entity answers whether it was unknown in its namespace. -/
theorem observe_fst (db : Db) (o : Observed) :
    (db.observe o).1 = true ↔ db.resolve? o.kind o.name = none := by
  unfold observe
  split
  · next hk => rw [hk]; exact declareField_fst _ _ _
  · next hk => rw [hk]; exact declareMethod_fst _ _ _ _ _

end Db

/-- Views whose dynamic view alone has had calls resolve every name the views resolved, to the
same type. -/
theorem Views.resolve?_applyAll (v : Views) (calls : List Db.Call) {k : Kind} {n t : String}
    (h : v.resolve? k n = some t) :
    ({ v with dynamic := v.dynamic.applyAll calls } : Views).resolve? k n = some t := by
  refine Views.resolve?_of_dynamic ?_ ?_ (Db.extends_applyAll v.dynamic calls).resolve h <;> rfl

/-! ### Metadata only grows -/

/-- **Metadata only grows, and the first declaration of a name wins.** After any history of calls
from the empty database, and then any further calls:
- every name resolves to the type it resolved to before, the known types before begin the known
  types after, and each method's defines and uses before begin those after;
- the known types have no repeats and list the declaring type of every field and method;
- declaring a field, declaring a method and recording an entity answer whether the name was
  unknown in its namespace;
- views whose dynamic view alone has the further calls resolve every name they resolved before,
  to the same type, whatever the policy. -/
theorem declarations_append_only (calls more : List Db.Call) :
    let db := ({} : Db).applyAll calls
    let db' := db.applyAll more
    db.Extends db' ∧ db'.types.Nodup ∧ (∀ e ∈ db'.fields, e.2 ∈ db'.types) ∧
      (∀ e ∈ db'.methods, e.2.declaringType ∈ db'.types) ∧
      (∀ (d : Db) ty name, (d.declareField ty name).1 = true ↔ d.resolve? .field name = none) ∧
      (∀ (d : Db) ty name ds us,
        (d.declareMethod ty name ds us).1 = true ↔ d.resolve? .method name = none) ∧
      (∀ (d : Db) o, (d.observe o).1 = true ↔ d.resolve? o.kind o.name = none) ∧
      ∀ (v : Views) k n t, v.resolve? k n = some t →
        ({ v with dynamic := v.dynamic.applyAll more } : Views).resolve? k n = some t := by
  intro db db'
  have hwf : db'.WF := Db.kept_wf.applyAll (Db.kept_wf.applyAll Db.wf_empty calls) more
  have hnodup : db'.types.Nodup :=
    Db.kept_nodup_types.applyAll (Db.kept_nodup_types.applyAll List.nodup_nil calls) more
  exact ⟨Db.extends_applyAll db more, hnodup, hwf.field_types, hwf.method_types,
    Db.declareField_fst, Db.declareMethod_fst, Db.observe_fst,
    fun v _ _ _ h => v.resolve?_applyAll more h⟩

/-! ### Candidates resolve -/

/-- A recorded field resolves. -/
theorem Db.resolve?_field_isSome {db : Db} {n ty : String} (h : (n, ty) ∈ db.fields) :
    (db.resolve? .field n).isSome := by
  simp only [resolve?, fieldType?, Option.isSome_map, List.find?_isSome]
  exact ⟨_, h, by simp⟩

/-- A recorded method resolves. -/
theorem Db.resolve?_method_isSome {db : Db} {n : String} {m : Method} (h : (n, m) ∈ db.methods) :
    (db.resolve? .method n).isSome := by
  simp only [resolve?, method?, Option.isSome_map, List.find?_isSome]
  exact ⟨_, h, by simp⟩

/-- A name some consulted view knows resolves through the views. -/
theorem Views.resolve?_isSome {v : Views} {db : Db} (hdb : db ∈ v.ordered) {k : Kind}
    {n : String} (h : (db.resolve? k n).isSome) : (v.resolve? k n).isSome := by
  unfold Views.resolve?
  exact List.findSome?_isSome_iff.mpr ⟨db, hdb, h⟩

/-- The three names of a listed candidate resolve through the views. -/
theorem Views.resolve?_of_mem_candidates {v : Views} {types : List String} {c : Candidate}
    (hc : c ∈ v.candidates types) :
    (v.resolve? .field c.field).isSome ∧ (v.resolve? .method c.defMethod).isSome ∧
      (v.resolve? .method c.useMethod).isSome := by
  simp only [Views.candidates, mem_dedup, List.mem_flatMap] at hc
  obtain ⟨db, hdb, hc⟩ := hc
  -- all three are recorded in the view that lists the candidate
  obtain ⟨⟨ty, -, hf⟩, ⟨md, hd, -⟩, mu, hu, -⟩ := Db.mem_candidates.mp hc
  exact ⟨Views.resolve?_isSome hdb (Db.resolve?_field_isSome hf),
    Views.resolve?_isSome hdb (Db.resolve?_method_isSome hd),
    Views.resolve?_isSome hdb (Db.resolve?_method_isSome hu)⟩

/-- Three names that resolve give a pair when their types agree, and a mismatch of the three
types otherwise. -/
theorem extractWith_of_resolved {lookup : Kind → String → Option String} {c : Candidate}
    {tf td tu : String} (hf : lookup .field c.field = some tf)
    (hd : lookup .method c.defMethod = some td) (hu : lookup .method c.useMethod = some tu) :
    (tf = td ∧ tf = tu ∧ extractWith lookup c = .ok ⟨tf, c.field, c.defMethod, c.useMethod⟩) ∨
      (¬(tf = td ∧ tf = tu) ∧ extractWith lookup c = .error (.mismatch ⟨tf, td, tu⟩)) := by
  simp only [extractWith, resolveWith, hf, hd, hu, bind, Except.bind, Pair.ofMembers]
  by_cases htypes : tf = td ∧ tf = tu
  · obtain ⟨rfl, rfl⟩ := htypes
    exact .inl ⟨rfl, rfl, by simp⟩
  · exact .inr ⟨htypes, by simp [htypes]⟩

/-- **Every listed candidate resolves.** For any static and dynamic databases, any policy and any
requested types, each of the three names of a candidate the views list resolves through the
views, the first consulted view that knows it answering; the candidate gives a pair exactly when
the three types agree, and otherwise a mismatch of the three types, never an unknown name. -/
theorem candidates_resolve (v : Views) (types : List String) (c : Candidate)
    (hc : c ∈ v.candidates types) :
    ∃ tf td tu, v.resolve? .field c.field = some tf ∧ v.resolve? .method c.defMethod = some td ∧
      v.resolve? .method c.useMethod = some tu ∧
      ((tf = td ∧ tf = tu ∧ v.extract c = .ok ⟨tf, c.field, c.defMethod, c.useMethod⟩) ∨
        (¬(tf = td ∧ tf = tu) ∧ v.extract c = .error (.mismatch ⟨tf, td, tu⟩))) := by
  obtain ⟨hf, hd, hu⟩ := Views.resolve?_of_mem_candidates hc
  obtain ⟨tf, hf⟩ := Option.isSome_iff_exists.mp hf
  obtain ⟨td, hd⟩ := Option.isSome_iff_exists.mp hd
  obtain ⟨tu, hu⟩ := Option.isSome_iff_exists.mp hu
  exact ⟨tf, td, tu, hf, hd, hu, extractWith_of_resolved hf hd hu⟩

/-- A field of `A` written by a method of `A` and read by one of `B`: the views list the crossed
candidate, and its three names resolve. -/
theorem crossed_candidate_resolves :
    let db : Db := ⟨["A", "B"], [("A.F", "A")],
      [("A.Set", ⟨"A", ["A.F"], []⟩), ("B.Get", ⟨"B", [], ["A.F"]⟩)]⟩
    let v : Views := ⟨db, {}, .staticThenDynamic⟩
    let c : Candidate := ⟨"A.F", "A.Set", "B.Get"⟩
    c ∈ v.candidates ["A"] ∧
      ∃ tf td tu, v.resolve? .field c.field = some tf ∧
        v.resolve? .method c.defMethod = some td ∧ v.resolve? .method c.useMethod = some tu ∧
        ((tf = td ∧ tf = tu ∧ v.extract c = .ok ⟨tf, c.field, c.defMethod, c.useMethod⟩) ∨
          (¬(tf = td ∧ tf = tu) ∧ v.extract c = .error (.mismatch ⟨tf, td, tu⟩))) := by
  intro db v c
  have hc : c ∈ v.candidates ["A"] := by decide
  exact ⟨hc, candidates_resolve v ["A"] c hc⟩

end DefUseCoverage.Metadata
