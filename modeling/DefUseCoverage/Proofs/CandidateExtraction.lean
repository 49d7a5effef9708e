import Mathlib
import DefUseCoverage.Proofs.MetadataResolution
import DefUseCoverage.Proofs.ResumeFixpoint
/-! # Listing candidates, and turning them into pairs

  A database lists, for each requested type in order, each field the type declares, with every
  method recorded as defining it and every method recorded as using it, whatever types those
  methods belong to. The views merge the lists of the databases they consult, in policy order,
  keeping the first occurrence of each item.

  - Merging keeps first occurrences: `dedup` is the library's `List.eraseDups`
    (`dedup_eq_eraseDups`), and it has no repeats (`nodup_dedup`).
  - In a database as its operations build it (`Db.WF`), a search by name finds exactly the
    recorded entry, so a candidate is listed exactly when a requested type declares its field
    and its two methods are recorded as defining and using it (`Db.WF.mem_candidates_iff`); the
    list has no repeats when the requested types have none (`Db.WF.nodup_candidates`), a
    candidate's field, definition and use telling apart the type, field and method it was listed
    under; and a database that extends another lists all it listed
    (`Db.Extends.mem_candidates`), so no call removes a candidate.
  - Main statement: `candidate_enumeration`.

  Extraction resolves a candidate's field, then its definition, then its use, and compares the
  three types. It is stated here against any lookup, which covers one database and the views
  alike. `Verdict lookup c r` says which answer `r` the three resolutions allow: the pair of the
  one type they share, the first name that does not resolve, or the three types that differ.
  The extractor gives exactly that answer (`extractWith_eq_iff_verdict`), and the extracting
  phase of the loop leaves the views as they are. Main statement: `extraction_verdict`.
-/

namespace DefUseCoverage

/-! ### Merging with first occurrences kept -/

namespace Metadata

section Merge

variable {α : Type} [BEq α] [LawfulBEq α]

omit [LawfulBEq α] in
theorem dedup_append_singleton (xs : List α) (x : α) :
    dedup (xs ++ [x]) = insertNew (dedup xs) x := by
  simp [dedup, extendNew, List.foldl_append]

/-- Merging is the library's deduplication, which keeps the first occurrence of each item. -/
theorem dedup_eq_eraseDups (xs : List α) : dedup xs = xs.eraseDups := by
  induction xs using List.reverseRecOn with
  | nil => rfl
  | append_singleton xs x ih =>
    -- both add the last item at the end exactly when no earlier item is equal to it
    rw [dedup_append_singleton, ih, List.eraseDups_append]
    by_cases hx : x ∈ xs
    · simp [insertNew, hx, List.removeAll]
    · simp [insertNew, hx, List.removeAll, List.eraseDups_cons]

theorem nodup_dedup (xs : List α) : (dedup xs).Nodup := by
  induction xs using List.reverseRecOn with
  | nil => exact List.nodup_nil
  | append_singleton xs x ih =>
    rw [dedup_append_singleton]
    exact nodup_insertNew ih x

end Merge

/-! ### Lists without repeats -/

section Keys

variable {α β γ : Type}

/-- Blocks joined have no repeats when each block has none and a key read off any item names
the block it came from, no two blocks having one key. -/
theorem nodup_flatMap_of_key {l : List α} {f : α → List β} (key : α → γ) (keyOf : β → γ)
    (hl : (l.map key).Nodup) (hf : ∀ a ∈ l, (f a).Nodup)
    (hk : ∀ a ∈ l, ∀ b ∈ f a, keyOf b = key a) : (l.flatMap f).Nodup := by
  rw [List.nodup_flatMap]
  refine ⟨hf, ?_⟩
  have hpw : l.Pairwise fun a a' => key a ≠ key a' := List.pairwise_map.mp hl
  refine (List.Pairwise.and_mem.mp hpw).imp ?_
  rintro a a' ⟨ha, ha', hne⟩
  -- an item of both blocks would carry both keys
  refine List.disjoint_left.mpr fun b hb hb' => hne ?_
  exact (hk a ha b hb).symm.trans (hk a' ha' b hb')

/-- Items made one from each entry have no repeats when a key read off the item is the entry's,
no two entries having one key. -/
theorem nodup_map_of_key {l : List α} {f : α → β} (key : α → γ) (keyOf : β → γ)
    (hl : (l.map key).Nodup) (hk : ∀ a ∈ l, keyOf (f a) = key a) : (l.map f).Nodup := by
  have hkeys : l.map (keyOf ∘ f) = l.map key := List.map_congr_left fun a ha => hk a ha
  refine List.Nodup.of_map keyOf ?_
  rwa [List.map_map, hkeys]

end Keys

/-! ### The candidates of one database -/

namespace Db

/-- In a database as its operations build it, a candidate is listed for some types exactly when
one of them declares its field, its definition is recorded as defining the field and its use as
using it, whatever types the two methods belong to. -/
theorem WF.mem_candidates_iff {db : Db} (h : db.WF) {types : List String} {c : Candidate} :
    c ∈ db.candidates types ↔
      (∃ ty ∈ types, db.fieldType? c.field = some ty) ∧
        (∃ md, db.method? c.defMethod = some md ∧ c.field ∈ md.defines) ∧
        ∃ mu, db.method? c.useMethod = some mu ∧ c.field ∈ mu.uses := by
  simp only [mem_candidates, h.fieldType?_eq_some_iff, h.method?_eq_some_iff]

/-- The candidates of several types are those of each type in turn. -/
theorem candidates_eq_flatMap (db : Db) (types : List String) :
    db.candidates types = types.flatMap fun ty => db.candidates [ty] := by
  simp [candidates]

/-- The candidates of one field: each method defining it with each method using it. -/
def fieldCandidates (db : Db) (field : String) : List Candidate :=
  (db.methods.filter (·.2.defines.contains field)).flatMap fun d =>
    (db.methods.filter (·.2.uses.contains field)).map fun u => ⟨field, d.1, u.1⟩

theorem candidates_singleton (db : Db) (ty : String) :
    db.candidates [ty] = (db.fields.filter (·.2 == ty)).flatMap fun e => db.fieldCandidates e.1 := by
  simp [candidates, fieldCandidates]

theorem field_of_mem_fieldCandidates {db : Db} {field : String} {c : Candidate}
    (hc : c ∈ db.fieldCandidates field) : c.field = field := by
  simp only [fieldCandidates, List.mem_flatMap, List.mem_map] at hc
  obtain ⟨-, -, -, -, rfl⟩ := hc
  rfl

/-- Keys of entries picked from a list whose keys do not repeat do not repeat. -/
theorem nodup_keys_filter {β : Type} {l : List (String × β)} (hl : (l.map (·.1)).Nodup)
    (p : String × β → Bool) : ((l.filter p).map (·.1)).Nodup :=
  hl.sublist (List.filter_sublist.map _)

theorem WF.nodup_fieldCandidates {db : Db} (h : db.WF) (field : String) :
    (db.fieldCandidates field).Nodup := by
  -- the definition tells the blocks apart, and within one the use tells the items apart
  refine nodup_flatMap_of_key (·.1) Candidate.defMethod (nodup_keys_filter h.methods_nodup _)
    (fun _ _ => nodup_map_of_key (·.1) Candidate.useMethod
      (nodup_keys_filter h.methods_nodup _) fun _ _ => rfl) ?_
  intro d _ c hc
  obtain ⟨u, -, rfl⟩ := List.mem_map.mp hc
  rfl

/-- A database as its operations build it lists the candidates of types without repeats with no
repeats: the type a candidate was listed under declares its field, and the field, definition and
use tell the rest apart. -/
theorem WF.nodup_candidates {db : Db} (h : db.WF) {types : List String} (ht : types.Nodup) :
    (db.candidates types).Nodup := by
  have hblock : ∀ ty, (db.candidates [ty]).Nodup := fun ty => by
    rw [candidates_singleton]
    refine nodup_flatMap_of_key (·.1) Candidate.field (nodup_keys_filter h.fields_nodup _)
      (fun e _ => h.nodup_fieldCandidates e.1) fun e _ c hc => field_of_mem_fieldCandidates hc
  rw [candidates_eq_flatMap]
  refine nodup_flatMap_of_key some (fun c => db.fieldType? c.field)
    (ht.map (Option.some_injective _)) (fun ty _ => hblock ty) ?_
  intro ty _ c hc
  -- the type a candidate is listed under is the one its field resolves to
  obtain ⟨⟨ty', hty', hf⟩, -⟩ := h.mem_candidates_iff.mp hc
  rw [List.mem_singleton.mp hty'] at hf
  exact hf

/-- A database that extends another lists every candidate the other lists: fields keep their
types, and methods keep what they define and use. -/
theorem Extends.mem_candidates {db db' : Db} (he : db.Extends db') (h : db.WF) (h' : db'.WF)
    {types : List String} {c : Candidate} (hc : c ∈ db.candidates types) :
    c ∈ db'.candidates types := by
  obtain ⟨⟨ty, hty, hf⟩, ⟨md, hd, hdef⟩, mu, hu, huse⟩ := h.mem_candidates_iff.mp hc
  obtain ⟨md', hd', hdefs, -⟩ := he.sets _ _ hd
  obtain ⟨mu', hu', -, huses⟩ := he.sets _ _ hu
  exact h'.mem_candidates_iff.mpr ⟨⟨ty, hty, he.resolve .field _ _ hf⟩,
    ⟨md', hd', hdefs.subset hdef⟩, mu', hu', huses.subset huse⟩

/-- No history of calls removes a candidate. -/
theorem mem_candidates_applyAll {db : Db} (h : db.WF) (more : List Call) {types : List String}
    {c : Candidate} (hc : c ∈ db.candidates types) : c ∈ (db.applyAll more).candidates types :=
  (extends_applyAll db more).mem_candidates h (kept_wf.applyAll h more) hc

end Db

/-! ### The candidates of the views -/

namespace Views

theorem candidates_eq_eraseDups (v : Views) (types : List String) :
    v.candidates types = (v.ordered.flatMap (·.candidates types)).eraseDups :=
  dedup_eq_eraseDups _

theorem knownTypes_eq_eraseDups (v : Views) :
    v.knownTypes = (v.ordered.flatMap (·.types)).eraseDups :=
  dedup_eq_eraseDups _

/-- Views under one policy list every candidate that views listed before when each of their two
databases does. -/
theorem mem_candidates_of_grow {v v' : Views} (hp : v'.policy = v.policy) {types : List String}
    (hs : ∀ c ∈ v.static.candidates types, c ∈ v'.static.candidates types)
    (hd : ∀ c ∈ v.dynamic.candidates types, c ∈ v'.dynamic.candidates types)
    {c : Candidate} (hc : c ∈ v.candidates types) : c ∈ v'.candidates types := by
  simp only [candidates, mem_dedup, List.mem_flatMap, ordered, hp] at hc ⊢
  obtain ⟨db, hdb, hc⟩ := hc
  -- the database that listed it is consulted, and its counterpart lists it too
  split at hdb
  · obtain rfl := List.mem_singleton.mp hdb
    exact ⟨_, List.mem_singleton_self _, hs c hc⟩
  · obtain rfl := List.mem_singleton.mp hdb
    exact ⟨_, List.mem_singleton_self _, hd c hc⟩
  · rcases List.mem_pair.mp hdb with rfl | rfl
    · exact ⟨_, List.mem_cons_self .., hs c hc⟩
    · exact ⟨_, List.mem_pair.mpr (.inr rfl), hd c hc⟩

end Views

/-- **Candidates are the declared def-use triples, listed once and never removed.** For a
database after any history of calls (declaring fields and methods, recording observed entities,
adding the types of files), and any requested types:
- a candidate is listed exactly when a requested type declares its field, and its definition and
  its use, of whatever types, are recorded as defining and using that field;
- the list has no repeats when the requested types have none;
- for any views, the candidates and the known types are the merges of the consulted databases'
  lists in policy order that keep each item's first occurrence, and have no repeats;
- further calls remove no candidate, from the database or from views of it and another
  database grown from empty, whatever calls either view gets and whatever the policy. -/
theorem candidate_enumeration (calls : List Db.Call) (types : List String) :
    let db := ({} : Db).applyAll calls
    (∀ c, c ∈ db.candidates types ↔
      (∃ ty ∈ types, db.fieldType? c.field = some ty) ∧
        (∃ md, db.method? c.defMethod = some md ∧ c.field ∈ md.defines) ∧
        ∃ mu, db.method? c.useMethod = some mu ∧ c.field ∈ mu.uses) ∧
    (types.Nodup → (db.candidates types).Nodup) ∧
    (∀ v : Views, v.candidates types = (v.ordered.flatMap (·.candidates types)).eraseDups ∧
      (v.candidates types).Nodup ∧ v.knownTypes = (v.ordered.flatMap (·.types)).eraseDups ∧
      v.knownTypes.Nodup) ∧
    (∀ (more : List Db.Call) c, c ∈ db.candidates types → c ∈ (db.applyAll more).candidates types) ∧
    ∀ (other moreStatic moreDynamic : List Db.Call) (policy : Policy) c,
      c ∈ (⟨db, ({} : Db).applyAll other, policy⟩ : Views).candidates types →
      c ∈ (⟨db.applyAll moreStatic, (({} : Db).applyAll other).applyAll moreDynamic, policy⟩ :
        Views).candidates types := by
  intro db
  have hwf : db.WF := Db.kept_wf.applyAll Db.wf_empty calls
  refine ⟨fun c => hwf.mem_candidates_iff, hwf.nodup_candidates, fun v => ?_,
    fun more c hc => Db.mem_candidates_applyAll hwf more hc, ?_⟩
  · exact ⟨v.candidates_eq_eraseDups types, nodup_dedup _, v.knownTypes_eq_eraseDups,
      nodup_dedup _⟩
  · intro other moreStatic moreDynamic policy c hc
    have hother : (({} : Db).applyAll other).WF := Db.kept_wf.applyAll Db.wf_empty other
    refine Views.mem_candidates_of_grow (by rfl) ?_ ?_ hc
    · exact fun c hc => Db.mem_candidates_applyAll hwf moreStatic hc
    · exact fun c hc => Db.mem_candidates_applyAll hother moreDynamic hc

/-- A type `T` declares field `T.F`, which `T.Set` writes and `T.Get` and `U.Peek`, of type `U`,
read: listing `T` and `U` gives the candidate through `T.Get` and the one crossing into `U`, once
each. -/
theorem sample_candidates_listed_once :
    let calls : List Db.Call := [.field "T" "T.F", .method "T" "T.Set" ["T.F"] [],
      .method "T" "T.Get" [] ["T.F"], .method "U" "U.Peek" [] ["T.F"]]
    let db := ({} : Db).applyAll calls
    ["T", "U"].Nodup ∧
      db.candidates ["T", "U"] = [⟨"T.F", "T.Set", "T.Get"⟩, ⟨"T.F", "T.Set", "U.Peek"⟩] ∧
      (db.candidates ["T", "U"]).Nodup := by
  intro calls db
  have htypes : ["T", "U"].Nodup := by decide
  exact ⟨htypes, by decide, (candidate_enumeration calls ["T", "U"]).2.1 htypes⟩

end Metadata

/-- The extracting phase leaves the metadata views as they are. -/
theorem Loop.extractPhase_views {σ : Type} (setup : Loop.Setup) (st : Loop.State σ) :
    (Loop.extractPhase setup st).2.views = st.views := rfl

namespace Metadata

/-! ### Extraction -/

/-- The answer a candidate is owed under a lookup, from what its field, definition and use
resolve to: the pair of the type all three share; else the first name that does not resolve, in
the order field, definition, use; else the three types, which differ. -/
inductive Verdict (lookup : Kind → String → Option String) (c : Candidate) :
    Except Rejection Pair → Prop where
  /-- The three names resolve to one type. -/
  | pair {t : String} (hf : lookup .field c.field = some t)
      (hd : lookup .method c.defMethod = some t) (hu : lookup .method c.useMethod = some t) :
      Verdict lookup c (.ok ⟨t, c.field, c.defMethod, c.useMethod⟩)
  /-- The field does not resolve. -/
  | unknownField (hf : lookup .field c.field = none) :
      Verdict lookup c (.error (.unresolved (.notFound .field c.field)))
  /-- The field resolves, the definition does not. -/
  | unknownDef {tf : String} (hf : lookup .field c.field = some tf)
      (hd : lookup .method c.defMethod = none) :
      Verdict lookup c (.error (.unresolved (.notFound .method c.defMethod)))
  /-- The field and the definition resolve, the use does not. -/
  | unknownUse {tf td : String} (hf : lookup .field c.field = some tf)
      (hd : lookup .method c.defMethod = some td) (hu : lookup .method c.useMethod = none) :
      Verdict lookup c (.error (.unresolved (.notFound .method c.useMethod)))
  /-- The three names resolve, not all to one type. -/
  | mismatch {tf td tu : String} (hf : lookup .field c.field = some tf)
      (hd : lookup .method c.defMethod = some td) (hu : lookup .method c.useMethod = some tu)
      (hne : ¬(tf = td ∧ tf = tu)) :
      Verdict lookup c (.error (.mismatch ⟨tf, td, tu⟩))

section Extraction

variable {lookup : Kind → String → Option String} {c : Candidate}

theorem extractWith_of_field_none (hf : lookup .field c.field = none) :
    extractWith lookup c = .error (.unresolved (.notFound .field c.field)) := by
  simp [extractWith, resolveWith, hf, bind, Except.bind]

theorem extractWith_of_def_none {tf : String} (hf : lookup .field c.field = some tf)
    (hd : lookup .method c.defMethod = none) :
    extractWith lookup c = .error (.unresolved (.notFound .method c.defMethod)) := by
  simp [extractWith, resolveWith, hf, hd, bind, Except.bind]

theorem extractWith_of_use_none {tf td : String} (hf : lookup .field c.field = some tf)
    (hd : lookup .method c.defMethod = some td) (hu : lookup .method c.useMethod = none) :
    extractWith lookup c = .error (.unresolved (.notFound .method c.useMethod)) := by
  simp [extractWith, resolveWith, hf, hd, hu, bind, Except.bind]

variable (lookup c) in
/-- The extractor's answer is one the verdict allows. -/
theorem verdict_extractWith : Verdict lookup c (extractWith lookup c) := by
  -- the names are resolved in order, and the first that fails decides
  cases hf : lookup .field c.field with
  | none => exact (extractWith_of_field_none hf) ▸ .unknownField hf
  | some tf =>
    cases hd : lookup .method c.defMethod with
    | none => exact (extractWith_of_def_none hf hd) ▸ .unknownDef hf hd
    | some td =>
      cases hu : lookup .method c.useMethod with
      | none => exact (extractWith_of_use_none hf hd hu) ▸ .unknownUse hf hd hu
      | some tu =>
        rcases extractWith_of_resolved hf hd hu with ⟨rfl, rfl, h⟩ | ⟨hne, h⟩
        · exact h ▸ .pair hf hd hu
        · exact h ▸ .mismatch hf hd hu hne

/-- An answer the verdict allows is the extractor's. -/
theorem Verdict.extractWith_eq {r : Except Rejection Pair} (h : Verdict lookup c r) :
    extractWith lookup c = r := by
  cases h with
  | pair hf hd hu =>
    rcases extractWith_of_resolved hf hd hu with ⟨-, -, h⟩ | ⟨hne, -⟩
    · exact h
    · exact absurd ⟨rfl, rfl⟩ hne
  | unknownField hf => exact extractWith_of_field_none hf
  | unknownDef hf hd => exact extractWith_of_def_none hf hd
  | unknownUse hf hd hu => exact extractWith_of_use_none hf hd hu
  | mismatch hf hd hu hne =>
    rcases extractWith_of_resolved hf hd hu with ⟨htd, htu, -⟩ | ⟨-, h⟩
    · exact absurd ⟨htd, htu⟩ hne
    · exact h

theorem extractWith_eq_iff_verdict {r : Except Rejection Pair} :
    extractWith lookup c = r ↔ Verdict lookup c r :=
  ⟨fun h => h ▸ verdict_extractWith lookup c, Verdict.extractWith_eq⟩

end Extraction

/-- **Extraction accepts exactly the triples of one type.** Under any lookup, one database's or
the views', and for every candidate:
- the extractor answers what the three resolutions allow: the pair of the one type the field,
  the definition and the use share; otherwise the not-found rejection of the first of them, in
  that order, that does not resolve; otherwise the mismatch of the three resolved types;
- a pair is formed exactly when its names are the candidate's and each resolves to the pair's
  type, so no pair joins members of different types;
- the extracting phase of the loop leaves the metadata views as they are. -/
theorem extraction_verdict :
    (∀ (lookup : Kind → String → Option String) (c : Candidate) (r : Except Rejection Pair),
      extractWith lookup c = r ↔ Verdict lookup c r) ∧
    (∀ (lookup : Kind → String → Option String) (c : Candidate) (p : Pair),
      extractWith lookup c = .ok p ↔ p.toCandidate = c ∧
        lookup .field c.field = some p.declaringType ∧
        lookup .method c.defMethod = some p.declaringType ∧
        lookup .method c.useMethod = some p.declaringType) ∧
    ∀ {σ : Type} (setup : Loop.Setup) (st : Loop.State σ),
      (Loop.extractPhase setup st).2.views = st.views :=
  ⟨fun _ _ _ => extractWith_eq_iff_verdict, fun _ _ _ => extractWith_eq_ok,
    fun setup st => Loop.extractPhase_views setup st⟩

end Metadata

end DefUseCoverage
