import Mathlib.Data.String.Basic
import DefUseCoverage.Coverage.Snapshot
/-! # The coverage store refines per-type contents

  A client sees a store as its *contents*: for each declaring type, the pairs registered for
  it with their status, in registration order, and the bodies recorded for it, in recording
  order. `Store.view` reads the contents off a store; a type without a partition has no pairs
  and no bodies.

  - Every update is a commuting square through the view: `register`, `markCovered` and
    `recordPut` change the contents as `Contents.update` says, and their answers are read off
    the contents before the call (`Contents.accepts`). `register` and `recordPut` need nothing
    of the store; `markCovered` needs its pairs to be distinct.
  - The stores reached from the empty store by any history of updates, restores and resets are
    well formed (`Store.WF`): types sorted without repeats, none without pairs and bodies, pairs
    of their own type each once, bodies each once. On a well-formed store the listings `types`,
    `typesWithUncovered` and `summary` are read off the contents as well.
  - Along a history, the summary of a type counts the updates of that type that succeeded since
    the last reset (`Tally`).

  Main statement: `store_refines_contents`.
-/

namespace DefUseCoverage.Coverage

/-! ### Lookup in a list of entries -/

section Lookup

variable {α β : Type} [DecidableEq α]

/-- `lookup` past an entry with another key. -/
theorem lookup_cons_of_ne {a k : α} (h : a ≠ k) (v : β) (rest : List (α × β)) :
    ((k, v) :: rest).lookup a = rest.lookup a := by
  simp [List.lookup_cons, beq_false_of_ne h]

/-- `lookup` is the value of the first entry with the key. -/
theorem find?_map_snd (a : α) : ∀ l : List (α × β), (l.find? (·.1 == a)).map (·.2) = l.lookup a
  | [] => rfl
  | (k, v) :: rest => by
    by_cases h : a = k
    · subst h; simp [List.lookup_cons_self]
    · rw [lookup_cons_of_ne h, List.find?_cons_of_neg (by simpa using Ne.symm h)]
      exact find?_map_snd a rest

/-- Some entry has the key exactly when `lookup` finds it. -/
theorem any_fst_eq (a : α) : ∀ l : List (α × β), l.any (·.1 == a) = (l.lookup a).isSome
  | [] => rfl
  | (k, v) :: rest => by
    by_cases h : a = k
    · subst h; simp [List.lookup_cons_self]
    · rw [lookup_cons_of_ne h, List.any_cons, beq_false_of_ne (Ne.symm h), Bool.false_or]
      exact any_fst_eq a rest

/-- With each key once, an entry is in the list exactly when `lookup` finds its value. -/
theorem lookup_eq_some_iff : ∀ {l : List (α × β)}, (l.map (·.1)).Nodup →
    ∀ (a : α) (b : β), l.lookup a = some b ↔ (a, b) ∈ l
  | [], _, a, b => by simp
  | (k, v) :: rest, hd, a, b => by
    have hk : k ∉ rest.map (·.1) := (List.nodup_cons.mp hd).1
    have ih := lookup_eq_some_iff (List.nodup_cons.mp hd).2 a b
    by_cases h : a = k
    · subst h
      have hnot : (a, b) ∉ rest := fun hm => hk (List.mem_map.mpr ⟨(a, b), hm, rfl⟩)
      simp [List.lookup_cons_self, hnot, eq_comm]
    · rw [lookup_cons_of_ne h, ih]
      simp [h]

end Lookup

/-! ### Contents: the store as its clients see it -/

/-- The contents of a store: for each type, its pairs with their status in registration order,
and its bodies in recording order. -/
abbrev Contents := String → Partition

/-- A call that changes at most one pair or one body of the store. -/
inductive Update where
  /-- Register a pair as uncovered. -/
  | register (p : Pair)
  /-- Mark a registered pair covered. -/
  | markCovered (p : Pair)
  /-- Record a body for a type. -/
  | recordPut (ty body : String)
deriving DecidableEq, Repr

namespace Update

/-- The type whose contents the update is about. -/
def type : Update → String
  | .register p | .markCovered p => p.declaringType
  | .recordPut ty _ => ty

/-- What an accepted update does to the contents of its type: a new pair is appended as
uncovered, a marked pair becomes covered in its place, a new body is appended. -/
def change : Update → Partition → Partition
  | .register p, part => { part with pairs := part.pairs ++ [(p, .uncovered)] }
  | .markCovered p, part =>
    { part with pairs := part.pairs.map fun e => if e.1 = p then (p, .covered) else e }
  | .recordPut _ body, part => { part with puts := part.puts ++ [body] }

/-- Whether the update is a mark: the one update that can cover a pair. -/
def isMark : Update → Bool
  | .markCovered _ => true
  | _ => false

end Update

namespace Contents

/-- The status of a pair: the one it was registered with, if it was. -/
def statusOf (c : Contents) (p : Pair) : Option Status := (c p.declaringType).pairs.lookup p

/-- Whether an update changes the contents: a pair not registered yet, a pair registered as
uncovered, a body not recorded yet for its type. -/
def accepts (c : Contents) : Update → Bool
  | .register p => (c.statusOf p).isNone
  | .markCovered p => c.statusOf p == some .uncovered
  | .recordPut ty body => !(c ty).puts.contains body

/-- The contents after an update: an accepted one changes its type's contents and nothing
else; a refused one changes nothing. -/
def update (c : Contents) (u : Update) : Contents :=
  if c.accepts u then Function.update c u.type (u.change (c u.type)) else c

/-- The uncovered pairs of a type, in registration order. -/
def uncovered (c : Contents) (ty : String) : List Pair :=
  ((c ty).pairs.filter (·.2 = .uncovered)).map (·.1)

end Contents

/-! ### The view of a store -/

namespace Store

/-- The contents of a type: its partition, or nothing when it has none. -/
def view (s : Store) : Contents := fun ty => (s.partition? ty).getD {}

/-- Inserting a type that is not there finds it, and finds every other type where it was. -/
theorem find?_insertSorted (ty ty' : String) (p : Partition) :
    ∀ l : List (String × Partition), ty ∉ l.map (·.1) →
      (insertSorted ty p l).find? (·.1 == ty') =
        if ty' = ty then some (ty, p) else l.find? (·.1 == ty')
  | [], _ => by
    by_cases h : ty' = ty
    · subst h; simp [insertSorted]
    · simp [insertSorted, h, Ne.symm h]
  | (k, q) :: rest, hty => by
    have hk : (k == ty) = false := by
      simpa using fun h : k = ty => hty (by simp [h])
    have hrest : ty ∉ rest.map (·.1) := fun h => hty (List.mem_cons_of_mem _ h)
    unfold insertSorted
    split
    · by_cases h : ty' = ty
      · subst h; simp
      · simp [h, Ne.symm h]
    · rw [List.find?_cons, List.find?_cons, find?_insertSorted ty ty' p rest hrest]
      by_cases h : ty' = ty
      · subst h; simp [hk]
      · simp [h]

/-- The keys after an insertion: the new one and the old ones. -/
theorem mem_insertSorted_keys (ty t : String) (p : Partition) :
    ∀ l : List (String × Partition), t ∈ (insertSorted ty p l).map (·.1) ↔ t = ty ∨ t ∈ l.map (·.1)
  | [] => by simp [insertSorted]
  | (k, q) :: rest => by
    unfold insertSorted
    split
    · simp
    · simp only [List.map_cons, List.mem_cons, mem_insertSorted_keys ty t p rest]
      tauto

/-- Replacing the partition of a type that is there finds the new one for that type, and the
old ones elsewhere. -/
theorem find?_replace (ty ty' : String) (p : Partition) :
    ∀ l : List (String × Partition),
      (l.map fun e => if e.1 == ty then (ty, p) else e).find? (·.1 == ty') =
        if ty' = ty then (if l.any (·.1 == ty) then some (ty, p) else none)
        else l.find? (·.1 == ty')
  | [] => by simp
  | e :: rest => by
    by_cases he : e.1 = ty
    · -- the entry of `ty` itself becomes `(ty, p)`
      have hmap : (if e.1 == ty then (ty, p) else e) = (ty, p) := by simp [he]
      rw [List.map_cons, hmap]
      by_cases h : ty' = ty
      · subst h; simp [he]
      · rw [List.find?_cons_of_neg (by simpa using Ne.symm h), find?_replace ty ty' p rest,
          List.find?_cons_of_neg (by simpa [he] using Ne.symm h)]
        simp [h]
    · have hmap : (if e.1 == ty then (ty, p) else e) = e := by simp [he]
      rw [List.map_cons, hmap]
      by_cases h' : e.1 = ty'
      · have h : ty' ≠ ty := fun h => he (h' ▸ h)
        rw [List.find?_cons_of_pos (by simpa using h'), List.find?_cons_of_pos (by simpa using h')]
        simp [h]
      · rw [List.find?_cons_of_neg (by simpa using h'), List.find?_cons_of_neg (by simpa using h'),
          find?_replace ty ty' p rest]
        by_cases h : ty' = ty
        · subst h
          have hbe : (e.1 == ty') = false := by simpa using he
          rw [List.any_cons, hbe, Bool.false_or]
        · simp [h]

/-- Replacing or adding a partition changes the partition of that type only. -/
theorem partition?_setPartition (s : Store) (ty ty' : String) (p : Partition) :
    (s.setPartition ty p).partition? ty' = if ty' = ty then some p else s.partition? ty' := by
  unfold setPartition partition?
  split
  · next hany =>
    rw [find?_replace]
    by_cases h : ty' = ty <;> simp [h, hany]
  · next hany =>
    have hnot : ty ∉ s.partitions.map (·.1) := by simpa using hany
    rw [find?_insertSorted ty ty' p _ hnot]
    by_cases h : ty' = ty <;> simp [h]

/-- The view after replacing or adding a partition. -/
@[simp] theorem view_setPartition (s : Store) (ty : String) (p : Partition) :
    (s.setPartition ty p).view = Function.update s.view ty p := by
  funext ty'
  by_cases h : ty' = ty
  · subst h; simp [view, partition?_setPartition]
  · simp [view, partition?_setPartition, h]

/-- The types of a store after replacing or adding a partition. -/
theorem mem_types_setPartition (s : Store) (ty t : String) (p : Partition) :
    t ∈ (s.setPartition ty p).types ↔ t = ty ∨ t ∈ s.types := by
  unfold setPartition types
  split
  · next hany =>
    obtain ⟨e, he, hkey⟩ := List.any_eq_true.mp hany
    simp only [List.map_map]
    constructor
    · intro ht
      obtain ⟨e', he', rfl⟩ := List.mem_map.mp ht
      by_cases h : e'.1 = ty
      · simp [Function.comp, h]
      · exact .inr (List.mem_map.mpr ⟨e', he', by simp [h]⟩)
    · rintro (rfl | ht)
      · exact List.mem_map.mpr ⟨e, he, by simp_all⟩
      · obtain ⟨e', he', rfl⟩ := List.mem_map.mp ht
        by_cases h : e'.1 = ty
        · exact List.mem_map.mpr ⟨e', he', by simp [h]⟩
        · exact List.mem_map.mpr ⟨e', he', by simp [h]⟩
  · exact mem_insertSorted_keys ty t p s.partitions

end Store

/-- Runs an update on a store: whether it changed the store, and the store after. -/
def Store.run (s : Store) : Update → Bool × Store
  | .register p => s.register p
  | .markCovered p => s.markCovered p
  | .recordPut ty body => s.recordPut ty body

/-! ### Each update is a square through the view -/

namespace Store

/-- The status of a pair is read off the contents. -/
theorem statusOf_eq_view (s : Store) (p : Pair) : s.statusOf p = s.view.statusOf p := by
  unfold statusOf Contents.statusOf view
  cases s.partition? p.declaringType with
  | none => rfl
  | some part => exact find?_map_snd p part.pairs

/-- Whether a body is recorded is read off the contents. -/
theorem hasPut_eq_view (s : Store) (ty body : String) :
    s.hasPut ty body = (s.view ty).puts.contains body := by
  unfold hasPut view
  cases s.partition? ty <;> rfl

/-- The uncovered pairs of a type are read off the contents. -/
theorem uncovered_eq_view (s : Store) (ty : String) : s.uncovered ty = s.view.uncovered ty := by
  unfold uncovered Contents.uncovered view
  cases s.partition? ty <;> rfl

/-- The bodies of a type are read off the contents. -/
theorem putsFor_eq_view (s : Store) (ty : String) : s.putsFor ty = (s.view ty).puts := by
  unfold putsFor view
  cases s.partition? ty <;> rfl

/-- `register` answers whether the pair was unregistered, and then appends it as uncovered. -/
theorem run_register (s : Store) (p : Pair) :
    (s.run (.register p)).1 = s.view.accepts (.register p) ∧
      (s.run (.register p)).2.view = s.view.update (.register p) := by
  have hpart : (s.partition? p.declaringType).getD {} = s.view p.declaringType := rfl
  have hany : (s.view p.declaringType).pairs.any (·.1 == p) =
      !s.view.accepts (.register p) := by
    simp [Contents.accepts, Contents.statusOf, any_fst_eq]
  simp only [run, register, hpart, hany, Contents.update]
  cases s.view.accepts (.register p) <;> simp [Update.type, Update.change]

/-- `recordPut` answers whether the body was unrecorded, and then appends it. -/
theorem run_recordPut (s : Store) (ty body : String) :
    (s.run (.recordPut ty body)).1 = s.view.accepts (.recordPut ty body) ∧
      (s.run (.recordPut ty body)).2.view = s.view.update (.recordPut ty body) := by
  have hpart : (s.partition? ty).getD {} = s.view ty := rfl
  simp only [run, recordPut, hpart, Contents.update, Contents.accepts]
  by_cases h : body ∈ (s.view ty).puts <;> simp [h, Update.type, Update.change]

/-- `markCovered` answers whether the pair is there as uncovered, and then covers it in its
place; this holds of every store. -/
theorem markCovered_view (s : Store) (p : Pair) :
    (s.markCovered p).1 = decide ((p, Status.uncovered) ∈ (s.view p.declaringType).pairs) ∧
      (s.markCovered p).2.view =
        if (p, Status.uncovered) ∈ (s.view p.declaringType).pairs then
          Function.update s.view p.declaringType
            ((Update.markCovered p).change (s.view p.declaringType))
        else s.view := by
  cases hpart : s.partition? p.declaringType with
  | none =>
    have hv : s.view p.declaringType = {} := by simp [view, hpart]
    simp [markCovered, hpart, hv]
  | some part =>
    have hv : s.view p.declaringType = part := by simp [view, hpart]
    by_cases hm : (p, Status.uncovered) ∈ part.pairs
    · simp [markCovered, hpart, hv, hm, Update.change]
    · simp [markCovered, hpart, hv, hm]

/-- `markCovered` answers whether the pair was registered as uncovered, and then covers it in
its place; with the type's pairs each once, both are read off the contents. -/
theorem run_markCovered (s : Store) (p : Pair)
    (hd : ((s.view p.declaringType).pairs.map (·.1)).Nodup) :
    (s.run (.markCovered p)).1 = s.view.accepts (.markCovered p) ∧
      (s.run (.markCovered p)).2.view = s.view.update (.markCovered p) := by
  have hlookup := lookup_eq_some_iff hd p .uncovered
  obtain ⟨hanswer, hview⟩ := markCovered_view s p
  by_cases hm : (p, Status.uncovered) ∈ (s.view p.declaringType).pairs
  · simp [run, hanswer, hview, hm, Contents.update, Contents.accepts, Contents.statusOf,
      hlookup.mpr hm, Update.type]
  · have hne : (s.view p.declaringType).pairs.lookup p ≠ some .uncovered :=
      fun h => hm (hlookup.mp h)
    simp [run, hanswer, hview, hm, Contents.update, Contents.accepts, Contents.statusOf, hne]

end Store

/-! ### What updates keep

  Whatever the store, an update changes at most the contents of its type, and those by its
  change (`run_view_cases`). No change forgets a body or uncovers a pair, so no update does;
  registers and records leave the coverage of every pair as it was: only a mark covers. -/

namespace Store

/-- Covering a pair in place covers its entry and leaves every other pair's. -/
theorem lookup_cover (p q : Pair) : ∀ l : List (Pair × Status),
    (l.map fun e => if e.1 = p then (p, Status.covered) else e).lookup q =
      if q = p then (l.lookup q).map fun _ => .covered else l.lookup q
  | [] => by simp
  | (k, v) :: rest => by
    have ih := lookup_cover p q rest
    by_cases hk : k = p
    · subst hk
      by_cases hq : q = k
      · subst hq; simp [List.lookup_cons_self]
      · have hhead : (if (k, v).1 = k then (k, Status.covered) else (k, v)) = (k, .covered) :=
          if_pos rfl
        rw [List.map_cons, hhead, lookup_cons_of_ne hq, lookup_cons_of_ne hq, ih]
    · simp only [List.map_cons, if_neg hk]
      by_cases hq : q = k
      · subst hq; simp [List.lookup_cons_self, hk]
      · rw [lookup_cons_of_ne hq, lookup_cons_of_ne hq, ih]

/-- Appending an entry leaves `lookup` of the keys already there. -/
theorem lookup_append_single (k q : Pair) (v : Status) : ∀ l : List (Pair × Status),
    (l ++ [(k, v)]).lookup q = (l.lookup q).or (if q = k then some v else none)
  | [] => by
    by_cases hq : q = k
    · subst hq; simp [List.lookup_cons_self]
    · simp [List.lookup_cons, hq, beq_false_of_ne hq]
  | (k', v') :: rest => by
    by_cases hq : q = k'
    · subst hq; simp [List.lookup_cons_self]
    · rw [List.cons_append, lookup_cons_of_ne hq, lookup_cons_of_ne hq,
        lookup_append_single k q v rest]

/-- An update changes at most the contents of its type, and those by its change; this holds
of every store. -/
theorem run_view_cases (s : Store) (u : Update) :
    (s.run u).2.view = s.view ∨
      (s.run u).2.view = Function.update s.view u.type (u.change (s.view u.type)) := by
  cases u with
  | register p =>
    rw [(run_register s p).2, Contents.update]
    split
    · exact .inr rfl
    · exact .inl rfl
  | markCovered p =>
    rw [run, (markCovered_view s p).2]
    split
    · exact .inr rfl
    · exact .inl rfl
  | recordPut ty body =>
    rw [(run_recordPut s ty body).2, Contents.update]
    split
    · exact .inr rfl
    · exact .inl rfl

end Store

namespace Update

/-- A change keeps every body of the partition. -/
theorem mem_change_puts (u : Update) {part : Partition} {body : String}
    (h : body ∈ part.puts) : body ∈ (u.change part).puts := by
  cases u <;> simp [change, h]

/-- A change keeps every covered pair covered. -/
theorem lookup_change_covered (u : Update) {part : Partition} {q : Pair}
    (h : part.pairs.lookup q = some .covered) : (u.change part).pairs.lookup q = some .covered := by
  cases u with
  | register p => simp [change, Store.lookup_append_single, h]
  | markCovered p =>
    rw [change, Store.lookup_cover]
    split <;> simp [h]
  | recordPut ty body => simpa [change] using h

/-- A change that is no mark leaves whether a pair is covered as it was: a newly registered
pair is uncovered. -/
theorem lookup_change_covered_iff (u : Update) (hu : u.isMark = false) (part : Partition)
    (q : Pair) :
    (u.change part).pairs.lookup q = some .covered ↔ part.pairs.lookup q = some .covered := by
  cases u with
  | register p =>
    simp only [change]
    rw [Store.lookup_append_single]
    cases part.pairs.lookup q <;> by_cases hq : q = p <;> simp [hq]
  | markCovered p => simp [isMark] at hu
  | recordPut ty body => simp [change]

end Update

namespace Store

/-- No update forgets a body. -/
theorem hasPut_run {s : Store} {ty body : String} (h : s.hasPut ty body = true) (u : Update) :
    (s.run u).2.hasPut ty body = true := by
  rw [hasPut_eq_view] at h ⊢
  rcases run_view_cases s u with hv | hv
  · rw [hv]
    exact h
  · rw [hv]
    by_cases hty : ty = u.type
    · subst hty
      simpa using u.mem_change_puts (List.contains_iff_mem.mp h)
    · simpa [Function.update_of_ne hty] using h

/-- A recorded body is recorded for its type. -/
theorem hasPut_recordPut_self (s : Store) (ty body : String) :
    (s.recordPut ty body).2.hasPut ty body = true := by
  have hview := (run_recordPut s ty body).2
  simp only [run] at hview
  rw [hasPut_eq_view, hview]
  unfold Contents.update
  split
  · simp [Update.type, Update.change]
  · next hacc => simpa [Contents.accepts] using hacc

/-- A covered pair stays covered. -/
theorem statusOf_run_covered {s : Store} {q : Pair} (h : s.statusOf q = some .covered)
    (u : Update) : (s.run u).2.statusOf q = some .covered := by
  rw [statusOf_eq_view] at h ⊢
  rcases run_view_cases s u with hv | hv
  · rw [hv]
    exact h
  · rw [hv]
    by_cases hty : q.declaringType = u.type
    · simp only [Contents.statusOf, hty, Function.update_self] at h ⊢
      exact u.lookup_change_covered h
    · simpa [Contents.statusOf, Function.update_of_ne hty] using h

/-- Registers and records leave whether a pair is covered as it was: only a mark covers. -/
theorem statusOf_run_covered_iff (s : Store) (q : Pair) (u : Update) (hu : u.isMark = false) :
    (s.run u).2.statusOf q = some .covered ↔ s.statusOf q = some .covered := by
  rw [statusOf_eq_view, statusOf_eq_view]
  rcases run_view_cases s u with hv | hv
  · rw [hv]
  · rw [hv]
    by_cases hty : q.declaringType = u.type
    · simp only [Contents.statusOf, hty, Function.update_self]
      exact u.lookup_change_covered_iff hu _ q
    · simp [Contents.statusOf, Function.update_of_ne hty]

end Store

/-! ### Well-formed stores -/

namespace Store

/-- A well-formed store: types sorted without repeats, each with a pair or a body; for each type,
pairs of that type each once and bodies each once. -/
structure WF (s : Store) : Prop where
  /-- Types are sorted, hence without repeats. -/
  sorted : s.types.Pairwise (· < ·)
  /-- A known type has a pair or a body. -/
  occupied : ∀ ty ∈ s.types, (s.view ty).pairs ≠ [] ∨ (s.view ty).puts ≠ []
  /-- A type's pairs are each there once. -/
  pairs_nodup : ∀ ty, ((s.view ty).pairs.map (·.1)).Nodup
  /-- A type's pairs are of that type. -/
  pairs_typed : ∀ ty, ∀ e ∈ (s.view ty).pairs, e.1.declaringType = ty
  /-- A type's bodies are each there once. -/
  puts_nodup : ∀ ty, (s.view ty).puts.Nodup

/-- The empty store is well formed. -/
theorem wf_empty : (({} : Store)).WF where
  sorted := by simp [types]
  occupied := by simp [types]
  pairs_nodup := by simp [view, partition?]
  pairs_typed := by simp [view, partition?]
  puts_nodup := by simp [view, partition?]

/-- Inserting a type that is not there keeps the types sorted. -/
theorem insertSorted_sorted (ty : String) (p : Partition) :
    ∀ l : List (String × Partition), ty ∉ l.map (·.1) → (l.map (·.1)).Pairwise (· < ·) →
      ((insertSorted ty p l).map (·.1)).Pairwise (· < ·)
  | [], _, _ => by simp [insertSorted]
  | (k, q) :: rest, hty, hs => by
    have hk : ty ≠ k := fun h => hty (by simp [h])
    have hrest : ty ∉ rest.map (·.1) := fun h => hty (List.mem_cons_of_mem _ h)
    have hp := List.pairwise_cons.mp hs
    unfold insertSorted
    split
    · next hlt =>
      refine List.pairwise_cons.mpr ⟨?_, hs⟩
      intro other hother
      rcases List.mem_cons.mp hother with rfl | hr
      · exact hlt
      · exact lt_trans hlt (hp.1 other hr)
    · next hnot =>
      have hkt : k < ty := lt_of_le_of_ne (not_lt.mp hnot) (Ne.symm hk)
      refine List.pairwise_cons.mpr ⟨?_, insertSorted_sorted ty p rest hrest hp.2⟩
      intro other hother
      rcases (mem_insertSorted_keys ty other p rest).mp hother with rfl | hr
      · exact hkt
      · exact hp.1 other hr

/-- Replacing or adding a partition keeps the types sorted. -/
theorem sorted_setPartition {s : Store} (hs : s.types.Pairwise (· < ·)) (ty : String)
    (p : Partition) : (s.setPartition ty p).types.Pairwise (· < ·) := by
  unfold setPartition types at *
  split
  · -- replacing keeps every key in its place
    have hkeys : (s.partitions.map fun e => if e.1 == ty then (ty, p) else e).map (·.1) =
        s.partitions.map (·.1) := by
      rw [List.map_map]
      refine List.map_congr_left fun e _ => ?_
      by_cases h : e.1 = ty <;> simp [h]
    rw [hkeys]
    exact hs
  · next hany =>
    exact insertSorted_sorted ty p _ (by simpa using hany) hs

/-- Replacing or adding the partition of a type keeps a store well formed when the new
partition has a pair or a body, its pairs are of that type and each once, and its bodies each
once. -/
theorem WF.setPartition {s : Store} (hs : s.WF) (ty : String) {part : Partition}
    (hocc : part.pairs ≠ [] ∨ part.puts ≠ []) (hnd : (part.pairs.map (·.1)).Nodup)
    (htyped : ∀ e ∈ part.pairs, e.1.declaringType = ty) (hputs : part.puts.Nodup) :
    (s.setPartition ty part).WF where
  sorted := sorted_setPartition hs.sorted ty part
  occupied := by
    intro t ht
    rcases (mem_types_setPartition s ty t part).mp ht with rfl | ht
    · simpa using hocc
    · by_cases h : t = ty
      · subst h; simpa using hocc
      · simpa [h] using hs.occupied t ht
  pairs_nodup := by
    intro t
    by_cases h : t = ty
    · subst h; simpa using hnd
    · simpa [h] using hs.pairs_nodup t
  pairs_typed := by
    intro t
    by_cases h : t = ty
    · subst h; simpa using htyped
    · simpa [h] using hs.pairs_typed t
  puts_nodup := by
    intro t
    by_cases h : t = ty
    · subst h; simpa using hputs
    · simpa [h] using hs.puts_nodup t

/-- Covering a pair in place keeps every key where it was. -/
theorem keys_cover (p : Pair) (l : List (Pair × Status)) :
    (l.map fun e => if e.1 = p then (p, Status.covered) else e).map (·.1) = l.map (·.1) := by
  rw [List.map_map]
  refine List.map_congr_left fun e _ => ?_
  by_cases h : e.1 = p <;> simp [h]

/-- An update keeps a well-formed store well formed. -/
theorem WF.run {s : Store} (hs : s.WF) : ∀ u : Update, (s.run u).2.WF
  | .register p => by
    have hv : (s.partition? p.declaringType).getD {} = s.view p.declaringType := rfl
    simp only [Store.run, register, hv]
    split
    · next hany =>
      -- the pair is there: the partition is put back as it was
      have hne : (s.view p.declaringType).pairs ≠ [] := by
        intro h; simp [h] at hany
      exact hs.setPartition _ (.inl hne) (hs.pairs_nodup _) (hs.pairs_typed _) (hs.puts_nodup _)
    · next hany =>
      have hnot : p ∉ (s.view p.declaringType).pairs.map (·.1) := by simpa using hany
      refine hs.setPartition _ (.inl (by simp)) ?_ ?_ (hs.puts_nodup _)
      · rw [List.map_append, List.nodup_append]
        refine ⟨hs.pairs_nodup _, by simp, ?_⟩
        intro a ha b hb
        simp only [List.map_cons, List.map_nil, List.mem_singleton] at hb
        subst hb
        exact fun h => hnot (h ▸ ha)
      · intro e he
        rcases List.mem_append.mp he with he | he
        · exact hs.pairs_typed _ e he
        · simp at he; simp [he]
  | .markCovered p => by
    simp only [Store.run, markCovered]
    cases hpart : s.partition? p.declaringType with
    | none => exact hs
    | some part =>
      have hv : s.view p.declaringType = part := by simp [view, hpart]
      simp only
      split
      · next hany =>
        have hne : part.pairs ≠ [] := by intro h; simp [h] at hany
        have hmap : (part.pairs.map fun e => if (e.1 == p) = true then (p, Status.covered) else e) =
            part.pairs.map fun e => if e.1 = p then (p, Status.covered) else e := by
          simp
        refine hs.setPartition _ (.inl (by simpa [hmap] using hne)) ?_ ?_ ?_
        · rw [hmap, keys_cover]
          simpa [hv] using hs.pairs_nodup p.declaringType
        · intro e he
          rw [hmap] at he
          obtain ⟨e', he', rfl⟩ := List.mem_map.mp he
          by_cases h : e'.1 = p
          · simp [h]
          · simpa [h, hv] using hs.pairs_typed p.declaringType e' (by simpa [hv] using he')
        · simpa [hv] using hs.puts_nodup p.declaringType
      · exact hs
  | .recordPut ty body => by
    have hv : (s.partition? ty).getD {} = s.view ty := rfl
    simp only [Store.run, recordPut, hv]
    split
    · next hmem =>
      have hne : (s.view ty).puts ≠ [] := by intro h; simp [h] at hmem
      exact hs.setPartition _ (.inr hne) (hs.pairs_nodup _) (hs.pairs_typed _) (hs.puts_nodup _)
    · next hmem =>
      refine hs.setPartition _ (.inr (by simp)) (hs.pairs_nodup _) (hs.pairs_typed _) ?_
      rw [List.nodup_append]
      refine ⟨hs.puts_nodup _, by simp, ?_⟩
      intro a ha b hb
      simp only [List.mem_singleton] at hb
      subst hb
      exact fun h => hmem (by simpa [h] using ha)

/-- On a well-formed store every update is a square through the view: its answer and the
contents after are those `Contents.accepts` and `Contents.update` give. -/
theorem WF.run_view {s : Store} (hs : s.WF) :
    ∀ u : Update, (s.run u).1 = s.view.accepts u ∧ (s.run u).2.view = s.view.update u
  | .register p => run_register s p
  | .markCovered p => run_markCovered s p (hs.pairs_nodup _)
  | .recordPut ty body => run_recordPut s ty body

end Store

/-! ### Listings of a well-formed store

  The listings walk the partitions in their sorted order. With each type there once, the
  partition a listing meets for a type is that type's view, so every listing is read off the
  contents. -/

namespace Store

/-- With each key once, looking up a member's key finds that member. -/
theorem find?_key : ∀ {l : List (String × Partition)}, (l.map (·.1)).Nodup →
    ∀ {e : String × Partition}, e ∈ l → l.find? (·.1 == e.1) = some e
  | [], _, _, he => by simp at he
  | k :: rest, hd, e, he => by
    have hk : k.1 ∉ rest.map (·.1) := (List.nodup_cons.mp hd).1
    rcases List.mem_cons.mp he with rfl | hrest
    · simp
    · have hne : k.1 ≠ e.1 := fun h => hk (h ▸ List.mem_map_of_mem hrest)
      rw [List.find?_cons_of_neg (by simpa using hne)]
      exact find?_key (List.nodup_cons.mp hd).2 hrest

/-- In a well-formed store, a partition of the list is the view of its type. -/
theorem WF.view_of_mem {s : Store} (hs : s.WF) {e : String × Partition}
    (he : e ∈ s.partitions) : s.view e.1 = e.2 := by
  have hd : (s.partitions.map (·.1)).Nodup := hs.sorted.imp ne_of_lt
  simp [view, partition?, find?_key hd he]

/-- In a well-formed store, a type is known exactly when it has a pair or a body. -/
theorem WF.mem_types {s : Store} (hs : s.WF) (ty : String) :
    ty ∈ s.types ↔ (s.view ty).pairs ≠ [] ∨ (s.view ty).puts ≠ [] := by
  refine ⟨hs.occupied ty, fun hocc => ?_⟩
  by_contra hty
  have hnone : s.partition? ty = none := by
    have : ∀ e ∈ s.partitions, ¬(e.1 == ty) = true := by
      intro e he h
      exact hty (List.mem_map.mpr ⟨e, he, by simpa using h⟩)
    simp [partition?, List.find?_eq_none.mpr this]
  simp [view, hnone] at hocc

/-- In a well-formed store, the types with an uncovered pair are the known types whose
contents have one. -/
theorem WF.typesWithUncovered_eq {s : Store} (hs : s.WF) :
    s.typesWithUncovered = s.types.filter fun ty => (s.view ty).pairs.any (·.2 == .uncovered) := by
  unfold typesWithUncovered types
  rw [List.filter_map]
  congr 1
  refine List.filter_congr fun e he => ?_
  simp [hs.view_of_mem he]

/-- In a well-formed store, the types with an uncovered pair are sorted. -/
theorem WF.typesWithUncovered_sorted {s : Store} (hs : s.WF) :
    s.typesWithUncovered.Pairwise (· < ·) := by
  rw [hs.typesWithUncovered_eq]
  exact hs.sorted.sublist List.filter_sublist

/-- In a well-formed store, a type is listed with an uncovered pair exactly when its contents
have one. -/
theorem WF.mem_typesWithUncovered {s : Store} (hs : s.WF) (ty : String) :
    ty ∈ s.typesWithUncovered ↔ ∃ p, (p, Status.uncovered) ∈ (s.view ty).pairs := by
  rw [hs.typesWithUncovered_eq, List.mem_filter, hs.mem_types]
  constructor
  · rintro ⟨-, hany⟩
    obtain ⟨⟨p, st⟩, he, hunc⟩ := List.any_eq_true.mp hany
    have hst : st = .uncovered := by simpa using hunc
    exact ⟨p, hst ▸ he⟩
  · rintro ⟨p, hp⟩
    refine ⟨.inl (List.ne_nil_of_mem hp), List.any_eq_true.mpr ⟨_, hp, by simp⟩⟩

/-- In a well-formed store, the summary lists the known types with the counts of their
contents. -/
theorem WF.summary_eq {s : Store} (hs : s.WF) :
    s.summary = s.types.map fun ty =>
      ⟨ty, (s.view ty).pairs.length, ((s.view ty).pairs.filter (·.2 == .covered)).length,
        (s.view ty).puts.length⟩ := by
  unfold summary types
  rw [List.map_map]
  refine List.map_congr_left fun e he => ?_
  simp [hs.view_of_mem he]

end Store

/-! ### Restores replay updates -/

/-- The updates restoring a pair entry replays: register the pair, then mark it when the entry is
covered. -/
def PairSnapshot.updates (ty : String) (e : PairSnapshot) : List Update :=
  let p : Pair := ⟨ty, e.field, e.defMethod, e.useMethod⟩
  .register p :: if e.covered then [.markCovered p] else []

/-- The updates restoring a type replays: its pairs, then its bodies. -/
def TypeSnapshot.updates (t : TypeSnapshot) : List Update :=
  t.pairs.flatMap (PairSnapshot.updates t.declaringType) ++ t.puts.map (.recordPut t.declaringType)

/-- The updates a restore replays, type after type. -/
def Snapshot.updates (snap : Snapshot) : List Update := snap.types.flatMap TypeSnapshot.updates

namespace Store

/-- The store after updates in order. -/
def runAll (s : Store) (us : List Update) : Store := us.foldl (fun s u => (s.run u).2) s

@[simp] theorem runAll_nil (s : Store) : s.runAll [] = s := rfl

@[simp] theorem runAll_append (s : Store) (us vs : List Update) :
    s.runAll (us ++ vs) = (s.runAll us).runAll vs := List.foldl_append

/-- Restoring pair entries replays their updates; the count does not steer the store. -/
theorem foldl_restorePair (ty : String) :
    ∀ (l : List PairSnapshot) (n : Nat) (s : Store),
      (l.foldl (restorePair ty) (n, s)).2 = s.runAll (l.flatMap (PairSnapshot.updates ty))
  | [], _, _ => rfl
  | e :: rest, n, s => by
    rw [List.foldl_cons, List.flatMap_cons, runAll_append]
    have hstep : (restorePair ty (n, s) e).2 = s.runAll (e.updates ty) := by
      unfold restorePair PairSnapshot.updates
      cases e.covered <;> simp [runAll, run]
    rw [← hstep, ← foldl_restorePair ty rest]

/-- Restoring a type replays its updates. -/
theorem restoreType_snd (n : Nat) (s : Store) (t : TypeSnapshot) :
    (restoreType (n, s) t).2 = s.runAll t.updates := by
  have hputs : ∀ (s' : Store) (bs : List String),
      bs.foldl (fun s b => (s.recordPut t.declaringType b).2) s' =
        s'.runAll (bs.map (.recordPut t.declaringType)) := by
    intro s' bs
    induction bs generalizing s' with
    | nil => rfl
    | cons b rest ih => exact ih _
  show (t.puts.foldl _ (t.pairs.foldl (restorePair t.declaringType) (n, s)).2) = _
  rw [hputs, foldl_restorePair, TypeSnapshot.updates, runAll_append]

/-- A restore replays the updates of its snapshot, in order. -/
theorem restore_snd (s : Store) (snap : Snapshot) : (s.restore snap).2 = s.runAll snap.updates := by
  unfold restore Snapshot.updates
  generalize 0 = n
  induction snap.types generalizing n s with
  | nil => rfl
  | cons t rest ih =>
    rw [List.foldl_cons, List.flatMap_cons, runAll_append, ← restoreType_snd n s t, ← ih]

/-- Updates in order keep a store well formed, and change its contents as the abstract updates
do. -/
theorem WF.runAll {s : Store} (hs : s.WF) :
    ∀ us : List Update, (s.runAll us).WF ∧ (s.runAll us).view = us.foldl Contents.update s.view
  | [] => ⟨hs, rfl⟩
  | u :: us => by
    have h := (hs.run u).runAll us
    rw [(hs.run_view u).2] at h
    exact h

end Store

/-! ### Histories of calls -/

/-- A call that changes the store: an update, the restore of a snapshot, or a reset that drops
everything. -/
inductive Call where
  /-- A register, mark or record. -/
  | update (u : Update)
  /-- A snapshot applied through updates. -/
  | restore (snap : Snapshot)
  /-- Every pair, status and body dropped. -/
  | reset

namespace Store

/-- The store after a call. -/
def apply (s : Store) : Call → Store
  | .update u => (s.run u).2
  | .restore snap => (s.restore snap).2
  | .reset => {}

/-- The store after a history of calls from the empty store. -/
def replay (calls : List Call) : Store := calls.foldl apply {}

end Store

namespace Contents

/-- The contents after a call: a restore as the updates it replays, a reset to nothing. -/
def apply (c : Contents) : Call → Contents
  | .update u => c.update u
  | .restore snap => snap.updates.foldl update c
  | .reset => fun _ => {}

/-- The contents after a history of calls from nothing. -/
def replay (calls : List Call) : Contents := calls.foldl apply fun _ => {}

end Contents

namespace Store

/-- The empty store has no contents. -/
@[simp] theorem view_empty : (({} : Store)).view = fun _ => {} := rfl

/-- A call keeps a well-formed store well formed, and changes its contents as the abstract call
does. -/
theorem WF.apply {s : Store} (hs : s.WF) :
    ∀ c : Call, (s.apply c).WF ∧ (s.apply c).view = s.view.apply c
  | .update u => ⟨hs.run u, (hs.run_view u).2⟩
  | .restore snap => by
    simp only [Store.apply, Contents.apply, restore_snd]
    exact hs.runAll snap.updates
  | .reset => ⟨wf_empty, rfl⟩

/-- Calls in order keep a store well formed, and change its contents as the abstract calls do. -/
theorem WF.foldl_apply {s : Store} (hs : s.WF) :
    ∀ calls : List Call,
      (calls.foldl Store.apply s).WF ∧
        (calls.foldl Store.apply s).view = calls.foldl Contents.apply s.view
  | [] => ⟨hs, rfl⟩
  | c :: cs => by
    obtain ⟨hwf, hview⟩ := hs.apply c
    have h := hwf.foldl_apply cs
    rw [hview] at h
    exact h

/-- Every history leaves a well-formed store whose contents are those of the abstract history. -/
theorem replay_wf_view (calls : List Call) :
    (replay calls).WF ∧ (replay calls).view = Contents.replay calls :=
  wf_empty.foldl_apply calls

end Store

/-! ### What the summary counts

  Along a history, the counts of a type are the updates of that type the store answered `true`
  to since the last reset: registers that added a pair, marks that covered one, records that
  added a body. A restore counts through the updates it replays. -/

/-- The counts of one type along a history. -/
structure Tally where
  /-- Registers that added a pair. -/
  pairs : Nat := 0
  /-- Marks that covered a pair. -/
  covered : Nat := 0
  /-- Records that added a body. -/
  puts : Nat := 0

/-- The counts after one more successful update. -/
def Tally.add (t : Tally) : Update → Tally
  | .register _ => { t with pairs := t.pairs + 1 }
  | .markCovered _ => { t with covered := t.covered + 1 }
  | .recordPut _ _ => { t with puts := t.puts + 1 }

/-- An update in the counts of `ty`: counted when it is about `ty` and the store answers `true`. -/
def tallyUpdate (ty : String) (acc : Tally × Store) (u : Update) : Tally × Store :=
  let (ok, s) := acc.2.run u
  (if ok ∧ u.type = ty then acc.1.add u else acc.1, s)

/-- A call in the counts of `ty`: a restore counts through its updates, a reset starts over. -/
def tallyCall (ty : String) (acc : Tally × Store) : Call → Tally × Store
  | .update u => tallyUpdate ty acc u
  | .restore snap => snap.updates.foldl (tallyUpdate ty) acc
  | .reset => ({}, {})

/-- The counts of `ty` along a history from the empty store. -/
def tally (ty : String) (calls : List Call) : Tally := (calls.foldl (tallyCall ty) ({}, {})).1

namespace Store

/-- The counts of `ty` agree with the contents of `ty` in a store. -/
def Counted (ty : String) (t : Tally) (s : Store) : Prop :=
  (s.view ty).pairs.length = t.pairs ∧
    ((s.view ty).pairs.filter (·.2 == .covered)).length = t.covered ∧
    (s.view ty).puts.length = t.puts

/-- Covering in place a pair that is there once and uncovered adds one covered pair. -/
theorem covered_count_cover {p : Pair} :
    ∀ {l : List (Pair × Status)}, (l.map (·.1)).Nodup → (p, .uncovered) ∈ l →
      ((l.map fun e => if e.1 = p then (p, Status.covered) else e).filter
          (·.2 == .covered)).length =
        (l.filter (·.2 == .covered)).length + 1
  | [], _, hp => by simp at hp
  | e :: rest, hd, hp => by
    have hk : e.1 ∉ rest.map (·.1) := (List.nodup_cons.mp hd).1
    by_cases he : e.1 = p
    · -- the entry is `(p, uncovered)`, and no later one has `p`
      have hpe : e = (p, .uncovered) := by
        rcases List.mem_cons.mp hp with h | h
        · exact h.symm
        · exact absurd (List.mem_map.mpr ⟨_, h, he.symm ▸ rfl⟩) (he ▸ hk)
      have hrest : (rest.map fun e => if e.1 = p then (p, Status.covered) else e) = rest := by
        refine (List.map_congr_left fun e' he' => ?_).trans (List.map_id rest)
        have : e'.1 ≠ p := fun h => hk (he ▸ h ▸ List.mem_map_of_mem he')
        simp [this]
      subst hpe
      simp [hrest]
    · have hp' : (p, Status.uncovered) ∈ rest := by
        rcases List.mem_cons.mp hp with h | h
        · exact absurd (congrArg Prod.fst h).symm he
        · exact h
      have ih := covered_count_cover (List.nodup_cons.mp hd).2 hp'
      by_cases hc : e.2 = .covered <;> simp [he, hc, ih]

/-- A mark the contents accept names a pair that is there, uncovered. -/
theorem mem_of_accepts_markCovered {c : Contents} {p : Pair}
    (hd : ((c p.declaringType).pairs.map (·.1)).Nodup)
    (hacc : c.accepts (.markCovered p) = true) :
    (p, Status.uncovered) ∈ (c p.declaringType).pairs := by
  have hlookup : (c p.declaringType).pairs.lookup p = some .uncovered := by
    simpa [Contents.accepts, Contents.statusOf] using hacc
  exact (lookup_eq_some_iff hd _ _).mp hlookup

/-- An update keeps the counts of every type in step with the contents. -/
theorem WF.counted_tallyUpdate {s : Store} (hs : s.WF) {ty : String} {t : Tally}
    (h : Counted ty t s) (u : Update) :
    Counted ty (tallyUpdate ty (t, s) u).1 (tallyUpdate ty (t, s) u).2 := by
  obtain ⟨hanswer, hview⟩ := hs.run_view u
  unfold Counted at h ⊢
  simp only [tallyUpdate, hanswer, hview, Contents.update]
  by_cases hacc : s.view.accepts u = true
  · by_cases hty : u.type = ty
    · subst hty
      cases u with
      | register p =>
        simp [hacc, Update.type, Update.change, Tally.add] at h ⊢
        omega
      | markCovered p =>
        have hmem := mem_of_accepts_markCovered (hs.pairs_nodup _) hacc
        simp [hacc, Update.type, Update.change, Tally.add,
          covered_count_cover (hs.pairs_nodup _) hmem] at h ⊢
        omega
      | recordPut ty body =>
        simp [hacc, Update.type, Update.change, Tally.add] at h ⊢
        omega
    · simpa [hacc, hty, Function.update_of_ne (Ne.symm hty)] using h
  · simpa [hacc] using h

/-- Along updates, the counts of a type stay in step with its contents, and the counting runs
the updates' own stores. -/
theorem WF.counted_updates {s : Store} (hs : s.WF) {ty : String} {t : Tally}
    (h : Counted ty t s) : ∀ us : List Update,
      Counted ty (us.foldl (tallyUpdate ty) (t, s)).1 (us.foldl (tallyUpdate ty) (t, s)).2 ∧
        (us.foldl (tallyUpdate ty) (t, s)).2 = s.runAll us
  | [] => ⟨h, rfl⟩
  | u :: us => by
    have hstep := hs.counted_tallyUpdate h u
    have hstore : (tallyUpdate ty (t, s) u).2 = (s.run u).2 := rfl
    rw [hstore] at hstep
    exact (hs.run u).counted_updates hstep us

/-- A call keeps the counts of a type in step with its contents, and the counting runs the
call's own store. -/
theorem WF.counted_tallyCall {s : Store} (hs : s.WF) {ty : String} {t : Tally}
    (h : Counted ty t s) :
    ∀ c : Call, Counted ty (tallyCall ty (t, s) c).1 (tallyCall ty (t, s) c).2 ∧
      (tallyCall ty (t, s) c).2 = s.apply c
  | .update u => ⟨hs.counted_tallyUpdate h u, rfl⟩
  | .restore snap => by
    simp only [tallyCall, Store.apply, restore_snd]
    exact hs.counted_updates h snap.updates
  | .reset => ⟨by simp [Counted, tallyCall, view_empty], rfl⟩

/-- Along any history, the counts of a type stay in step with its contents, and the counting
runs the history's own stores. -/
theorem WF.counted_foldl {s : Store} (hs : s.WF) {ty : String} {t : Tally} (h : Counted ty t s) :
    ∀ calls : List Call,
      Counted ty (calls.foldl (tallyCall ty) (t, s)).1 (calls.foldl (tallyCall ty) (t, s)).2 ∧
        (calls.foldl (tallyCall ty) (t, s)).2 = calls.foldl Store.apply s
  | [] => ⟨h, rfl⟩
  | c :: cs => by
    obtain ⟨hc, hstore⟩ := hs.counted_tallyCall h c
    have hwf : (tallyCall ty (t, s) c).2.WF := hstore ▸ (hs.apply c).1
    obtain ⟨hcount, hrun⟩ := hwf.counted_foldl hc cs
    refine ⟨hcount, ?_⟩
    rw [List.foldl_cons, List.foldl_cons, ← hstore]
    exact hrun

/-- After any history, the contents of each type are counted by the tally of that type. -/
theorem counted_replay (ty : String) (calls : List Call) :
    Counted ty (tally ty calls) (replay calls) := by
  have h0 : Counted ty {} ({} : Store) := by simp [Counted, view_empty]
  have h := wf_empty.counted_foldl h0 calls
  unfold tally replay
  rw [← h.2]
  exact h.1

end Store

/-! ### The refinement -/

open Store in
/-- **The store refines its contents.** After any history of registers, marks, records,
restores and resets from the empty store, the store is well formed and holds the contents the
history gives abstractly. From there every update answers and changes the contents as
`Contents.accepts` and `Contents.update` say, and a restore as the updates it replays.
Statuses, uncovered pairs and bodies are read off the contents. The known types, and the types
with an uncovered pair, are sorted and are exactly the types with a pair or a body, and those
with an uncovered pair. The summary lists the known types, each with the registers, marks and
records of it that succeeded since the last reset. -/
theorem store_refines_contents (calls : List Call) :
    let s := replay calls
    s.WF ∧ s.view = Contents.replay calls ∧
    (∀ u : Update, (s.run u).1 = s.view.accepts u ∧ (s.run u).2.view = s.view.update u) ∧
    (∀ snap : Snapshot, (s.restore snap).2.view = snap.updates.foldl Contents.update s.view) ∧
    (∀ p, s.statusOf p = s.view.statusOf p) ∧
    (∀ ty, s.uncovered ty = s.view.uncovered ty) ∧
    (∀ ty body, s.hasPut ty body = (s.view ty).puts.contains body) ∧
    (∀ ty, s.putsFor ty = (s.view ty).puts) ∧
    s.types.Pairwise (· < ·) ∧
    (∀ ty, ty ∈ s.types ↔ (s.view ty).pairs ≠ [] ∨ (s.view ty).puts ≠ []) ∧
    s.typesWithUncovered.Pairwise (· < ·) ∧
    (∀ ty, ty ∈ s.typesWithUncovered ↔ ∃ p, (p, Status.uncovered) ∈ (s.view ty).pairs) ∧
    s.summary = s.types.map fun ty =>
      ⟨ty, (tally ty calls).pairs, (tally ty calls).covered, (tally ty calls).puts⟩ := by
  obtain ⟨hs, hview⟩ := replay_wf_view calls
  refine ⟨hs, hview, hs.run_view, fun snap => ?_, statusOf_eq_view _, uncovered_eq_view _,
    hasPut_eq_view _, putsFor_eq_view _, hs.sorted, hs.mem_types, hs.typesWithUncovered_sorted,
    hs.mem_typesWithUncovered, ?_⟩
  · rw [restore_snd]
    exact (hs.runAll snap.updates).2
  · -- each entry's counts are the tally of its type
    rw [hs.summary_eq]
    refine List.map_congr_left fun ty _ => ?_
    obtain ⟨hpairs, hcovered, hputs⟩ := counted_replay ty calls
    rw [hpairs, hcovered, hputs]

end DefUseCoverage.Coverage
