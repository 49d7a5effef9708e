import Mathlib
import DefUseCoverage.Proofs.SnapshotRestore
import DefUseCoverage.Proofs.MetadataGrowth
/-! # Restoring a snapshot is a monotone merge

  A restore replays a snapshot through `register`, `markCovered` and `recordPut`, whatever the
  snapshot holds: repeated types, repeated pairs, conflicting covered flags, types with nothing,
  bodies already recorded. Each of the three calls is a law of the contents of the store:

  - a register appends its pair to its type's pairs unless it is there (`Contents.keys_update`);
  - a record appends its body to its type's bodies unless it is there (`Contents.puts_update`);
  - a mark covers its pair when the pair is registered, and nothing else covers or uncovers
    (`Contents.covered_update`).

  Folded over a snapshot, the first two give each type's pairs and bodies after a restore: those
  before, then the missing ones of the snapshot in the order they first appear
  (`WF.keys_restore`, `WF.puts_restore`). The third, taken entry by entry since a pair's mark
  comes right after its register, gives the covered pairs: those covered before and those an
  entry flags (`WF.covered_restore`). The count is the number of distinct pairs of the snapshot
  that were not registered (`WF.count_restore`).

  Main statement: `restore_merges`. With it, restoring the same snapshot again is refused at every
  step, and the statuses and bodies after several restores depend only on which snapshots were
  restored, not on their order.
-/

namespace DefUseCoverage.Coverage

open Metadata (insertNew extendNew)

/-! ### Folds that only add -/

section Folds

variable {α β γ : Type}

theorem extendNew_append [BEq γ] (xs ys zs : List γ) :
    extendNew xs (ys ++ zs) = extendNew (extendNew xs ys) zs :=
  List.foldl_append

theorem insertNew_of_mem [BEq γ] [LawfulBEq γ] {xs : List γ} {x : γ} (h : x ∈ xs) :
    insertNew xs x = xs := by
  simp [insertNew, h]

theorem insertNew_of_not_mem [BEq γ] [LawfulBEq γ] {xs : List γ} {x : γ} (h : x ∉ xs) :
    insertNew xs x = xs ++ [x] := by
  simp [insertNew, h]

/-- Adding items that are all there changes nothing. -/
theorem extendNew_of_subset [BEq γ] [LawfulBEq γ] {xs : List γ} :
    ∀ {ys : List γ}, (∀ y ∈ ys, y ∈ xs) → extendNew xs ys = xs
  | [], _ => rfl
  | y :: rest, h => by
    rw [← List.singleton_append, extendNew_append]
    change extendNew (insertNew xs y) rest = xs
    rw [insertNew_of_mem (h y List.mem_cons_self)]
    exact extendNew_of_subset fun z hz => h z (List.mem_cons_of_mem y hz)

/-- A fold whose every step adds the missing items of its element adds, over a list, the
missing items of every element in turn. -/
theorem foldl_extendNew [BEq γ] (f : β → α → β) (K : β → List γ) (g : α → List γ)
    (h : ∀ b a, K (f b a) = extendNew (K b) (g a)) :
    ∀ (xs : List α) (b : β), K (xs.foldl f b) = extendNew (K b) (xs.flatMap g)
  | [], _ => rfl
  | a :: rest, b => by
    rw [List.foldl_cons, foldl_extendNew f K g h rest, h, List.flatMap_cons, extendNew_append]

/-- A fold whose every step makes a property hold exactly when it held or the element asks for
it makes it hold, over a list, exactly when it held or some element asks for it. -/
theorem foldl_or_iff (f : β → α → β) (P : β → Prop) (Q : α → Prop)
    (h : ∀ b a, P (f b a) ↔ P b ∨ Q a) :
    ∀ (xs : List α) (b : β), P (xs.foldl f b) ↔ P b ∨ ∃ a ∈ xs, Q a
  | [], _ => by simp
  | a :: rest, b => by
    rw [List.foldl_cons, foldl_or_iff f P Q h rest, h]
    simp only [List.mem_cons, exists_eq_or_imp, or_assoc]

end Folds

/-! ### What each call adds -/

namespace Update

/-- The pair a register adds to a type: its own, when it is of that type. -/
def registers (ty : String) : Update → List Pair
  | .register p => if p.declaringType = ty then [p] else []
  | _ => []

/-- The body a record adds to a type: its own, when it is for that type. -/
def records (ty : String) : Update → List String
  | .recordPut ty' body => if ty' = ty then [body] else []
  | _ => []

theorem mem_registers {ty : String} {u : Update} {p : Pair} :
    p ∈ u.registers ty ↔ u = .register p ∧ p.declaringType = ty := by
  cases u with
  | register q =>
    by_cases h : q.declaringType = ty
    · simp only [registers, h, if_true, List.mem_singleton, register.injEq]
      constructor
      · rintro rfl
        exact ⟨rfl, h⟩
      · rintro ⟨rfl, -⟩
        rfl
    · simp only [registers, h, if_false, List.not_mem_nil, register.injEq, false_iff]
      rintro ⟨rfl, hp⟩
      exact h hp
  | markCovered q => simp [registers]
  | recordPut ty' body => simp [registers]

theorem mem_records {ty body : String} {u : Update} :
    body ∈ u.records ty ↔ u = .recordPut ty body := by
  cases u with
  | register q => simp [records]
  | markCovered q => simp [records]
  | recordPut ty' b =>
    by_cases h : ty' = ty
    · subst h
      simp [records, eq_comm]
    · simp [records, h]

end Update

namespace Contents

/-- The pairs registered for a type, in registration order. -/
def keys (c : Contents) (ty : String) : List Pair := (c ty).pairs.map (·.1)

/-- A pair is registered exactly when it is among the pairs of its type. -/
theorem isSome_statusOf (c : Contents) (p : Pair) :
    (c.statusOf p).isSome ↔ p ∈ c.keys p.declaringType := by
  rw [statusOf, ← any_fst_eq]
  simp [keys]

/-- A register appends its pair unless the pair is there; marks and records leave every type's
pairs in place. -/
theorem keys_update (c : Contents) (u : Update) (ty : String) :
    (c.update u).keys ty = extendNew (c.keys ty) (u.registers ty) := by
  cases u with
  | register p =>
    by_cases hty : p.declaringType = ty
    · subst hty
      by_cases hacc : c.accepts (.register p) = true
      · -- a new pair goes at the end
        have hnew : p ∉ c.keys p.declaringType := by
          rw [← isSome_statusOf]
          simpa [accepts, Option.isSome_iff_ne_none] using hacc
        rw [update_of_accepts hacc]
        simp only [keys] at hnew ⊢
        simp [Update.registers, Update.type, Update.change, extendNew, insertNew_of_not_mem hnew]
      · have hold : p ∈ c.keys p.declaringType := by
          rw [← isSome_statusOf]
          simpa [accepts, Option.isSome_iff_ne_none] using hacc
        rw [update_of_refused (by simpa using hacc)]
        simp [Update.registers, extendNew, insertNew_of_mem hold]
    · have hother : (c.update (.register p)) ty = c ty := by
        unfold update
        split
        · exact Function.update_of_ne (Ne.symm hty) _ _
        · rfl
      simp [keys, hother, Update.registers, hty, extendNew]
  | markCovered p =>
    -- covering a pair in place keeps the names of every pair
    have hkeys : ∀ part : Partition,
        ((Update.markCovered p).change part).pairs.map (·.1) = part.pairs.map (·.1) := by
      intro part
      simp only [Update.change, List.map_map]
      refine List.map_congr_left fun e _ => ?_
      by_cases he : e.1 = p <;> simp [he]
    unfold update
    split
    · by_cases hty : ty = p.declaringType
      · subst hty
        simp [keys, Update.type, hkeys, Update.registers, extendNew]
      · simp [keys, Update.type, Function.update_of_ne hty, Update.registers, extendNew]
    · rfl
  | recordPut ty' body =>
    unfold update
    split
    · by_cases hty : ty = ty'
      · subst hty
        simp [keys, Update.type, Update.change, Update.registers, extendNew]
      · simp [keys, Update.type, Function.update_of_ne hty, Update.registers, extendNew]
    · rfl

/-- A record appends its body unless the body is there; registers and marks leave every type's
bodies in place. -/
theorem puts_update (c : Contents) (u : Update) (ty : String) :
    ((c.update u) ty).puts = extendNew (c ty).puts (u.records ty) := by
  unfold update
  split
  · next hacc =>
    by_cases hty : ty = u.type
    · subst hty
      cases u with
      | register p => simp [Update.change, Update.records, extendNew]
      | markCovered p => simp [Update.change, Update.records, extendNew]
      | recordPut ty' body =>
        have hnew : body ∉ (c ty').puts := by simpa [accepts] using hacc
        simp [Update.type, Update.change, Update.records, extendNew, insertNew_of_not_mem hnew]
    · rw [Function.update_of_ne hty]
      cases u with
      | register p => rfl
      | markCovered p => rfl
      | recordPut ty' body => simp [Update.type] at hty; simp [Update.records, Ne.symm hty, extendNew]
  · next hacc =>
    cases u with
    | register p => rfl
    | markCovered p => rfl
    | recordPut ty' body =>
      by_cases hty : ty' = ty
      · subst hty
        have hold : body ∈ (c ty').puts := by simpa [accepts] using hacc
        simp [Update.records, extendNew, insertNew_of_mem hold]
      · simp [Update.records, hty, extendNew]

/-- A call registers a pair exactly when the pair was registered or the call is its register. -/
theorem isSome_update (c : Contents) (u : Update) (q : Pair) :
    ((c.update u).statusOf q).isSome ↔ (c.statusOf q).isSome ∨ u = .register q := by
  rw [isSome_statusOf, isSome_statusOf, keys_update, Metadata.mem_extendNew, Update.mem_registers]
  simp

/-- A register or a record leaves whether each pair is covered. -/
theorem covered_update_of_not_mark {u : Update} (hu : u.isMark = false) (c : Contents) (q : Pair) :
    (c.update u).statusOf q = some .covered ↔ c.statusOf q = some .covered := by
  unfold update
  split
  · by_cases hty : q.declaringType = u.type
    · simp only [statusOf]
      rw [hty, Function.update_self]
      exact u.lookup_change_covered_iff hu _ q
    · simp [statusOf, Function.update_of_ne hty]
  · rfl

/-- A mark leaves the status of every other pair. -/
theorem statusOf_update_markCovered_of_ne (c : Contents) {p q : Pair} (hqp : q ≠ p) :
    (c.update (.markCovered p)).statusOf q = c.statusOf q := by
  unfold update
  split
  · by_cases hty : q.declaringType = p.declaringType
    · simp only [statusOf, Update.type]
      rw [hty, Function.update_self]
      simp only [Update.change]
      rw [Store.lookup_cover, if_neg hqp]
    · simp [statusOf, Update.type, Function.update_of_ne hty]
  · rfl

/-- A mark covers its pair when the pair is registered, and only then. -/
theorem covered_update_markCovered (c : Contents) (p q : Pair) :
    (c.update (.markCovered p)).statusOf q = some .covered ↔
      c.statusOf q = some .covered ∨ (p = q ∧ (c.statusOf q).isSome) := by
  by_cases hqp : q = p
  · subst hqp
    cases hst : c.statusOf q with
    | none =>
      -- an unregistered pair is refused
      rw [update_of_refused (by simp [accepts, hst]), hst]
      simp
    | some st =>
      cases st with
      | uncovered =>
        -- an uncovered pair is covered in place
        rw [update_of_accepts (by simp [accepts, hst])]
        simp only [statusOf, Update.type, Function.update_self, Update.change] at hst ⊢
        rw [Store.lookup_cover, if_pos rfl, hst]
        simp
      | covered =>
        rw [update_of_refused (by simp [accepts, hst]), hst]
        simp
  · rw [statusOf_update_markCovered_of_ne c hqp]
    simp [Ne.symm hqp]

/-- Only a mark of a registered pair covers it, and nothing uncovers. -/
theorem covered_update (c : Contents) (u : Update) (q : Pair) :
    (c.update u).statusOf q = some .covered ↔
      c.statusOf q = some .covered ∨ (u = .markCovered q ∧ (c.statusOf q).isSome) := by
  cases u with
  | register p => simp [covered_update_of_not_mark (u := .register p) rfl]
  | markCovered p => simp [covered_update_markCovered]
  | recordPut ty body => simp [covered_update_of_not_mark (u := .recordPut ty body) rfl]

end Contents

/-! ### What a snapshot names -/

/-- The pair an entry of a type names: its three names, all declared by the type. -/
def PairSnapshot.pair (ty : String) (e : PairSnapshot) : Pair :=
  ⟨ty, e.field, e.defMethod, e.useMethod⟩

theorem PairSnapshot.updates_eq (ty : String) (e : PairSnapshot) :
    e.updates ty = .register (e.pair ty) :: if e.covered then [.markCovered (e.pair ty)] else [] :=
  rfl

/-- An entry registers its own pair and no other. -/
theorem PairSnapshot.register_mem_updates {ty : String} {e : PairSnapshot} {q : Pair} :
    .register q ∈ e.updates ty ↔ q = e.pair ty := by
  rw [updates_eq]
  cases e.covered <;> simp

/-- A type's entry registers the pairs of its entries and no other. -/
theorem TypeSnapshot.register_mem_updates {t : TypeSnapshot} {q : Pair} :
    .register q ∈ t.updates ↔ q ∈ t.pairs.map (PairSnapshot.pair t.declaringType) := by
  simp only [updates, List.mem_append, List.mem_flatMap, PairSnapshot.register_mem_updates,
    List.mem_map, reduceCtorEq, and_false, exists_false, or_false]
  constructor <;>
  · rintro ⟨e, he, hq⟩
    exact ⟨e, he, hq.symm⟩

namespace Snapshot

/-- The pairs a snapshot names, type after type, in order, repeats included. -/
def pairs (snap : Snapshot) : List Pair :=
  snap.types.flatMap fun t => t.pairs.map (PairSnapshot.pair t.declaringType)

/-- The pairs of the entries flagged covered. -/
def coveredPairs (snap : Snapshot) : List Pair :=
  snap.types.flatMap fun t => (t.pairs.filter (·.covered)).map (PairSnapshot.pair t.declaringType)

/-- The bodies a snapshot lists for a type, over all its entries for the type, in order. -/
def putsFor (snap : Snapshot) (ty : String) : List String :=
  (snap.types.filter (·.declaringType = ty)).flatMap (·.puts)

theorem mem_coveredPairs {snap : Snapshot} {q : Pair} :
    q ∈ snap.coveredPairs ↔
      ∃ t ∈ snap.types, ∃ e ∈ t.pairs, q = e.pair t.declaringType ∧ e.covered = true := by
  simp only [coveredPairs, List.mem_flatMap, List.mem_map, List.mem_filter]
  constructor
  · rintro ⟨t, ht, e, ⟨he, hcov⟩, rfl⟩
    exact ⟨t, ht, e, he, rfl, hcov⟩
  · rintro ⟨t, ht, e, he, rfl, hcov⟩
    exact ⟨t, ht, e, ⟨he, hcov⟩, rfl⟩

end Snapshot

/-! ### A snapshot's updates, folded over contents -/

namespace Contents

/-- Restoring an entry covers its pair when the entry is flagged, the register before the mark
making the pair known. -/
theorem covered_entry (c : Contents) (ty : String) (e : PairSnapshot) (q : Pair) :
    ((e.updates ty).foldl update c).statusOf q = some .covered ↔
      c.statusOf q = some .covered ∨ (q = e.pair ty ∧ e.covered = true) := by
  rw [PairSnapshot.updates_eq]
  cases e.covered with
  | false => simp [covered_update_of_not_mark (u := .register _) rfl]
  | true =>
    have hreg : ((c.update (.register (e.pair ty))).statusOf (e.pair ty)).isSome := by
      simp [isSome_update]
    simp only [if_true, List.foldl_cons, List.foldl_nil]
    rw [covered_update, covered_update_of_not_mark (u := .register _) rfl]
    constructor
    · rintro (h | ⟨h, -⟩)
      · exact .inl h
      · exact .inr ⟨(Update.markCovered.inj h).symm, trivial⟩
    · rintro (h | ⟨rfl, -⟩)
      · exact .inl h
      · exact .inr ⟨rfl, hreg⟩

/-- Restoring a type's entry covers the pairs of the entries it flags, and no other. -/
theorem covered_type (c : Contents) (t : TypeSnapshot) (q : Pair) :
    (t.updates.foldl update c).statusOf q = some .covered ↔
      c.statusOf q = some .covered ∨
        ∃ e ∈ t.pairs, q = e.pair t.declaringType ∧ e.covered = true := by
  rw [TypeSnapshot.updates, List.foldl_append, List.foldl_flatMap, List.foldl_map]
  -- the entries cover what they flag, then the records cover nothing
  have hentries := foldl_or_iff _ (fun c => c.statusOf q = some .covered)
    (fun e => q = e.pair t.declaringType ∧ e.covered = true) (fun c e => covered_entry c _ e q)
    t.pairs c
  have hputs := foldl_or_iff (fun c b => c.update (.recordPut t.declaringType b))
    (fun c => c.statusOf q = some .covered) (fun _ => False)
    (fun c _ => by simp [covered_update_of_not_mark (u := .recordPut _ _) rfl]) t.puts
    (t.pairs.foldl (fun acc e => (e.updates t.declaringType).foldl update acc) c)
  rw [hputs, hentries]
  simp

/-- Restoring a snapshot covers the pairs of the entries it flags, and no other. -/
theorem covered_snapshot (c : Contents) (snap : Snapshot) (q : Pair) :
    (snap.updates.foldl update c).statusOf q = some .covered ↔
      c.statusOf q = some .covered ∨ q ∈ snap.coveredPairs := by
  have htypes := foldl_or_iff _ (fun c => c.statusOf q = some .covered)
    (fun t => ∃ e ∈ t.pairs, q = e.pair t.declaringType ∧ e.covered = true)
    (fun c t => covered_type c t q) snap.types c
  rw [Snapshot.updates, List.foldl_flatMap, htypes, Snapshot.mem_coveredPairs]

end Contents

/-! ### What a snapshot's updates add -/

namespace TypeSnapshot

theorem flatMap_registers (t : TypeSnapshot) (ty : String) :
    t.updates.flatMap (Update.registers ty) =
      (t.pairs.map (PairSnapshot.pair t.declaringType)).filter (·.declaringType = ty) := by
  simp only [updates, List.flatMap_append, List.flatMap_map, List.flatMap_assoc]
  have hputs : t.puts.flatMap (fun b => Update.registers ty (.recordPut t.declaringType b)) = [] := by
    simp [Update.registers]
  rw [hputs, List.append_nil]
  induction t.pairs with
  | nil => rfl
  | cons e rest ih =>
    rw [List.flatMap_cons, ih, List.map_cons, List.filter_cons, PairSnapshot.updates_eq]
    by_cases hty : (e.pair t.declaringType).declaringType = ty <;> cases e.covered <;>
      simp [Update.registers, hty]

theorem flatMap_records (t : TypeSnapshot) (ty : String) :
    t.updates.flatMap (Update.records ty) = if t.declaringType = ty then t.puts else [] := by
  have hpairs : (t.pairs.flatMap (PairSnapshot.updates t.declaringType)).flatMap
      (Update.records ty) = [] := by
    simp [List.flatMap_assoc, PairSnapshot.updates_eq, Update.records]
  rw [updates, List.flatMap_append, hpairs, List.nil_append, List.flatMap_map]
  by_cases hty : t.declaringType = ty <;> simp [Update.records, hty]

end TypeSnapshot

namespace Snapshot

/-- The registers of a snapshot for a type are its pairs of that type, in order. -/
theorem flatMap_registers (snap : Snapshot) (ty : String) :
    snap.updates.flatMap (Update.registers ty) = snap.pairs.filter (·.declaringType = ty) := by
  simp only [updates, pairs, List.flatMap_assoc, List.filter_flatMap, TypeSnapshot.flatMap_registers]

/-- The records of a snapshot for a type are its bodies for that type, in order. -/
theorem flatMap_records (snap : Snapshot) (ty : String) :
    snap.updates.flatMap (Update.records ty) = snap.putsFor ty := by
  simp only [updates, putsFor, List.flatMap_assoc, TypeSnapshot.flatMap_records]
  induction snap.types with
  | nil => rfl
  | cons t rest ih =>
    by_cases hty : t.declaringType = ty <;> simp [hty, ih]

/-- Every update of a snapshot registers one of its pairs, marks one of its covered pairs or
records one of its bodies. -/
theorem mem_updates {snap : Snapshot} {u : Update} (hu : u ∈ snap.updates) :
    (∃ p ∈ snap.pairs, u = .register p) ∨ (∃ p ∈ snap.coveredPairs, u = .markCovered p) ∨
      ∃ ty body, body ∈ snap.putsFor ty ∧ u = .recordPut ty body := by
  simp only [updates, TypeSnapshot.updates, List.mem_flatMap, List.mem_append, List.mem_map,
    PairSnapshot.updates_eq] at hu
  obtain ⟨t, ht, ⟨e, he, hu⟩ | ⟨body, hbody, rfl⟩⟩ := hu
  · rcases List.mem_cons.mp hu with rfl | hmark
    · exact .inl ⟨_, List.mem_flatMap.mpr ⟨t, ht, List.mem_map_of_mem he⟩, rfl⟩
    · -- only a flagged entry has a mark
      have hcov : e.covered = true := by
        by_contra hcov
        simp [hcov] at hmark
      rw [if_pos hcov, List.mem_singleton] at hmark
      subst hmark
      exact .inr (.inl ⟨_, mem_coveredPairs.mpr ⟨t, ht, e, he, rfl, hcov⟩, rfl⟩)
  · refine .inr (.inr ⟨t.declaringType, body, ?_, rfl⟩)
    simp only [putsFor, List.mem_flatMap, List.mem_filter]
    exact ⟨t, ⟨ht, by simp⟩, hbody⟩

end Snapshot

/-! ### The store after a restore -/

namespace Store

/-- Updates in order register a pair exactly when it was registered or one of them registers
it. -/
theorem WF.isSome_runAll {s : Store} (hs : s.WF) (us : List Update) (q : Pair) :
    ((s.runAll us).statusOf q).isSome ↔ (s.statusOf q).isSome ∨ .register q ∈ us := by
  have hfold := foldl_extendNew Contents.update (·.keys q.declaringType)
    (Update.registers q.declaringType) (fun c u => c.keys_update u _) us s.view
  rw [statusOf_eq_view, statusOf_eq_view, (hs.runAll us).2, Contents.isSome_statusOf,
    Contents.isSome_statusOf, hfold, Metadata.mem_extendNew]
  simp [List.mem_flatMap, Update.mem_registers]

/-- On a well-formed store a restore folds the snapshot's updates over the contents. -/
theorem WF.restore_view {s : Store} (hs : s.WF) (snap : Snapshot) :
    (s.restore snap).2.WF ∧ (s.restore snap).2.view = snap.updates.foldl Contents.update s.view := by
  rw [restore_snd]
  exact hs.runAll snap.updates

section Restore

variable {s : Store} (hs : s.WF) (snap : Snapshot)
include hs

/-- After a restore a type has its pairs, then the missing pairs of the snapshot of that type,
in the order they first appear. -/
theorem WF.keys_restore (ty : String) :
    (s.restore snap).2.view.keys ty =
      extendNew (s.view.keys ty) (snap.pairs.filter (·.declaringType = ty)) := by
  have hfold := foldl_extendNew Contents.update (·.keys ty) (Update.registers ty)
    (fun c u => c.keys_update u ty) snap.updates s.view
  rw [(hs.restore_view snap).2, hfold, Snapshot.flatMap_registers]

/-- After a restore a type has its bodies, then the missing bodies of the snapshot for that type,
in the order they first appear. -/
theorem WF.puts_restore (ty : String) :
    ((s.restore snap).2.view ty).puts = extendNew (s.view ty).puts (snap.putsFor ty) := by
  have hfold := foldl_extendNew Contents.update (fun c => (c ty).puts) (Update.records ty)
    (fun c u => c.puts_update u ty) snap.updates s.view
  rw [(hs.restore_view snap).2, hfold, Snapshot.flatMap_records]

theorem WF.isSome_restore (q : Pair) :
    ((s.restore snap).2.statusOf q).isSome ↔ (s.statusOf q).isSome ∨ q ∈ snap.pairs := by
  rw [statusOf_eq_view, statusOf_eq_view, Contents.isSome_statusOf, Contents.isSome_statusOf,
    hs.keys_restore, Metadata.mem_extendNew, List.mem_filter]
  simp

theorem WF.covered_restore (q : Pair) :
    (s.restore snap).2.statusOf q = some .covered ↔
      s.statusOf q = some .covered ∨ q ∈ snap.coveredPairs := by
  rw [statusOf_eq_view, statusOf_eq_view, (hs.restore_view snap).2]
  exact Contents.covered_snapshot s.view snap q

theorem WF.hasPut_restore (ty body : String) :
    (s.restore snap).2.hasPut ty body = true ↔
      s.hasPut ty body = true ∨ body ∈ snap.putsFor ty := by
  rw [hasPut_eq_view, hasPut_eq_view, hs.puts_restore]
  simp

end Restore

/-! ### What a restore counts -/

/-- Counting the unregistered pairs of two lists in turn: those of the first against a store,
those of the second against the store after the first is registered. -/
theorem card_filter_append {t t' : Store} {A B : List Pair}
    (h : ∀ q, (t'.statusOf q).isSome ↔ (t.statusOf q).isSome ∨ q ∈ A) :
    ((A ++ B).toFinset.filter fun p => t.statusOf p = none).card =
      (A.toFinset.filter fun p => t.statusOf p = none).card +
        (B.toFinset.filter fun p => t'.statusOf p = none).card := by
  have hnone : ∀ q, t'.statusOf q = none ↔ t.statusOf q = none ∧ q ∉ A := by
    intro q
    rw [← Option.not_isSome_iff_eq_none, ← Option.not_isSome_iff_eq_none, h]
    tauto
  rw [← Finset.card_union_of_disjoint]
  · congr 1
    ext q
    simp only [Finset.mem_filter, List.mem_toFinset, List.mem_append, Finset.mem_union, hnone]
    tauto
  · rw [Finset.disjoint_left]
    intro q hA hB
    simp only [Finset.mem_filter, List.mem_toFinset, hnone] at hA hB
    exact hB.2.2 hA.1

/-- Restoring an entry counts its pair when the pair is new, and replays its updates. -/
theorem restorePair_eq (ty : String) (n : Nat) (t : Store) (e : PairSnapshot) :
    restorePair ty (n, t) e =
      (if t.statusOf (e.pair ty) = none then n + 1 else n, t.runAll (e.updates ty)) := by
  refine Prod.ext ?_ ?_
  · have hnew : (t.register (e.pair ty)).1 = (t.statusOf (e.pair ty)).isNone := by
      rw [statusOf_eq_view]
      exact (run_register t (e.pair ty)).1
    change (if (t.register (e.pair ty)).1 then n + 1 else n) = _
    rw [hnew]
    cases t.statusOf (e.pair ty) <;> simp
  · simpa only [List.foldl_cons, List.foldl_nil, List.flatMap_singleton] using
      foldl_restorePair ty [e] n t

/-- Restoring entries counts the distinct pairs among them that were not registered. -/
theorem WF.count_restorePairs {ty : String} :
    ∀ (es : List PairSnapshot) (n : Nat) (t : Store), t.WF →
      (es.foldl (restorePair ty) (n, t)).1 =
        n + ((es.map (PairSnapshot.pair ty)).toFinset.filter fun p => t.statusOf p = none).card
  | [], n, t, _ => by simp
  | e :: rest, n, t, ht => by
    -- the entry registers its pair, the rest count against the store it leaves
    have hreg : ∀ q, ((t.runAll (e.updates ty)).statusOf q).isSome ↔
        (t.statusOf q).isSome ∨ q ∈ [e.pair ty] := by
      intro q
      rw [ht.isSome_runAll, PairSnapshot.register_mem_updates, List.mem_singleton]
    rw [List.foldl_cons, restorePair_eq, count_restorePairs rest _ _ (ht.runAll _).1,
      List.map_cons, ← List.singleton_append, card_filter_append hreg]
    by_cases hnew : t.statusOf (e.pair ty) = none
    · simp only [hnew, if_true, Finset.filter_singleton, List.toFinset_cons, List.toFinset_nil,
        insert_empty_eq, Finset.card_singleton]
      omega
    · simp [hnew, Finset.filter_singleton]

/-- Restoring types counts the distinct pairs among their entries that were not registered. -/
theorem WF.count_restoreTypes :
    ∀ (types : List TypeSnapshot) (n : Nat) (t : Store), t.WF →
      (types.foldl restoreType (n, t)).1 =
        n + ((types.flatMap fun T => T.pairs.map (PairSnapshot.pair T.declaringType)).toFinset.filter
          fun p => t.statusOf p = none).card
  | [], n, t, _ => by simp
  | T :: rest, n, t, ht => by
    have hreg : ∀ q, ((t.runAll T.updates).statusOf q).isSome ↔
        (t.statusOf q).isSome ∨ q ∈ T.pairs.map (PairSnapshot.pair T.declaringType) := by
      intro q
      rw [ht.isSome_runAll, TypeSnapshot.register_mem_updates]
    have hT : restoreType (n, t) T =
        (n + ((T.pairs.map (PairSnapshot.pair T.declaringType)).toFinset.filter
          fun p => t.statusOf p = none).card, t.runAll T.updates) := by
      refine Prod.ext ?_ (restoreType_snd n t T)
      rw [restoreType_eq]
      exact ht.count_restorePairs T.pairs n t
    rw [List.foldl_cons, hT, count_restoreTypes rest _ _ (ht.runAll _).1, List.flatMap_cons,
      card_filter_append hreg]
    omega

/-- A restore counts the distinct pairs of the snapshot that were not registered. -/
theorem WF.count_restore {s : Store} (hs : s.WF) (snap : Snapshot) :
    (s.restore snap).1 = (snap.pairs.toFinset.filter fun p => s.statusOf p = none).card := by
  rw [restore, hs.count_restoreTypes snap.types 0 s, Nat.zero_add, Snapshot.pairs]

/-! ### Restoring again, and in another order -/

/-- Updates the contents all refuse change nothing. -/
theorem WF.runAll_of_refused {s : Store} (hs : s.WF) :
    ∀ us : List Update, (∀ u ∈ us, s.view.accepts u = false) → s.runAll us = s
  | [], _ => rfl
  | u :: rest, h => by
    have hrun := hs.run_of_refused (h u List.mem_cons_self)
    change rest.foldl _ (s.run u).2 = s
    rw [hrun]
    exact runAll_of_refused hs rest fun u' hu' => h u' (List.mem_cons_of_mem u hu')

/-- A snapshot restored again is refused at every step: nothing changes and nothing is counted. -/
theorem WF.restore_restore {s : Store} (hs : s.WF) (snap : Snapshot) :
    ((s.restore snap).2.restore snap) = (0, (s.restore snap).2) := by
  have hs' := (hs.restore_view snap).1
  have hreg : ∀ p ∈ snap.pairs, ((s.restore snap).2.statusOf p).isSome :=
    fun p hp => (hs.isSome_restore snap p).mpr (.inr hp)
  refine Prod.ext ?_ ?_
  · rw [hs'.count_restore, Finset.card_eq_zero, Finset.filter_eq_empty_iff]
    intro p hp
    exact Option.isSome_iff_ne_none.mp (hreg p (List.mem_toFinset.mp hp))
  · -- every register, mark and record of the snapshot has been done
    rw [restore_snd]
    refine hs'.runAll_of_refused _ fun u hu => ?_
    rcases Snapshot.mem_updates hu with ⟨p, hp, rfl⟩ | ⟨p, hp, rfl⟩ | ⟨ty, body, hb, rfl⟩
    · have h := hreg p hp
      rw [statusOf_eq_view] at h
      simpa [Contents.accepts, Option.isSome_iff_ne_none] using h
    · have h := (hs.covered_restore snap p).mpr (.inr hp)
      rw [statusOf_eq_view] at h
      simp [Contents.accepts, h]
    · have h := (hs.hasPut_restore snap ty body).mpr (.inr hb)
      rw [hasPut_eq_view] at h
      simpa [Contents.accepts] using h

/-- The store after restoring several snapshots in turn. -/
def restoreAll (s : Store) (snaps : List Snapshot) : Store :=
  snaps.foldl (fun t snap => (t.restore snap).2) s

/-- After several restores a pair is registered, a pair covered and a body recorded exactly when
it was before or some snapshot among them has it. -/
theorem WF.restoreAll_merges {s : Store} (hs : s.WF) : ∀ snaps : List Snapshot,
    (s.restoreAll snaps).WF ∧
      (∀ q, ((s.restoreAll snaps).statusOf q).isSome ↔
        (s.statusOf q).isSome ∨ ∃ snap ∈ snaps, q ∈ snap.pairs) ∧
      (∀ q, (s.restoreAll snaps).statusOf q = some .covered ↔
        s.statusOf q = some .covered ∨ ∃ snap ∈ snaps, q ∈ snap.coveredPairs) ∧
      ∀ ty body, (s.restoreAll snaps).hasPut ty body = true ↔
        s.hasPut ty body = true ∨ ∃ snap ∈ snaps, body ∈ snap.putsFor ty
  | [] => ⟨hs, by simp [restoreAll]⟩
  | snap :: rest => by
    obtain ⟨hwf, hreg, hcov, hput⟩ := WF.restoreAll_merges (hs.restore_view snap).1 rest
    refine ⟨hwf, fun q => ?_, fun q => ?_, fun ty body => ?_⟩
    · rw [restoreAll, List.foldl_cons, ← restoreAll, hreg, hs.isSome_restore]
      simp [or_assoc]
    · rw [restoreAll, List.foldl_cons, ← restoreAll, hcov, hs.covered_restore]
      simp [or_assoc]
    · rw [restoreAll, List.foldl_cons, ← restoreAll, hput, hs.hasPut_restore]
      simp [or_assoc]

/-- A status is known from whether the pair is registered and whether it is covered. -/
theorem statusOf_eq_of_iff {s t : Store} {q : Pair}
    (hreg : (s.statusOf q).isSome ↔ (t.statusOf q).isSome)
    (hcov : s.statusOf q = some .covered ↔ t.statusOf q = some .covered) :
    s.statusOf q = t.statusOf q := by
  rcases hs : s.statusOf q with _ | ⟨_ | _⟩ <;> rcases ht : t.statusOf q with _ | ⟨_ | _⟩ <;>
    simp_all

/-- The statuses and bodies after several restores do not depend on the order of the snapshots. -/
theorem WF.restoreAll_perm {s : Store} (hs : s.WF) {snaps snaps' : List Snapshot}
    (hperm : snaps.Perm snaps') (q : Pair) (ty body : String) :
    (s.restoreAll snaps).statusOf q = (s.restoreAll snaps').statusOf q ∧
      (s.restoreAll snaps).hasPut ty body = (s.restoreAll snaps').hasPut ty body := by
  obtain ⟨-, hreg, hcov, hput⟩ := hs.restoreAll_merges snaps
  obtain ⟨-, hreg', hcov', hput'⟩ := hs.restoreAll_merges snaps'
  -- the same snapshots were restored, in whatever order
  have hsame : ∀ P : Snapshot → Prop, (∃ snap ∈ snaps, P snap) ↔ ∃ snap ∈ snaps', P snap :=
    fun P => by simp only [hperm.mem_iff]
  refine ⟨statusOf_eq_of_iff ?_ ?_, Bool.eq_iff_iff.mpr ?_⟩
  · rw [hreg, hreg', hsame]
  · rw [hcov, hcov', hsame]
  · rw [hput, hput', hsame]

/-- `s'` is `s` with a snapshot merged in, `n` counting what it added: a pair is registered exactly
when it was or the snapshot names it, covered exactly when it was or an entry flags it, and a body
recorded for a type exactly when it was or the snapshot lists it for the type; each type's pairs
are its old ones followed by the new ones in the order the snapshot first names them; `n` is the
number of distinct pairs of the snapshot that were not registered. -/
structure Merge (s : Store) (snap : Snapshot) (n : Nat) (s' : Store) : Prop where
  /-- The merged store is well formed. -/
  wf : s'.WF
  /-- Registered: before, or named by the snapshot. -/
  registered : ∀ p, (s'.statusOf p).isSome ↔ (s.statusOf p).isSome ∨ p ∈ snap.pairs
  /-- Covered: before, or flagged by an entry. -/
  covered : ∀ p, s'.statusOf p = some .covered ↔
    s.statusOf p = some .covered ∨ p ∈ snap.coveredPairs
  /-- Recorded: before, or listed for the type. -/
  recorded : ∀ ty body, s'.hasPut ty body = true ↔
    s.hasPut ty body = true ∨ body ∈ snap.putsFor ty
  /-- New pairs come after the old ones, in the order the snapshot first names them. -/
  order : ∀ ty, s'.view.keys ty =
    extendNew (s.view.keys ty) (snap.pairs.filter (·.declaringType = ty))
  /-- The count is of the distinct new pairs. -/
  count : n = (snap.pairs.toFinset.filter fun p => s.statusOf p = none).card

end Store

/-! ### The main statement -/

open Store in
/-- **Restoring a snapshot is a monotone merge.** For every well-formed store and every snapshot,
whatever it repeats or flags: the restored store is the merge of the two (`Store.Merge`), so no
pair is uncovered; restoring the same snapshot again changes nothing and counts nothing; and after
restoring several snapshots the status of every pair and the bodies of every type do not depend
on the order in which they were restored. -/
theorem restore_merges (s : Store) (hs : s.WF) (snap : Snapshot) :
    Merge s snap (s.restore snap).1 (s.restore snap).2 ∧
      (∀ p, s.statusOf p = some .covered → (s.restore snap).2.statusOf p = some .covered) ∧
      (s.restore snap).2.restore snap = (0, (s.restore snap).2) ∧
      ∀ snaps snaps' : List Snapshot, snaps.Perm snaps' → ∀ p ty body,
        (s.restoreAll snaps).statusOf p = (s.restoreAll snaps').statusOf p ∧
          (s.restoreAll snaps).hasPut ty body = (s.restoreAll snaps').hasPut ty body :=
  ⟨⟨(hs.restore_view snap).1, hs.isSome_restore snap, hs.covered_restore snap,
      hs.hasPut_restore snap, hs.keys_restore snap, hs.count_restore snap⟩,
    fun p hp => (hs.covered_restore snap p).mpr (.inl hp), hs.restore_restore snap,
    fun _ _ hperm => hs.restoreAll_perm hperm⟩

open Store in
/-- A store with one pair, and a snapshot that lists its type twice, names a pair twice with both
flags, lists a type with nothing and a body twice. -/
theorem restore_merges_mixed_snapshot :
    let s := (({} : Store).run (.register ⟨"T", "T.F", "T.Set", "T.Get"⟩)).2
    let snap : Snapshot :=
      ⟨[⟨"T", [⟨"T.F", "T.Set", "T.Get", false⟩, ⟨"T.G", "T.Set", "T.Get", true⟩], ["b"]⟩,
        ⟨"U", [], []⟩, ⟨"T", [⟨"T.G", "T.Set", "T.Get", false⟩], ["b", "c"]⟩]⟩
    s.WF ∧ (Merge s snap (s.restore snap).1 (s.restore snap).2 ∧
      (∀ p, s.statusOf p = some .covered → (s.restore snap).2.statusOf p = some .covered) ∧
      (s.restore snap).2.restore snap = (0, (s.restore snap).2) ∧
      ∀ snaps snaps' : List Snapshot, snaps.Perm snaps' → ∀ p ty body,
        (s.restoreAll snaps).statusOf p = (s.restoreAll snaps').statusOf p ∧
          (s.restoreAll snaps).hasPut ty body = (s.restoreAll snaps').hasPut ty body) := by
  intro s snap
  have hs : s.WF := wf_empty.run _
  exact ⟨hs, restore_merges s hs snap⟩

end DefUseCoverage.Coverage
