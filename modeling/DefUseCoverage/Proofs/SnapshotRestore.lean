import Mathlib
import DefUseCoverage.Proofs.StoreContents
/-! # A snapshot restores the store it was taken of

  A snapshot lists the types of a store in order, each with its pairs (three names and a covered
  flag) in registration order and its bodies in recording order. Restoring it replays every pair
  through `register` and, when flagged, `markCovered`, and every body through `recordPut`.

  - A well-formed store is determined by its contents (`Store.WF.eq_of_view_eq`): its partitions
    are its sorted types, each with its contents. So on a well-formed store an update the
    contents refuse changes nothing at all (`WF.run_of_refused`).
  - Restoring the entry of a type into a store that has nothing for the type rebuilds the type's
    contents, each pair counted as new (`WF.restoreType_fresh`); restoring it into the store it
    was taken from is refused at every step (`WF.restoreType_same`).
  - Main statement: for every store a history of calls reaches, restoring its snapshot into an
    empty store gives back the store itself and counts every pair of the snapshot, and restoring
    it into the store itself changes nothing and counts none (`restore_snapshot_round_trip`).
-/

namespace DefUseCoverage.Coverage

/-! ### The entries of a snapshot -/

/-- The entry a snapshot holds for a registered pair: its names and whether it is covered. -/
def PairSnapshot.ofEntry (e : Pair × Status) : PairSnapshot :=
  ⟨e.1.field, e.1.defMethod, e.1.useMethod, e.2 == .covered⟩

/-- The entry a snapshot holds for a type: its pairs and its bodies, in order. -/
def TypeSnapshot.ofPartition (ty : String) (part : Partition) : TypeSnapshot :=
  ⟨ty, part.pairs.map PairSnapshot.ofEntry, part.puts⟩

namespace Store

theorem snapshot_types (s : Store) :
    s.snapshot.types = s.partitions.map fun e => TypeSnapshot.ofPartition e.1 e.2 := rfl

end Store

/-- The pair a type's entry names is the registered pair, when the pair is of that type. -/
theorem Pair.mk_of_declaringType {p : Pair} {ty : String} (h : p.declaringType = ty) :
    (⟨ty, p.field, p.defMethod, p.useMethod⟩ : Pair) = p := by
  subst h
  rfl

namespace Contents

variable {c : Contents} {u : Update}

theorem update_of_accepts (h : c.accepts u = true) :
    c.update u = Function.update c u.type (u.change (c u.type)) := by
  simp [update, h]

theorem update_of_refused (h : c.accepts u = false) : c.update u = c := by
  simp [update, h]

end Contents

/-! ### A well-formed store is its contents -/

namespace Store

/-- In a well-formed store the partitions are the types, each with its contents. -/
theorem WF.partitions_eq {s : Store} (hs : s.WF) :
    s.partitions = s.types.map fun ty => (ty, s.view ty) := by
  rw [types, List.map_map]
  conv_lhs => rw [← List.map_id s.partitions]
  refine List.map_congr_left fun e he => ?_
  simp [hs.view_of_mem he]

/-- A type a well-formed store does not know has no contents. -/
theorem WF.view_of_not_mem {s : Store} (hs : s.WF) {ty : String} (h : ty ∉ s.types) :
    s.view ty = {} := by
  have hempty : (s.view ty).pairs = [] ∧ (s.view ty).puts = [] := by
    simpa [hs.mem_types] using h
  calc s.view ty = ⟨(s.view ty).pairs, (s.view ty).puts⟩ := rfl
    _ = {} := by rw [hempty.1, hempty.2]

/-- Two well-formed stores with the same contents are the same store: the types of each are
the sorted list of those with a pair or a body, each with its contents. -/
theorem WF.eq_of_view_eq {s t : Store} (hs : s.WF) (ht : t.WF) (h : s.view = t.view) : s = t := by
  have htypes : s.types = t.types :=
    hs.sorted.eq_of_mem_iff ht.sorted fun ty => by rw [hs.mem_types, ht.mem_types, h]
  have hparts : s.partitions = t.partitions := by
    rw [hs.partitions_eq, ht.partitions_eq, htypes, h]
  calc s = ⟨s.partitions⟩ := rfl
    _ = ⟨t.partitions⟩ := by rw [hparts]
    _ = t := rfl

/-- On a well-formed store, an update the contents refuse answers `false` and changes nothing. -/
theorem WF.run_of_refused {s : Store} (hs : s.WF) {u : Update} (hu : s.view.accepts u = false) :
    s.run u = (false, s) := by
  obtain ⟨hanswer, hview⟩ := hs.run_view u
  have hsame : (s.run u).2 = s :=
    (hs.run u).eq_of_view_eq hs (by rw [hview, Contents.update_of_refused hu])
  exact Prod.ext (hanswer.trans hu) hsame

/-! ### Restoring one type -/

/-- Restoring the entry of a pair of the type registers it, counting it when it is new, and
marks it when the entry is covered. -/
theorem restorePair_ofEntry {ty : String} {p : Pair} (hp : p.declaringType = ty) (st : Status)
    (a : Nat × Store) :
    restorePair ty a (PairSnapshot.ofEntry (p, st)) =
      (if (a.2.run (.register p)).1 then a.1 + 1 else a.1,
        if st = .covered then ((a.2.run (.register p)).2.run (.markCovered p)).2
        else (a.2.run (.register p)).2) := by
  subst hp
  cases st <;> rfl

/-- Registering then marking covered a pair that the type does not have appends it with its
status, and counts it. -/
theorem WF.restorePair_fresh {a : Nat × Store} (ha : a.2.WF) {ty : String}
    {acc : List (Pair × Status)} {e : Pair × Status} (hview : a.2.view ty = ⟨acc, []⟩)
    (he : e.1.declaringType = ty) (hnew : e.1 ∉ acc.map (·.1)) :
    (restorePair ty a (PairSnapshot.ofEntry e)).1 = a.1 + 1 ∧
      (restorePair ty a (PairSnapshot.ofEntry e)).2.WF ∧
      (restorePair ty a (PairSnapshot.ofEntry e)).2.view =
        Function.update a.2.view ty ⟨acc ++ [e], []⟩ := by
  obtain ⟨p, st⟩ := e
  dsimp only at he hnew ⊢
  subst he
  have hlookup : acc.lookup p = none := by
    have hnew' : ∀ st', (p, st') ∉ acc := by simpa using hnew
    rw [List.lookup_eq_none_iff]
    intro q hq
    exact bne_iff_ne.mpr fun h => hnew' q.2 (by rw [h]; exact hq)
  -- the register is accepted and appends the pair as uncovered
  have hreg : a.2.view.accepts (.register p) = true := by
    simp [Contents.accepts, Contents.statusOf, hview, hlookup]
  obtain ⟨hans, hv₁⟩ := ha.run_view (.register p)
  have hwf₁ := ha.run (.register p)
  have hview₁ : (a.2.run (.register p)).2.view =
      Function.update a.2.view p.declaringType ⟨acc ++ [(p, .uncovered)], []⟩ := by
    rw [hv₁, Contents.update_of_accepts hreg]
    simp [Update.type, Update.change, hview]
  rw [restorePair_ofEntry rfl, hans, hreg, if_pos rfl]
  refine ⟨rfl, ?_⟩
  cases st with
  | uncovered => exact ⟨hwf₁, by simpa using hview₁⟩
  | covered =>
    -- the mark finds the pair uncovered and covers it in its place, at the end
    have hmark : (a.2.run (.register p)).2.view.accepts (.markCovered p) = true := by
      simp [Contents.accepts, Contents.statusOf, hview₁, List.lookup_append, hlookup]
    obtain ⟨-, hv₂⟩ := hwf₁.run_view (.markCovered p)
    have hacc : (acc.map fun e => if e.1 = p then (p, Status.covered) else e) = acc := by
      refine (List.map_congr_left fun e he => ?_).trans (List.map_id acc)
      have : e.1 ≠ p := fun h => hnew (h ▸ List.mem_map_of_mem he)
      simp [this]
    refine ⟨hwf₁.run _, ?_⟩
    rw [if_pos rfl, hv₂, Contents.update_of_accepts hmark, hview₁]
    simp [Update.type, Update.change, hacc]

/-- Restoring pair entries of the type into a store with only pairs of it so far appends them,
each counted as new. -/
theorem WF.restorePairs_fresh {ty : String} :
    ∀ (rest acc : List (Pair × Status)) (a : Nat × Store), a.2.WF → a.2.view ty = ⟨acc, []⟩ →
      ((acc ++ rest).map (·.1)).Nodup → (∀ e ∈ rest, e.1.declaringType = ty) →
      ((rest.map PairSnapshot.ofEntry).foldl (restorePair ty) a).1 = a.1 + rest.length ∧
        ((rest.map PairSnapshot.ofEntry).foldl (restorePair ty) a).2.WF ∧
        ((rest.map PairSnapshot.ofEntry).foldl (restorePair ty) a).2.view =
          Function.update a.2.view ty ⟨acc ++ rest, []⟩
  | [], acc, a, ha, hview, _, _ => by
    refine ⟨rfl, ha, ?_⟩
    funext ty'
    by_cases h : ty' = ty
    · subst h; simp [hview]
    · simp [h]
  | e :: rest, acc, a, ha, hview, hnd, htyped => by
    have hnew : e.1 ∉ acc.map (·.1) := by
      intro h
      rw [List.map_append, List.nodup_append] at hnd
      exact hnd.2.2 _ h _ (by simp) rfl
    obtain ⟨hn₁, hwf₁, hv₁⟩ := ha.restorePair_fresh hview (htyped e (by simp)) hnew
    have hview₁ : (restorePair ty a (PairSnapshot.ofEntry e)).2.view ty = ⟨acc ++ [e], []⟩ := by
      simp [hv₁]
    obtain ⟨hn, hwf, hv⟩ := restorePairs_fresh rest (acc ++ [e]) _ hwf₁ hview₁
      (by simpa using hnd) (fun e' he' => htyped e' (by simp [he']))
    rw [List.map_cons, List.foldl_cons]
    refine ⟨by rw [hn, hn₁, List.length_cons]; omega, hwf, ?_⟩
    rw [hv, hv₁]
    simp

/-- Recording bodies of the type that it does not have yet appends them. -/
theorem WF.restorePuts_fresh {ty : String} {pairs : List (Pair × Status)} :
    ∀ (rest acc : List String) (t : Store), t.WF → t.view ty = ⟨pairs, acc⟩ →
      (acc ++ rest).Nodup →
      (rest.foldl (fun s b => (s.recordPut ty b).2) t).WF ∧
        (rest.foldl (fun s b => (s.recordPut ty b).2) t).view =
          Function.update t.view ty ⟨pairs, acc ++ rest⟩
  | [], acc, t, ht, hview, _ => ⟨ht, by rw [List.append_nil, ← hview, Function.update_eq_self]; rfl⟩
  | b :: rest, acc, t, ht, hview, hnd => by
    have hnew : b ∉ acc := by
      intro h
      rw [List.nodup_append] at hnd
      exact hnd.2.2 _ h _ (by simp) rfl
    have hrec : t.view.accepts (.recordPut ty b) = true := by
      simp [Contents.accepts, hview, hnew]
    obtain ⟨-, hv₁⟩ := ht.run_view (.recordPut ty b)
    have hview₁ : (t.run (.recordPut ty b)).2.view = Function.update t.view ty ⟨pairs, acc ++ [b]⟩ := by
      rw [hv₁, Contents.update_of_accepts hrec]
      simp [Update.type, Update.change, hview]
    obtain ⟨hwf, hv⟩ := restorePuts_fresh rest (acc ++ [b]) (t.run (.recordPut ty b)).2
      (ht.run _) (show (t.run (.recordPut ty b)).2.view ty = ⟨pairs, acc ++ [b]⟩ by simp [hview₁])
      (by simpa using hnd)
    rw [List.foldl_cons]
    change (rest.foldl _ (t.run (.recordPut ty b)).2).WF ∧
      (rest.foldl _ (t.run (.recordPut ty b)).2).view = _
    refine ⟨hwf, ?_⟩
    rw [hv, hview₁]
    simp

theorem restoreType_eq (a : Nat × Store) (t : TypeSnapshot) :
    restoreType a t = ((t.pairs.foldl (restorePair t.declaringType) a).1,
      t.puts.foldl (fun s b => (s.recordPut t.declaringType b).2)
        (t.pairs.foldl (restorePair t.declaringType) a).2) := rfl

/-- Restoring the entry of a type into a store that has nothing for it rebuilds the type's
contents, counting each of its pairs. -/
theorem WF.restoreType_fresh {a : Nat × Store} (ha : a.2.WF) {ty : String} {part : Partition}
    (hnone : a.2.view ty = {}) (hnd : (part.pairs.map (·.1)).Nodup)
    (htyped : ∀ e ∈ part.pairs, e.1.declaringType = ty) (hputs : part.puts.Nodup) :
    (restoreType a (TypeSnapshot.ofPartition ty part)).1 = a.1 + part.pairs.length ∧
      (restoreType a (TypeSnapshot.ofPartition ty part)).2.WF ∧
      (restoreType a (TypeSnapshot.ofPartition ty part)).2.view =
        Function.update a.2.view ty part := by
  obtain ⟨hn, hwf, hv⟩ := restorePairs_fresh part.pairs [] a ha hnone (by simpa using hnd) htyped
  have hview : ((part.pairs.map PairSnapshot.ofEntry).foldl (restorePair ty) a).2.view ty =
      ⟨part.pairs, []⟩ := by
    simp [hv]
  obtain ⟨hwf', hv'⟩ := restorePuts_fresh part.puts [] _ hwf hview (by simpa using hputs)
  refine ⟨hn, hwf', ?_⟩
  rw [restoreType_eq]
  exact hv'.trans (by simp [hv])

/-- Restoring a registered pair's entry into its store is refused at both steps. -/
theorem WF.restorePair_same {s : Store} (hs : s.WF) {ty : String} {e : Pair × Status}
    (he : e ∈ (s.view ty).pairs) (n : Nat) : restorePair ty (n, s) (PairSnapshot.ofEntry e) = (n, s) := by
  obtain ⟨p, st⟩ := e
  have hp : p.declaringType = ty := hs.pairs_typed ty _ he
  have hstatus : s.view.statusOf p = some st := by
    rw [Contents.statusOf, hp]
    exact (lookup_eq_some_iff (hs.pairs_nodup ty) p st).mpr he
  have hreg : s.view.accepts (.register p) = false := by
    simp [Contents.accepts, hstatus]
  rw [restorePair_ofEntry hp]
  dsimp only
  rw [hs.run_of_refused hreg]
  cases st with
  | uncovered => rfl
  | covered =>
    have hmark : s.view.accepts (.markCovered p) = false := by
      simp [Contents.accepts, hstatus]
    simp only [if_true, Bool.false_eq_true, if_false, hs.run_of_refused hmark]

/-- Restoring a type's entry into the store it was taken from changes nothing and counts
nothing. -/
theorem WF.restoreType_same {s : Store} (hs : s.WF) (n : Nat) (ty : String) :
    restoreType (n, s) (TypeSnapshot.ofPartition ty (s.view ty)) = (n, s) := by
  have hpairs : ∀ l : List (Pair × Status), (∀ e ∈ l, e ∈ (s.view ty).pairs) →
      (l.map PairSnapshot.ofEntry).foldl (restorePair ty) (n, s) = (n, s) := by
    intro l hl
    induction l with
    | nil => rfl
    | cons e rest ih =>
      rw [List.map_cons, List.foldl_cons, hs.restorePair_same (hl e (by simp))]
      exact ih fun e' he' => hl e' (by simp [he'])
  have hputs : ∀ l : List String, (∀ b ∈ l, b ∈ (s.view ty).puts) →
      l.foldl (fun s b => (s.recordPut ty b).2) s = s := by
    intro l hl
    induction l with
    | nil => rfl
    | cons b rest ih =>
      have hrec : s.view.accepts (.recordPut ty b) = false := by
        simp [Contents.accepts, hl b (by simp)]
      rw [List.foldl_cons]
      change rest.foldl _ (s.run (.recordPut ty b)).2 = s
      rw [hs.run_of_refused hrec]
      exact ih fun b' hb' => hl b' (by simp [hb'])
  rw [restoreType_eq]
  simp only [TypeSnapshot.ofPartition]
  rw [hpairs _ fun _ h => h, hputs _ fun _ h => h]

/-! ### Restoring a whole snapshot -/

/-- The snapshot of a well-formed store holds its types in order, each with its contents. -/
theorem WF.snapshot_types_eq {s : Store} (hs : s.WF) :
    s.snapshot.types = s.types.map fun ty => TypeSnapshot.ofPartition ty (s.view ty) := by
  rw [snapshot_types, hs.partitions_eq, List.map_map]
  rfl

/-- Restoring the entries of some types of `s` into a store that has nothing for them rebuilds
their contents from `s`, counting all their pairs. -/
theorem WF.foldl_restoreType_fresh {s : Store} (hs : s.WF) :
    ∀ (types : List String), types.Nodup → ∀ (a : Nat × Store), a.2.WF →
      (∀ ty ∈ types, a.2.view ty = {}) →
      let r := (types.map fun ty => TypeSnapshot.ofPartition ty (s.view ty)).foldl restoreType a
      r.1 = a.1 + (types.map fun ty => (s.view ty).pairs.length).sum ∧ r.2.WF ∧
        r.2.view = fun ty => if ty ∈ types then s.view ty else a.2.view ty
  | [], _, a, ha, _ => ⟨by simp, ha, by simp⟩
  | ty :: rest, hnd, a, ha, hnone => by
    obtain ⟨hn₁, hwf₁, hv₁⟩ := ha.restoreType_fresh (hnone ty (by simp)) (hs.pairs_nodup ty)
      (hs.pairs_typed ty) (hs.puts_nodup ty)
    have hnot : ty ∉ rest := (List.nodup_cons.mp hnd).1
    have hnone₁ : ∀ ty' ∈ rest,
        (restoreType a (TypeSnapshot.ofPartition ty (s.view ty))).2.view ty' = {} := by
      intro ty' hty'
      have hne : ty' ≠ ty := fun h => hnot (h ▸ hty')
      rw [hv₁, Function.update_of_ne hne]
      exact hnone ty' (by simp [hty'])
    obtain ⟨hn, hwf, hv⟩ := foldl_restoreType_fresh hs rest (List.nodup_cons.mp hnd).2 _ hwf₁ hnone₁
    refine ⟨?_, hwf, ?_⟩
    · rw [List.map_cons, List.foldl_cons, hn, hn₁, List.map_cons, List.sum_cons, Nat.add_assoc]
    · rw [List.map_cons, List.foldl_cons, hv, hv₁]
      funext ty'
      by_cases h : ty' = ty
      · subst h; simp [hnot]
      · by_cases h' : ty' ∈ rest <;> simp [h, h']

/-- Restoring the snapshot of a well-formed store into an empty store gives the store back,
counting every pair of the snapshot. -/
theorem WF.restore_snapshot_empty {s : Store} (hs : s.WF) :
    ({} : Store).restore s.snapshot = ((s.snapshot.types.map (·.pairs.length)).sum, s) := by
  have hnd : s.types.Nodup := hs.sorted.imp ne_of_lt
  obtain ⟨hn, hwf, hv⟩ := hs.foldl_restoreType_fresh s.types hnd (0, {}) wf_empty (by simp)
  have hview : (({} : Store).restore s.snapshot).2.view = s.view := by
    unfold restore
    rw [hs.snapshot_types_eq, hv]
    funext ty
    by_cases h : ty ∈ s.types
    · simp [h]
    · simp [h, hs.view_of_not_mem h]
  have hwf' : (({} : Store).restore s.snapshot).2.WF := by
    unfold restore
    rw [hs.snapshot_types_eq]
    exact hwf
  refine Prod.ext ?_ (hwf'.eq_of_view_eq hs hview)
  unfold restore
  rw [hs.snapshot_types_eq, hn, List.map_map]
  simp [Function.comp_def, TypeSnapshot.ofPartition]

/-- Restoring the snapshot of a well-formed store into the store itself changes nothing and
counts nothing. -/
theorem WF.restore_snapshot_self {s : Store} (hs : s.WF) : s.restore s.snapshot = (0, s) := by
  have hsame : ∀ (types : List String) (n : Nat),
      (types.map fun ty => TypeSnapshot.ofPartition ty (s.view ty)).foldl restoreType (n, s) =
        (n, s) := by
    intro types
    induction types with
    | nil => intro n; rfl
    | cons ty rest ih =>
      intro n
      rw [List.map_cons, List.foldl_cons]
      rw [hs.restoreType_same n ty]
      exact ih n
  unfold restore
  rw [hs.snapshot_types_eq]
  exact hsame s.types 0

end Store

/-! ### The main statement -/

open Store in
/-- **A snapshot restores the store it was taken of.** For every store a history of registers,
marks, records, restores and resets reaches: restoring its snapshot into an empty store gives the
store itself back, so the restored store has the same snapshot, statuses, bodies, uncovered
pairs and summary, and the restore counts every pair of the snapshot as new; restoring the
snapshot into the store itself changes nothing and counts no pair. -/
theorem restore_snapshot_round_trip (calls : List Call) :
    let s := replay calls
    ({} : Store).restore s.snapshot = ((s.snapshot.types.map (·.pairs.length)).sum, s) ∧
      s.restore s.snapshot = (0, s) :=
  have hs := (replay_wf_view calls).1
  ⟨hs.restore_snapshot_empty, hs.restore_snapshot_self⟩

end DefUseCoverage.Coverage
