import Mathlib
import DefUseCoverage.Proofs.JsonCodec
import DefUseCoverage.Proofs.SnapshotRestore
/-! # A saved snapshot loads back

  Saving makes the target's directory, writes a temporary file there and renames it over the
  target. Loading follows the target's path text again and reads the file there.

  - What stands at a path after a node is put or dropped (`node?_put`, `node?_drop`).
  - A chain of directories is all a path text needs to resolve: a tree that keeps every chain of
    directories of another resolves every text as it does (`DirsKept`, `resolve_of_dirsKept`).
    Renaming a file keeps them: the file was no directory, nor was what it replaced.
  - Making directories adds no null device (`createDirAllNamed_nullOnly`), so the temporary file
    is written as a file when the only null device is `/dev/null`.
  - Main statements: when a save succeeds in a tree whose only null device is `/dev/null`, the
    target path then holds the snapshot's bytes, and loading it gives the snapshot back, for the
    JSON form always and for the binary form while it is shorter than `2 ^ 64` bytes
    (`Snapshot.load_save`); opening a store saved that way gives the store back
    (`Store.openAt_save`). With the codecs' own laws, every snapshot persists in both forms
    (`Snapshot.persists_in_both_forms`).
-/

namespace DefUseCoverage

namespace Workspace

/-! ### Nodes after an update -/

theorem node?_nil (w : Workspace) : w.node? [] = some .dir := rfl

theorem node?_of_ne_nil (w : Workspace) {q : AbsPath} (hq : q ≠ []) :
    w.node? q = (w.nodes.find? (·.1 == q)).map (·.2) := by
  simp [node?, hq]

/-- A node put at a path stands there, and nowhere else. -/
theorem node?_put (w : Workspace) {p : AbsPath} (hp : p ≠ []) (n : Node) (q : AbsPath) :
    (w.put p n).node? q = if q = p then some n else w.node? q := by
  by_cases hq : q = []
  · subst hq
    rw [if_neg (Ne.symm hp), node?_nil, node?_nil]
  rw [node?_of_ne_nil _ hq, node?_of_ne_nil _ hq]
  unfold put
  split
  · -- the entries at `p` are replaced; keys are unchanged
    rename_i hany
    have hkey : ((fun e : AbsPath × Node => e.1 == q) ∘
        fun e : AbsPath × Node => if e.1 == p then (p, n) else e) = (·.1 == q) := by
      funext e
      by_cases he : e.1 = p <;> simp [he]
    simp only [List.find?_map, hkey]
    split
    · subst q
      obtain ⟨e, he, hep⟩ := List.any_eq_true.mp hany
      cases hfind : w.nodes.find? (·.1 == p) with
      | none => exact absurd (List.find?_eq_none.mp hfind e he) (by simpa using hep)
      | some e' =>
        have : e'.1 = p := by simpa using List.find?_some hfind
        simp [this]
    · rename_i hqp
      cases hfind : w.nodes.find? (·.1 == q) with
      | none => rfl
      | some e' =>
        have : e'.1 = q := by simpa using List.find?_some hfind
        simp [this, hqp]
  · -- the entry is added at the end, where no entry has key `p`
    rename_i hany
    rw [List.find?_append]
    split
    · subst q
      have hnone : w.nodes.find? (·.1 == p) = none :=
        List.find?_eq_none.mpr fun e he hep => hany (List.any_eq_true.mpr ⟨e, he, hep⟩)
      simp [hnone]
    · rename_i hqp
      cases w.nodes.find? (·.1 == q) <;> simp [Ne.symm hqp]

/-- Dropping a path removes the node there and every node below it, and nothing else. -/
theorem node?_drop (w : Workspace) (p q : AbsPath) :
    (w.drop p).node? q = if q ≠ [] ∧ (q = p ∨ isBelow q p = true) then none else w.node? q := by
  by_cases hq : q = []
  · subst hq
    simp [node?_nil]
  rw [node?_of_ne_nil _ hq, node?_of_ne_nil _ hq]
  unfold drop
  simp only [List.find?_filter]
  by_cases hgone : q = p ∨ isBelow q p = true
  · -- every entry with key `q` is dropped
    rw [if_pos ⟨hq, hgone⟩, List.find?_eq_none.mpr]
    · rfl
    intro e _ he
    simp only [decide_eq_true_eq, beq_iff_eq, Bool.or_eq_false_iff, Bool.not_eq_eq_eq_not,
      Bool.not_true, beq_eq_false_iff_ne] at he
    obtain ⟨⟨hne, hbelow⟩, rfl⟩ := he
    rcases hgone with h | h
    · exact hne h
    · rw [h] at hbelow
      cases hbelow

  · -- an entry with key `q` is kept
    rw [if_neg (fun h => hgone h.2)]
    congr 2
    funext e
    by_cases he : e.1 = q
    · simp only [he, beq_self_eq_true]
      simpa using hgone

    · simp [he]

/-! ### Chains of directories -/

/-- Checks that all succeed, one after the other, are checks that each succeed. -/
theorem forM_eq_ok {α ε : Type} (f : α → Except ε Unit) :
    ∀ l : List α, l.forM f = .ok () ↔ ∀ x ∈ l, f x = .ok ()
  | [] => by simp only [List.forM, List.not_mem_nil, false_imp_iff, implies_true, iff_true]; rfl
  | x :: l => by
    simp only [List.forM, List.forall_mem_cons, ← forM_eq_ok f l]
    cases f x <;> simp [bind, Except.bind]

/-- A path's parents are fine when every proper prefix is a directory. -/
theorem parentsOk_eq_ok (w : Workspace) (p : AbsPath) :
    w.parentsOk p = .ok () ↔ ∀ i < p.length, w.node? (p.take i) = some .dir := by
  unfold parentsOk
  rw [forM_eq_ok]
  simp only [List.mem_map, List.mem_range, forall_exists_index, and_imp, forall_apply_eq_imp_iff₂]
  refine forall₂_congr fun i _ => ?_
  split <;> simp_all

/-- A path is a directory path when it and every prefix of it are directories. -/
theorem isDirPath_eq_ok (w : Workspace) (p : AbsPath) :
    w.isDirPath p = .ok () ↔ ∀ i ≤ p.length, w.node? (p.take i) = some .dir := by
  have hlast : ∀ i ≤ p.length, (i < p.length ∨ i = p.length) := fun i hi => by omega
  unfold isDirPath
  cases hpar : w.parentsOk p with
  | error e =>
    simp only [bind, Except.bind, reduceCtorEq, false_iff]
    intro hall
    rw [(parentsOk_eq_ok w p).mpr fun i hi => hall i hi.le] at hpar
    cases hpar
  | ok u =>
    have hpar' := (parentsOk_eq_ok w p).mp hpar
    simp only [bind, Except.bind]
    constructor
    · intro h i hi
      rcases hlast i hi with hi | rfl
      · exact hpar' i hi
      · rw [List.take_length]
        split at h <;> simp_all
    · intro h
      have := h p.length le_rfl
      rw [List.take_length] at this
      simp [this]

/-- Every chain of directories of `w` is one of `w'`: a path that is a directory in `w` with all
its prefixes is a directory in `w'`. -/
def DirsKept (w w' : Workspace) : Prop :=
  ∀ q : AbsPath, (∀ i ≤ q.length, w.node? (q.take i) = some .dir) → w'.node? q = some .dir

/-- Folding steps that succeed whenever the first ones do. -/
theorem foldlM_of_step {α β ε : Type} {f g : α → β → Except ε α}
    (hfg : ∀ a b x, f a b = .ok x → g a b = .ok x) :
    ∀ (l : List β) (a x : α), l.foldlM f a = .ok x → l.foldlM g a = .ok x
  | [], _, _, hf => hf
  | b :: l, a, x, hf => by
    rw [List.foldlM_cons] at hf ⊢
    cases hb : f a b with
    | error e => rw [hb] at hf; cases hf
    | ok y =>
      rw [hb] at hf
      rw [hfg a b y hb]
      exact foldlM_of_step hfg l y x hf

section DirsKept

variable {w w' : Workspace} (h : DirsKept w w')
include h

theorem DirsKept.chain {q : AbsPath} (hq : ∀ i ≤ q.length, w.node? (q.take i) = some .dir) :
    ∀ i ≤ q.length, w'.node? (q.take i) = some .dir := fun i hi =>
  h _ fun j hj => by
    rw [List.take_take]
    exact hq _ (le_trans (min_le_right _ _) hi)

theorem DirsKept.isDirPath {q : AbsPath} (hq : w.isDirPath q = .ok ()) :
    w'.isDirPath q = .ok () :=
  (isDirPath_eq_ok w' q).mpr (h.chain ((isDirPath_eq_ok w q).mp hq))

theorem DirsKept.parentsOk {q : AbsPath} (hq : w.parentsOk q = .ok ()) :
    w'.parentsOk q = .ok () := by
  have hq' := (parentsOk_eq_ok w q).mp hq
  refine (parentsOk_eq_ok w' q).mpr fun i hi => h _ fun j hj => ?_
  rw [List.take_take]
  exact hq' _ (lt_of_le_of_lt (min_le_right _ _) hi)

/-- A path text resolves in `w'` as in `w`: `.` and `..` only ask for directories. -/
theorem DirsKept.resolve (hcwd : w'.cwd = w.cwd) {s : String} {p : AbsPath}
    (hr : w.resolve s = .ok p) : w'.resolve s = .ok p := by
  unfold Workspace.resolve at hr ⊢
  rw [hcwd]
  refine foldlM_of_step (fun cur c x hstep => ?_) _ _ _ hr
  -- each kind of component steps the same way; `.` and `..` ask for a directory path
  split at hstep
  · rw [if_pos (by assumption)]
    exact hstep
  · rw [if_neg (by assumption)]
    split at hstep
    · rw [if_pos (by assumption)]
      cases hdir : w.isDirPath cur with
      | error e => rw [hdir] at hstep; cases hstep
      | ok u => rw [hdir] at hstep; rw [h.isDirPath hdir]; exact hstep
    · rw [if_neg (by assumption)]
      split at hstep
      · rw [if_pos (by assumption)]
        cases hdir : w.isDirPath cur with
        | error e => rw [hdir] at hstep; cases hstep
        | ok u => rw [hdir] at hstep; rw [h.isDirPath hdir]; exact hstep
      · rw [if_neg (by assumption)]
        exact hstep

theorem DirsKept.target (hcwd : w'.cwd = w.cwd) {s : String} {p : AbsPath}
    (ht : w.target s = .ok p) : w'.target s = .ok p := by
  unfold Workspace.target at ht ⊢
  split at ht
  · cases ht
  · rw [if_neg (by assumption)]
    exact h.resolve hcwd ht

end DirsKept

/-- Moving what is no directory over a path that is no directory keeps every chain of
directories. -/
theorem dirsKept_rename (w : Workspace) {src dst : AbsPath} {m : Node} (n : Node)
    (hsrc : w.node? src = some m) (hm : m ≠ .dir) (hdst : w.node? dst ≠ some .dir)
    (hne : dst ≠ []) : DirsKept w ((w.drop src).put dst n) := by
  intro q hq
  have hqdir : w.node? q = some .dir := by simpa using hq q.length le_rfl
  rw [node?_put _ hne, if_neg (show q ≠ dst from fun hq' => hdst (hq' ▸ hqdir)), node?_drop]

  rw [if_neg]
  · exact hqdir
  rintro ⟨-, rfl | hbelow⟩
  · rw [hsrc] at hqdir
    exact hm (Option.some.inj hqdir)
  · -- the moved entry would be a directory on the way to `q`
    simp only [isBelow, gt_iff_lt, Bool.and_eq_true, decide_eq_true_eq, beq_iff_eq] at hbelow
    have := hq src.length hbelow.1.le
    rw [hbelow.2, hsrc] at this
    exact hm (Option.some.inj this)

/-! ### Null devices -/

/-- The only null device of a tree is `/dev/null`, as in the tree a run starts from. -/
def NullOnly (w : Workspace) : Prop := ∀ e ∈ w.nodes, e.2 = .sink → e.1 = ["dev", "null"]

theorem nullOnly_initial : initial.NullOnly := by
  simp [NullOnly, initial]

/-- Away from `/dev/null` there is no null device. -/
theorem NullOnly.node?_ne_sink {w : Workspace} (h : w.NullOnly) {p : AbsPath}
    (hp : p ≠ ["dev", "null"]) : w.node? p ≠ some .sink := by
  by_cases hnil : p = []
  · subst hnil
    simp [node?_nil]
  rw [node?_of_ne_nil _ hnil]
  intro hsink
  obtain ⟨e, hfind, he⟩ := Option.map_eq_some_iff.mp hsink
  have hkey : e.1 = p := by simpa using List.find?_some hfind
  exact hp (hkey ▸ h e (List.mem_of_find?_eq_some hfind) he)

theorem NullOnly.put {w : Workspace} (h : w.NullOnly) (p : AbsPath) {n : Node}
    (hn : n ≠ .sink) : (w.put p n).NullOnly := by
  unfold Workspace.put
  split
  · intro e he hsink
    obtain ⟨e', he', rfl⟩ := List.mem_map.mp he
    by_cases hkey : e'.1 = p
    · simp only [hkey, beq_self_eq_true, if_true] at hsink
      exact absurd hsink hn
    · simp only [hkey, beq_iff_eq, if_false] at hsink ⊢
      exact h e' he' hsink
  · intro e he hsink
    rcases List.mem_append.mp he with he | he
    · exact h e he hsink
    · rw [List.mem_singleton] at he
      subst he
      exact absurd hsink hn

/-- A directory that is made is put at its path. -/
theorem mkdir_eq_ok {w w' : Workspace} {p : AbsPath} (h : w.mkdir p = .ok w') :
    w' = w.put p .dir := by
  unfold mkdir at h
  cases hpar : w.parentsOk p with
  | error e => rw [hpar] at h; cases h
  | ok u =>
    rw [hpar] at h
    cases hn : w.node? p with
    | some n => simp [bind, Except.bind, hn] at h
    | none =>
      simp only [bind, Except.bind, hn, Except.ok.injEq] at h
      exact h.symm

theorem NullOnly.mkdirNamed {w w' : Workspace} (h : w.NullOnly) {s : String}
    (hm : (w.target s >>= w.mkdir) = .ok w') : w'.NullOnly := by
  cases ht : w.target s with
  | error e => rw [ht] at hm; cases hm
  | ok p =>
    rw [ht] at hm
    rw [mkdir_eq_ok hm]
    exact h.put p (by decide)

/-- A relation that holds of every tree with itself, composes, and holds across making one
directory by name holds across making directories by name. -/
theorem createDirsNamed_rel (R : Workspace → Workspace → Prop) (hrefl : ∀ w, R w w)
    (htrans : ∀ {a b c}, R a b → R b c → R a c)
    (hmk : ∀ {w w' : Workspace} {s : String}, (w.target s >>= w.mkdir) = .ok w' → R w w') :
    ∀ (fuel : Nat) {w w' : Workspace} {s : String}, w.createDirsNamed s fuel = .ok w' → R w w'
  | 0, w, w', s, hc => by
    rw [Workspace.createDirsNamed, Except.ok.injEq] at hc
    exact hc ▸ hrefl w
  | fuel + 1, w, w', s, hc => by
    rw [Workspace.createDirsNamed] at hc
    split at hc
    · exact (Except.ok.inj hc) ▸ hrefl w
    split at hc
    · rename_i hm
      exact (Except.ok.inj hc) ▸ hmk hm
    split at hc
    · split at hc
      · exact (Except.ok.inj hc) ▸ hrefl w
      · cases hc
    split at hc
    · cases hc
    -- the parent is made first, then the directory again
    cases hup : w.createDirsNamed _ fuel with
    | error e => rw [hup] at hc; cases hc
    | ok w₁ =>
      have h₁ := createDirsNamed_rel R hrefl htrans hmk fuel hup
      simp only [hup, bind, Except.bind] at hc
      split at hc
      · rename_i hm
        exact (Except.ok.inj hc) ▸ htrans h₁ (hmk hm)
      · split at hc
        · exact (Except.ok.inj hc) ▸ h₁
        · cases hc

/-- Making directories by name adds no null device. -/
theorem NullOnly.createDirsNamed (fuel : Nat) {w w' : Workspace} {s : String} (h : w.NullOnly)
    (hc : w.createDirsNamed s fuel = .ok w') : w'.NullOnly :=
  createDirsNamed_rel (fun a b => a.NullOnly → b.NullOnly) (fun _ h => h)
    (fun h₁ h₂ h => h₂ (h₁ h)) (fun hm h => h.mkdirNamed hm) fuel hc h

theorem NullOnly.createDirAllNamed {w w' : Workspace} (h : w.NullOnly) {s : String}
    (hc : w.createDirAllNamed s = .ok w') : w'.NullOnly :=
  NullOnly.createDirsNamed _ h hc

/-! ### Writing and renaming -/

@[simp] theorem cwd_put (w : Workspace) (p : AbsPath) (n : Node) : (w.put p n).cwd = w.cwd := by
  unfold put
  split <;> rfl

@[simp] theorem cwd_drop (w : Workspace) (p : AbsPath) : (w.drop p).cwd = w.cwd := rfl

/-- A write that succeeds where there is no null device puts a file there. -/
theorem write_eq_ok {w w' : Workspace} {p : AbsPath} {bs : List UInt8}
    (h : w.write p bs = .ok w') (hsink : w.node? p ≠ some .sink) :
    w.parentsOk p = .ok () ∧ w' = w.put p (.file bs) := by
  unfold write at h
  cases hpar : w.parentsOk p with
  | error e => simp [hpar, bind, Except.bind] at h
  | ok u =>
    refine ⟨rfl, ?_⟩
    cases hn : w.node? p with
    | none => simp_all [bind, Except.bind]
    | some n => cases n <;> simp_all [bind, Except.bind]

theorem lookup_eq_ok {w : Workspace} {p : AbsPath} {o : Option Node} (h : w.lookup p = .ok o) :
    w.parentsOk p = .ok () ∧ o = w.node? p := by
  unfold lookup at h
  cases hpar : w.parentsOk p with
  | error e => simp [hpar, bind, Except.bind] at h
  | ok u => simp_all [bind, Except.bind, pure, Except.pure]

/-- A rename that succeeds moved what was no directory over a path that was no directory. -/
theorem rename_eq_ok {w w' : Workspace} {src dst : AbsPath} {n : Node}
    (hsrc : w.node? src = some n) (h : w.rename src dst = .ok w') :
    n ≠ .dir ∧ w.parentsOk dst = .ok () ∧ w.node? dst ≠ some .dir ∧
      w' = (w.drop src).put dst n := by
  unfold rename at h
  cases hps : w.parentsOk src with
  | error e => simp [hps, bind, Except.bind] at h
  | ok u =>
    cases hpd : w.parentsOk dst with
    | error e => simp [hps, hpd, bind, Except.bind] at h
    | ok u' =>
      cases hd : w.node? dst with
      | none => cases n <;> simp_all [bind, Except.bind]
      | some m => cases n <;> cases m <;> simp_all [bind, Except.bind]

/-- A rename over a path text that succeeds moved what was no directory to the path the text
names, which does not end in a separator and was no directory. -/
theorem renameOnto_eq_ok {w w' : Workspace} {src : AbsPath} {s : String} {n : Node}
    (hsrc : w.node? src = some n) (h : w.renameOnto src s = .ok w') :
    ∃ dst, w.target s = .ok dst ∧ s.endsWith "/" = false ∧ w.parentsOk dst = .ok () ∧
      w.node? dst ≠ some .dir ∧ dst ≠ [] ∧ w' = (w.drop src).put dst n := by
  unfold renameOnto at h
  cases ht : w.target s with
  | error e => simp [ht, bind, Except.bind] at h
  | ok dst =>
    cases hl : w.lookup dst.dropLast with
    | error e => simp [ht, hl, bind, Except.bind] at h
    | ok o =>
      cases hls : w.lookup src with
      | error e =>
        simp [ht, hl, hls, bind, Except.bind, throw, throwThe, MonadExceptOf.throw] at h
        split at h <;> cases h
      | ok o' =>
        obtain ⟨-, rfl⟩ := lookup_eq_ok hls
        simp [ht, hl, hls, hsrc, bind, Except.bind, throw, throwThe, MonadExceptOf.throw, pure,
          Except.pure] at h
        -- neither a name ending in dots nor one ending in a separator
        split at h
        · cases h
        split at h
        · cases h
        rename_i hslash
        obtain ⟨hn, hpar, hdst, rfl⟩ := rename_eq_ok hsrc h
        refine ⟨dst, rfl, by simpa [hn] using hslash, hpar, hdst, ?_, rfl⟩
        rintro rfl
        exact hdst rfl

/-- After a rename over a path text succeeds, the text leads to what was moved, with every
directory on the way there. -/
theorem renameOnto_lands {w w' : Workspace} {src : AbsPath} {s : String} {n : Node}
    (hsrc : w.node? src = some n) (hn : n ≠ .dir) (h : w.renameOnto src s = .ok w') :
    ∃ p, w.target s = .ok p ∧ w'.follow s = .ok p ∧ w'.parentsOk p = .ok () ∧
      w'.node? p = some n := by
  obtain ⟨dst, htarget, hslash, hpar, hdst, hne, rfl⟩ := renameOnto_eq_ok hsrc h
  -- the move keeps the directories the text passes through
  have hkept := dirsKept_rename _ n hsrc hn hdst hne
  have hfollow : ((w.drop src).put dst n).follow s = .ok dst := by
    unfold follow
    rw [hkept.target (by simp) htarget]
    simp [hslash, bind, Except.bind, pure, Except.pure]
  refine ⟨dst, htarget, hfollow, hkept.parentsOk hpar, ?_⟩
  rw [node?_put _ hne, if_pos rfl]

end Workspace

namespace Coverage

open Workspace

/-! ### Saving, then loading -/

/-- A save that succeeds made the directory, wrote the temporary file in it and moved it over
the target. -/
theorem Snapshot.save_eq_ok {w w' : Workspace} {path : String} {fmt : Format} {s : Snapshot}
    (h : s.save w path fmt = .ok w') : ∃ dir w₁ dirPath w₂,
      w.createDirAllNamed dir = .ok w₁ ∧ w₁.resolve dir = .ok dirPath ∧
      w₁.write (dirPath ++ [tempName w₁ dirPath]) (s.encode fmt) = .ok w₂ ∧
      w₂.renameOnto (dirPath ++ [tempName w₁ dirPath]) path = .ok w' := by
  unfold Snapshot.save at h
  simp only [bind, Except.bind, pure, Except.pure, throw, throwThe, MonadExceptOf.throw] at h
  split at h
  · rename_i w₁ hc
    split at h
    · rename_i dirPath hr
      split at h
      · rename_i w₂ hw
        split at h
        · rename_i w₃ hm
          cases h
          exact ⟨_, w₁, dirPath, w₂, hc, hr, hw, hm⟩
        · cases h
      · cases h
    · cases h
  · cases h

/-- A snapshot is never written as no bytes. -/
theorem Snapshot.encode_ne_nil (s : Snapshot) (fmt : Format) : s.encode fmt ≠ [] := by
  cases fmt with
  | json =>
    obtain ⟨b, rest, hhead, -⟩ := Json.head_prettyAt s.plain_toJson 0
    intro hnil
    rw [Json.bytes, show Json.prettyAt 0 s.toJson = s.toJson.pretty from rfl,
      show Utf8.encode s.toJson.pretty = s.encode .json from rfl, hnil] at hhead
    cases hhead
  | bincode =>
    exact List.ne_nil_of_length_pos (by simp [Snapshot.encode, Binary.encode, Binary.list])

/-- A path text that leads to a file holding a snapshot's bytes loads as the snapshot, provided,
in the binary form, its bytes number fewer than `2 ^ 64`. -/
theorem Snapshot.load_of_file {w : Workspace} {path : String} {fmt : Format} {s : Snapshot}
    {p : AbsPath} (hfollow : w.follow path = .ok p) (hpar : w.parentsOk p = .ok ())
    (hnode : w.node? p = some (.file (s.encode fmt)))
    (hfit : fmt = .bincode → (s.encode fmt).length < 2 ^ 64) :
    Snapshot.load w path fmt = .ok s := by
  unfold Snapshot.load
  simp only [hfollow, Workspace.isFile, hpar, hnode, Workspace.read, bind, Except.bind,
    Bool.not_true, Bool.false_eq_true, if_false]
  -- the bytes read are the snapshot's, never empty, and they decode back
  split
  · rename_i heq
    cases heq
  · rename_i heq
    exact absurd (Except.ok.inj heq) (Snapshot.encode_ne_nil s fmt)
  · rename_i heq
    obtain rfl := Except.ok.inj heq
    cases fmt with
    | json => simp [Snapshot.ofJson?_parse?_encode]
    | bincode => simp [Binary.decode?_encode s (hfit rfl), Snapshot.encode]

/-- When a save succeeds in a tree whose only null device is `/dev/null`, its path text leads to
a file holding the snapshot's bytes. -/
theorem Snapshot.save_target {w w' : Workspace} {path : String} {fmt : Format} {s : Snapshot}
    (hnull : w.NullOnly) (hsave : s.save w path fmt = .ok w') :
    ∃ p, w'.follow path = .ok p ∧ w'.parentsOk p = .ok () ∧
      w'.node? p = some (.file (s.encode fmt)) := by
  obtain ⟨dir, w₁, dirPath, w₂, hdirs, -, hwrite, hmove⟩ := Snapshot.save_eq_ok hsave
  -- the temporary file is no null device, so it is written as a file
  have htempNull : dirPath ++ [tempName w₁ dirPath] ≠ ["dev", "null"] := fun h => by
    have hname : tempName w₁ dirPath = "null" := by simpa using congrArg List.getLast? h
    have hhead := congrArg (fun t => t.toList.head?) hname
    simp [tempName, Workspace.freshName] at hhead
  obtain ⟨-, rfl⟩ := write_eq_ok hwrite
    ((hnull.createDirAllNamed hdirs).node?_ne_sink htempNull)
  have htemp : (w₁.put (dirPath ++ [tempName w₁ dirPath]) (.file (s.encode fmt))).node?
      (dirPath ++ [tempName w₁ dirPath]) = some (.file (s.encode fmt)) := by
    rw [node?_put _ (by simp), if_pos rfl]
  -- the rename moves it over the target and keeps every directory on the way there
  obtain ⟨dst, -, hfollow, hpar, hnode⟩ := renameOnto_lands htemp (by simp) hmove
  exact ⟨dst, hfollow, hpar, hnode⟩

/-- **A saved snapshot loads back.** When a save succeeds in a tree whose only null device is
`/dev/null`, loading the same path text gives the snapshot back, provided its bytes number
fewer than `2 ^ 64`. -/
theorem Snapshot.load_save {w w' : Workspace} {path : String} {fmt : Format} {s : Snapshot}
    (hnull : w.NullOnly) (hfit : (s.encode fmt).length < 2 ^ 64)
    (hsave : s.save w path fmt = .ok w') : Snapshot.load w' path fmt = .ok s := by
  obtain ⟨p, hfollow, hpar, hnode⟩ := Snapshot.save_target hnull hsave
  exact Snapshot.load_of_file hfollow hpar hnode fun _ => hfit


/-! ### Saving into the tree a run starts from -/

section InitialTree

open Workspace

theorem splitOn_slash_dot : ".".splitOn "/" = ["."] := by
  rw [String.splitOn, if_neg (by decide), String.splitOnAux, if_neg (by decide), if_neg (by decide),
    String.splitOnAux, if_pos (by decide)]
  decide

theorem splitOn_slash_snap : "snap".splitOn "/" = ["snap"] := by
  rw [String.splitOn, if_neg (by decide)]
  -- one step per character, none of them a separator
  repeat rw [String.splitOnAux, if_neg (by decide), if_neg (by decide)]
  rw [String.splitOnAux, if_pos (by decide)]
  decide

theorem endsWith_slash_eq_false {s : String} (h : ¬ ['/'] <:+ s.toList) : s.endsWith "/" = false := by
  rw [← String.endsWith_toSlice, String.Slice.endsWith_string_eq_false_iff, String.copy_toSlice]
  exact h

theorem resolve_dot_initial : initial.resolve "." = .ok ["work"] := by
  unfold Workspace.resolve
  rw [show (".".startsWith "/") = false by simp, splitOn_slash_dot]
  rfl

theorem createDirAllNamed_dot_initial : initial.createDirAllNamed "." = .ok initial := by
  have htarget : initial.target "." = .ok ["work"] := by
    unfold Workspace.target
    rw [if_neg (by decide), resolve_dot_initial]
  have hfollow : initial.follow "." = .ok ["work"] := by
    unfold follow
    rw [htarget]
    simp only [bind, Except.bind, endsWith_slash_eq_false (s := ".") (by decide)]
    rfl
  -- the working directory is there already
  unfold createDirAllNamed
  rw [show ".".length + 1 = 1 + 1 from rfl, createDirsNamed, if_neg (by decide), htarget]
  simp only [isDirText, hfollow]
  rfl

theorem resolve_snap {w : Workspace} (hw : w.cwd = ["work"]) :
    w.resolve "snap" = .ok ["work", "snap"] := by
  unfold Workspace.resolve
  rw [show ("snap".startsWith "/") = false by
    rw [String.startsWith_string_eq_false_iff]; decide, splitOn_slash_snap, hw]
  rfl

/-- Every snapshot, in either form, saves at `snap` in the tree a run starts from. -/
theorem Snapshot.save_initial_snap (s : Snapshot) (fmt : Format) :
    s.save initial "snap" fmt = .ok (((initial.put ["work", tempName initial ["work"]] (.file (s.encode fmt))).drop
      ["work", tempName initial ["work"]]).put ["work", "snap"] (.file (s.encode fmt))) := by
  have hmove : (initial.put ["work", tempName initial ["work"]] (.file (s.encode fmt))).renameOnto
      ["work", tempName initial ["work"]] "snap" = .ok (((initial.put ["work", tempName initial ["work"]] (.file (s.encode fmt))).drop
        ["work", tempName initial ["work"]]).put ["work", "snap"] (.file (s.encode fmt))) := by
    unfold renameOnto
    rw [Workspace.target, if_neg (by decide), resolve_snap (by simp; rfl)]
    simp only [endsInDots, splitOn_slash_snap, endsWith_slash_eq_false (s := "snap") (by decide)]
    rfl
  unfold Snapshot.save
  rw [show PathText.parent? "snap" = some "" by decide]
  simp only [show "".isEmpty = true from rfl, if_true, createDirAllNamed_dot_initial,
    resolve_dot_initial, bind, Except.bind, pure, Except.pure]
  rw [show ["work"] ++ [tempName initial ["work"]] = ["work", tempName initial ["work"]] from rfl,
    show initial.write ["work", tempName initial ["work"]] (s.encode fmt) =
      .ok (initial.put ["work", tempName initial ["work"]] (.file (s.encode fmt))) from rfl]
  simp only [hmove]

end InitialTree

/-- **A saved store opens back.**
 A well-formed store saved into a tree whose only null device
is `/dev/null`, in bytes fewer than `2 ^ 64`, opens from the same path text as itself. -/
theorem Store.openAt_save {store : Store} (hs : store.WF) {w w' : Workspace} {path : String}
    {fmt : Format} (hnull : w.NullOnly) (hfit : (store.snapshot.encode fmt).length < 2 ^ 64)
    (hsave : store.snapshot.save w path fmt = .ok w') : Store.openAt w' path fmt = .ok store := by
  unfold Store.openAt
  rw [Snapshot.load_save hnull hfit hsave]
  simp [bind, Except.bind, pure, Except.pure, hs.restore_snapshot_empty]

/-! ### Snapshots persist in both forms -/

/-- **A snapshot persists in both forms.** Saved as JSON into a tree whose only null device is
`/dev/null`, it loads back from the same path text; saved there in the binary form, it loads
back while its bytes number fewer than `2 ^ 64`. Its binary form followed by any bytes reads
back as it while the whole is shorter than `2 ^ 64` bytes, bytes it is read from start with its
binary form, and its pretty JSON text reads back as it. -/
theorem Snapshot.persists_in_both_forms (s : Snapshot) :
    (∀ (w w' : Workspace) (path : String), w.NullOnly → s.save w path .json = .ok w' →
      Snapshot.load w' path .json = .ok s) ∧
    (∀ (w w' : Workspace) (path : String), w.NullOnly → (Binary.encode s).length < 2 ^ 64 →
      s.save w path .bincode = .ok w' → Snapshot.load w' path .bincode = .ok s) ∧
    (∀ t, (Binary.encode s ++ t).length < 2 ^ 64 →
      Binary.decode? (Binary.encode s ++ t) = some s) ∧
    (∀ bs, Binary.decode? bs = some s → Binary.encode s <+: bs) ∧
    (Json.parse? (s.encode .json)).bind Snapshot.ofJson? = some s := by
  refine ⟨fun w w' path hnull hsave => ?_, fun w w' path hnull hfit hsave => ?_,
    Binary.decode?_encode_append s, fun _ => Binary.encode_prefix_of_decode?,
    Snapshot.ofJson?_parse?_encode s⟩
  · -- the JSON form needs no bound on its length
    obtain ⟨p, hfollow, hpar, hnode⟩ := Snapshot.save_target hnull hsave
    exact Snapshot.load_of_file hfollow hpar hnode fun h => nomatch h
  · exact Snapshot.load_save hnull hfit hsave

/-- A snapshot of one covered pair and one body, saved in the binary form at `snap` in the tree
a run starts from, loads back. -/
theorem Snapshot.persists_at_snap :
    let s : Snapshot := ⟨[⟨"T", [⟨"T.F", "T.Set", "T.Get", true⟩], ["test"]⟩]⟩
    initial.NullOnly ∧ (Binary.encode s).length < 2 ^ 64 ∧
      Snapshot.load (((initial.put ["work", tempName initial ["work"]] (.file (s.encode .bincode))).drop
        ["work", tempName initial ["work"]]).put ["work", "snap"] (.file (s.encode .bincode))) "snap" .bincode =
        .ok s := by
  intro s
  have hfit : (Binary.encode s).length < 2 ^ 64 := by
    simp [s, Binary.encode, Binary.list, Binary.typeEntry, Binary.pairEntry, Binary.str,
      Utf8.encode_eq_flatMap, Char.utf8Size]
  exact ⟨nullOnly_initial, hfit, (Snapshot.persists_in_both_forms s).2.1 _ _ _ nullOnly_initial
    hfit (Snapshot.save_initial_snap s .bincode)⟩

end Coverage

end DefUseCoverage



