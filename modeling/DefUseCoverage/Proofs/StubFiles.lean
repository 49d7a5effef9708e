import Mathlib
import DefUseCoverage.Proofs.SnapshotFile
import DefUseCoverage.Proofs.StubDelivery
/-! # Stub files are written or wait

  With a stub writer, every cycle writes the stubs whose files could not be written before and
  then the stubs it emits, and keeps, in order, those whose write failed. A write that finds
  something at the stub's path already takes it for the stub's file.

  - A stub's path is the writer's root, the type's directory and a name ending in `.put`; the
    path it resolves to ends in such a name (`resolve_endsInPut`), so it is never one of the
    temporary files that writes and saves go through.
  - `KeepsPut w w'`: `w'` keeps the working directory, every chain of directories and an entry
    at every path ending in `.put` that has one. Making directories, writing, renaming and
    saving keep it, and so does an engine that removes nothing (`RemovesNothing`); a stub
    that stands at its path in `w` stands there in `w'` (`KeepsPut.present`).
  - A write that does not fail leaves something at the stub's path (`write_spec`). A batch
    keeps, as the stubs waiting to be written, exactly those whose write failed, in their order
    (`writeStubs_some`); a cycle counts them as its write failures (`cycle_files`).

  Main statement: `stubs_written_or_waiting`. Along every run with a stub writer and an engine
  that removes nothing, every stub emitted so far stands at its path or waits to be written,
  and each cycle counts as write failures the stubs it keeps waiting.

  What stands at the path may be a directory that was there before: the write takes any entry
  for the stub's file.
-/

namespace DefUseCoverage

namespace Workspace

/-! ### The name a stub's path ends in -/

/-- Splitting on the one-byte separator `/` is splitting at each `/` character. -/
theorem splitOnAux_slash (s : String) (b i : String.Pos.Raw) (r : List String) :
    String.splitOnAux s "/" b i 0 r = String.splitAux s (· == '/') b i r := by
  have h0 : (0 : String.Pos.Raw).get "/" = '/' := by decide
  fun_induction String.splitAux s (· == '/') b i r with
  | case1 b i r hend => rw [String.splitOnAux, if_pos hend]
  | case2 b i r hend _ hslash i' ih =>
    -- a separator ends a piece, which stops where the separator starts
    have h1 : ((0 : String.Pos.Raw).next "/").atEnd "/" = true := by decide
    have hback : (i.next s).unoffsetBy ((0 : String.Pos.Raw).next "/") = i := by
      have hc : i.get s = '/' := by simpa using hslash
      simp [String.Pos.Raw.next, String.Pos.Raw.unoffsetBy, hc, h0]
    rw [String.splitOnAux, if_neg hend]
    simp only [h0, hslash, if_true, h1]
    rw [hback]
    exact ih
  | case3 b i r hend _ hslash ih =>
    have hzero : i.unoffsetBy 0 = i := by simp [String.Pos.Raw.unoffsetBy]
    rw [String.splitOnAux, if_neg hend]
    simp only [h0, hslash, Bool.false_eq_true, if_false]
    rw [hzero]
    exact ih

/-- A text split on `/` is its characters split at each `/`. -/
theorem splitOn_slash (s : String) :
    s.splitOn "/" = (s.toList.splitOnP (· == '/')).map String.ofList := by
  rw [String.splitOn, if_neg (by decide), splitOnAux_slash]
  exact String.splitToList_of_valid s _

/-- Items that are no separator, put at the end of a list, end its last piece. -/
theorem splitOnP_append_of_forall {α : Type} (p : α → Bool) {m : List α}
    (hm : ∀ x ∈ m, p x = false) : ∀ l : List α, ∃ pre c, (l ++ m).splitOnP p = pre ++ [c ++ m]
  | [] => ⟨[], [], by simp [List.splitOnP_eq_singleton hm]⟩
  | x :: l => by
    obtain ⟨pre, c, h⟩ := splitOnP_append_of_forall p hm l
    rw [List.cons_append, List.splitOnP_cons_eq_if_modifyHead, h]
    split
    · exact ⟨[] :: pre, c, rfl⟩
    · cases pre with
      | nil => exact ⟨[], x :: c, rfl⟩
      | cons y ys => exact ⟨(x :: y) :: ys, c, rfl⟩

/-- The last name of a path ends in `.put`, as the name of a stub's file does. -/
def EndsInPut (p : AbsPath) : Prop := ∃ q c, p = q ++ [String.ofList (c ++ ".put".toList)]

/-- A text ending in `.put` resolves to a path whose last name ends in `.put`. -/
theorem resolve_endsInPut {w : Workspace} {s : String} (hs : ∃ l, s.toList = l ++ ".put".toList)
    {p : AbsPath} (hr : w.resolve s = .ok p) : EndsInPut p := by
  obtain ⟨l, hl⟩ := hs
  obtain ⟨pre, c, hsplit⟩ := splitOnP_append_of_forall (· == '/') (m := ".put".toList)
    (by simp) l
  -- the last name is a plain one: neither empty nor `.` nor `..`, which are all shorter
  have hlong : ∀ t : String, t.toList.length < 4 → String.ofList (c ++ ".put".toList) ≠ t := by
    intro t ht h
    have hlen := congrArg (fun t : String => t.toList.length) h
    simp at hlen
    omega
  have hempty : (String.ofList (c ++ ".put".toList)).isEmpty = false := by
    cases h : (String.ofList (c ++ ".put".toList)).isEmpty
    · rfl
    · exact absurd (String.isEmpty_iff.mp h) (hlong "" (by simp))
  have hdot := beq_eq_false_iff_ne.mpr (hlong "." (by simp))
  have hdots := beq_eq_false_iff_ne.mpr (hlong ".." (by simp))
  unfold resolve at hr
  rw [splitOn_slash, hl, hsplit, List.map_append, List.foldlM_append] at hr
  simp only [List.map_cons, List.map_nil, List.foldlM_cons, List.foldlM_nil, hempty, hdot,
    hdots, Bool.false_eq_true, if_false, bind, Except.bind] at hr
  split at hr
  · cases hr
  · rename_i cur _
    simp only [pure, Except.pure, Except.ok.injEq] at hr
    exact ⟨cur, c, hr.symm⟩

/-- A name ending in `.put` is not the name of a temporary file: `.tmp_put`, which stub writes
go through, or `.tmp_snapshot`, which saves go through, padded with `_`. -/
theorem not_endsInPut_temp (d : AbsPath) {t stem : String}
    (hstem : stem = ".tmp_put" ∨ stem = ".tmp_snapshot") (k : Nat)
    (ht : t = stem ++ String.ofList (List.replicate k '_')) : ¬EndsInPut (d ++ [t]) := by
  rintro ⟨q, c, h⟩
  subst ht
  have hlast := congrArg List.getLast? h
  simp only [List.getLast?_append, List.getLast?_singleton, Option.some_or,
    Option.some.injEq] at hlast
  cases k with
  | zero =>
    -- the names end differently in their last four characters
    have hend := congrArg (fun s : String => s.toList.reverse.take 4) hlast
    rcases hstem with rfl | rfl <;> simp at hend
  | succ k =>
    -- a padded name ends in `_`
    have hchar := congrArg (fun s : String => s.toList.reverse.head?) hlast
    simp only [String.toList_append, String.toList_ofList, List.reverse_append,
      List.reverse_replicate, List.head?_append, List.head?_replicate] at hchar
    simp at hchar

/-! ### What a change of the tree keeps -/

/-- `w'` keeps what may be a stub's file in `w`: the same working directory, every chain of
directories, and an entry at every path ending in `.put` whose directories are there. -/
structure KeepsPut (w w' : Workspace) : Prop where
  cwd : w'.cwd = w.cwd
  dirs : DirsKept w w'
  entries : ∀ p, EndsInPut p → w.parentsOk p = .ok () → (w.node? p).isSome →
    (w'.node? p).isSome

theorem KeepsPut.refl (w : Workspace) : KeepsPut w w :=
  ⟨rfl, fun q hq => by simpa using hq q.length le_rfl, fun _ _ _ h => h⟩

theorem KeepsPut.trans {w₁ w₂ w₃ : Workspace} (h₁ : KeepsPut w₁ w₂) (h₂ : KeepsPut w₂ w₃) :
    KeepsPut w₁ w₃ :=
  ⟨h₂.cwd.trans h₁.cwd, fun q hq => h₂.dirs q (h₁.dirs.chain hq),
    fun p hp hpar hn => h₂.entries p hp (h₁.dirs.parentsOk hpar) (h₁.entries p hp hpar hn)⟩

/-- `w'` removes nothing of `w`: the same working directory, every directory still one, and an
entry wherever `w` has one. -/
structure RemovesNothing (w w' : Workspace) : Prop where
  cwd : w'.cwd = w.cwd
  dirs : ∀ p, w.node? p = some .dir → w'.node? p = some .dir
  entries : ∀ p, (w.node? p).isSome → (w'.node? p).isSome

theorem RemovesNothing.refl (w : Workspace) : RemovesNothing w w :=
  ⟨rfl, fun _ h => h, fun _ h => h⟩

theorem RemovesNothing.trans {w₁ w₂ w₃ : Workspace} (h₁ : RemovesNothing w₁ w₂)
    (h₂ : RemovesNothing w₂ w₃) : RemovesNothing w₁ w₃ :=
  ⟨h₂.cwd.trans h₁.cwd, fun p h => h₂.dirs p (h₁.dirs p h), fun p h => h₂.entries p (h₁.entries p h)⟩

theorem RemovesNothing.keepsPut {w w' : Workspace} (h : RemovesNothing w w') : KeepsPut w w' :=
  ⟨h.cwd, fun q hq => h.dirs q (by simpa using hq q.length le_rfl), fun p _ _ hn => h.entries p hn⟩

/-- Putting an entry where no directory stands removes nothing. -/
theorem removesNothing_put {w : Workspace} {q : AbsPath} (hq : q ≠ []) (hdir : w.node? q ≠ some .dir)
    (n : Node) : RemovesNothing w (w.put q n) := by
  refine ⟨cwd_put .., fun p hp => ?_, fun p hp => ?_⟩
  · rw [node?_put _ hq, if_neg (show p ≠ q from fun hpq => hdir (hpq ▸ hp))]
    exact hp
  · rw [node?_put _ hq]
    split <;> simp_all

/-- Making a directory removes nothing: it stands where nothing stood. -/
theorem mkdir_removesNothing {w w' : Workspace} {p : AbsPath} (h : w.mkdir p = .ok w') :
    RemovesNothing w w' := by
  have hnone : w.node? p = none := by
    unfold mkdir at h
    cases hn : w.node? p with
    | none => rfl
    | some n => cases hpar : w.parentsOk p <;> simp_all [bind, Except.bind]
  have hne : p ≠ [] := by
    rintro rfl
    simp [node?_nil] at hnone
  rw [mkdir_eq_ok h]
  exact removesNothing_put hne (by simp [hnone]) .dir

/-- Making directories by name removes nothing. -/
theorem createDirAllNamed_removesNothing {w w' : Workspace} {s : String}
    (h : w.createDirAllNamed s = .ok w') : RemovesNothing w w' := by
  refine createDirsNamed_rel RemovesNothing RemovesNothing.refl (fun h₁ h₂ => h₁.trans h₂)
    (fun {w w' s} hm => ?_) _ h
  cases ht : w.target s with
  | error e => rw [ht] at hm; cases hm
  | ok p =>
    rw [ht] at hm
    exact mkdir_removesNothing hm

/-- A write that succeeds leaves a file of the bytes at its path, or a null device there as it
was; it removes nothing. -/
theorem write_cases {w w' : Workspace} {p : AbsPath} {bs : List UInt8}
    (h : w.write p bs = .ok w') :
    RemovesNothing w w' ∧ ∃ n, n ≠ .dir ∧ w'.node? p = some n := by
  by_cases hsink : w.node? p = some .sink
  · -- writing to a null device changes nothing
    have hsame : w' = w := by
      unfold write at h
      cases hpar : w.parentsOk p <;> simp_all [bind, Except.bind]
    subst hsame
    exact ⟨.refl w', .sink, by simp, hsink⟩
  · obtain ⟨hpar, rfl⟩ := write_eq_ok h hsink
    have hne : p ≠ [] := by
      rintro rfl
      unfold write at h
      simp [hpar, node?_nil, bind, Except.bind] at h
    have hdir : w.node? p ≠ some .dir := by
      intro hd
      unfold write at h
      simp [hpar, hd, bind, Except.bind] at h
    exact ⟨removesNothing_put hne hdir _, .file bs, by simp, by rw [node?_put _ hne, if_pos rfl]⟩

/-- Dropping what is no directory, at a path not ending in `.put`, keeps what may be a stub's
file. -/
theorem keepsPut_drop {w : Workspace} {q : AbsPath} (hq : ¬EndsInPut q)
    (hdir : w.node? q ≠ some .dir) : KeepsPut w (w.drop q) := by
  -- nothing below `q` has its directories, `q` being no directory
  have hbelow : ∀ p, isBelow p q = true → w.node? (p.take q.length) = some .dir → False := by
    intro p hb hp
    simp only [isBelow, gt_iff_lt, Bool.and_eq_true, decide_eq_true_eq, beq_iff_eq] at hb
    rw [hb.2] at hp
    exact hdir hp
  refine ⟨cwd_drop .., fun d hd => ?_, fun p hp hpar hn => ?_⟩
  · have hddir : w.node? d = some .dir := by simpa using hd d.length le_rfl
    rw [node?_drop, if_neg]
    · exact hddir
    rintro ⟨-, rfl | hb⟩
    · exact hdir hddir
    · refine hbelow d hb (hd _ ?_)
      simp only [isBelow, gt_iff_lt, Bool.and_eq_true, decide_eq_true_eq] at hb
      exact hb.1.le
  · rw [node?_drop, if_neg]
    · exact hn
    rintro ⟨-, rfl | hb⟩
    · exact hq hp
    · refine hbelow p hb ((parentsOk_eq_ok w p).mp hpar _ ?_)
      simp only [isBelow, gt_iff_lt, Bool.and_eq_true, decide_eq_true_eq] at hb
      exact hb.1

/-- Removing what is no directory, at a path not ending in `.put`, keeps what may be a stub's
file. -/
theorem keepsPut_remove {w w' : Workspace} {q : AbsPath} (hq : ¬EndsInPut q)
    (h : w.remove q = .ok w') : KeepsPut w w' := by
  unfold remove at h
  cases hpar : w.parentsOk q with
  | error e => simp [hpar, bind, Except.bind] at h
  | ok u =>
    cases hn : w.node? q with
    | none => simp [hpar, hn, bind, Except.bind] at h
    | some n =>
      cases n <;> simp only [hpar, hn, bind, Except.bind, reduceCtorEq, Except.ok.injEq] at h
      all_goals
        subst h
        exact keepsPut_drop hq (by simp [hn])

/-- Moving what is no directory from a path not ending in `.put` keeps what may be a stub's
file. -/
theorem keepsPut_renameOnto {w w' : Workspace} {src : AbsPath} {s : String} {n : Node}
    (hsrc : w.node? src = some n) (hn : n ≠ .dir) (hq : ¬EndsInPut src)
    (h : w.renameOnto src s = .ok w') : KeepsPut w w' := by
  obtain ⟨dst, -, -, -, hdst, hne, rfl⟩ := renameOnto_eq_ok hsrc h
  refine (keepsPut_drop hq (by simp [hsrc, hn])).trans (removesNothing_put hne ?_ n).keepsPut
  rw [node?_drop]
  split
  · simp
  · exact hdst

end Workspace

namespace StubWriter

open Workspace

variable (sw : StubWriter)

/-! ### Where a stub's file goes -/

/-- A joined path text ends as its last part does. -/
theorem join_toList {a b : String} {m : List Char} (hb : ∃ l, b.toList = l ++ m) :
    ∃ l, (PathText.join a b).toList = l ++ m := by
  obtain ⟨l, hl⟩ := hb
  unfold PathText.join
  split_ifs
  · exact ⟨l, hl⟩
  · exact ⟨l, hl⟩
  · exact ⟨a.toList ++ l, by simp [hl]⟩
  · exact ⟨a.toList ++ ['/'] ++ l, by simp [hl]⟩

/-- The path text of a stub's file ends in `.put`. -/
theorem pathFor_toList (ty body : String) :
    ∃ l, (sw.pathFor ty body).toList = l ++ ".put".toList :=
  join_toList ⟨("put_" ++ Md5.hexOfString body).toList, by simp⟩

/-- The path text of a stub's file names a file, not a directory by a final separator. -/
theorem pathFor_endsWith (ty body : String) : (sw.pathFor ty body).endsWith "/" = false := by
  obtain ⟨l, hl⟩ := sw.pathFor_toList ty body
  refine Coverage.endsWith_slash_eq_false fun hsuf => ?_
  rw [hl] at hsuf
  have hlast := congrArg List.getLast? (List.suffix_iff_eq_append.mp hsuf)
  simp at hlast

/-- The text of a stub's file, in a tree, leads to a path ending in `.put`: the path the text
names with the tree's working directory. -/
theorem follow_pathFor {w : Workspace} {ty body : String} {p : AbsPath}
    (h : w.follow (sw.pathFor ty body) = .ok p) :
    w.target (sw.pathFor ty body) = .ok p ∧ EndsInPut p := by
  have htarget : w.target (sw.pathFor ty body) = .ok p := by
    unfold follow at h
    cases ht : w.target (sw.pathFor ty body) with
    | error e => simp [ht, bind, Except.bind] at h
    | ok q => simp_all [bind, Except.bind, pure, Except.pure, sw.pathFor_endsWith]
  have hres : w.resolve (sw.pathFor ty body) = .ok p := by
    unfold target at htarget
    split at htarget
    · cases htarget
    · exact htarget
  exact ⟨htarget, resolve_endsInPut (sw.pathFor_toList ty body) hres⟩

/-- Something stands at the path of a stub's file in a tree: the text leads to a path, and an
entry stands there. -/
def Present (w : Workspace) (r : PutRecord) : Prop :=
  ∃ p, w.follow (sw.pathFor r.declaringType r.body) = .ok p ∧ w.pathExists p = true

end StubWriter

namespace Workspace

theorem pathExists_eq_true {w : Workspace} {p : AbsPath} :
    w.pathExists p = true ↔ w.parentsOk p = .ok () ∧ (w.node? p).isSome := by
  cases hpar : w.parentsOk p <;> cases hn : w.node? p <;> simp [pathExists, hpar, hn]

/-- **A stub's file survives what keeps `.put` entries.** Something at the path of a stub's file
in `w` stands there in `w'`. -/
theorem KeepsPut.present {w w' : Workspace} (h : KeepsPut w w') {sw : StubWriter}
    {r : PutRecord} (hp : sw.Present w r) : sw.Present w' r := by
  obtain ⟨p, hfollow, hex⟩ := hp
  obtain ⟨htarget, hend⟩ := sw.follow_pathFor hfollow
  obtain ⟨hpar, hn⟩ := pathExists_eq_true.mp hex
  -- the text names the same path in `w'`, and the entry there stays
  have htarget' := h.dirs.target h.cwd htarget
  refine ⟨p, ?_, pathExists_eq_true.mpr ⟨h.dirs.parentsOk hpar, h.entries p hend hpar hn⟩⟩
  unfold follow
  simp [htarget', sw.pathFor_endsWith, bind, Except.bind, pure, Except.pure]

end Workspace

namespace StubWriter

open Workspace

variable (sw : StubWriter)

/-! ### Writing stubs -/

/-- **One stub's write.** It keeps every `.put` entry, and when it does not fail something stands
at the stub's path afterwards: found there, or the stub's file moved into place. -/
theorem write_spec (w : Workspace) (r : PutRecord) :
    KeepsPut w (sw.write w r).2 ∧
      ((sw.write w r).1.isOk = true → sw.Present (sw.write w r).2 r) := by
  unfold StubWriter.write
  dsimp only
  split
  case' h_1 p hfollow =>
    split
    case isTrue hex =>
      -- something stands at the path already, and the tree stays
      exact ⟨.refl w, fun _ => ⟨p, hfollow, hex⟩⟩
  case' h_2 => simp only [Bool.false_eq_true, if_false]
  -- nothing stands at the path: the directory is made and the stub's file moved in
  all_goals
    split
    · exact ⟨.refl w, fun h => (Bool.false_ne_true h).elim⟩
    · rename_i w₁ hdirs
      have h₁ := (createDirAllNamed_removesNothing hdirs).keepsPut
      split
      · exact ⟨h₁, fun h => (Bool.false_ne_true h).elim⟩
      · rename_i dirPath _
        split
        · exact ⟨h₁, fun h => (Bool.false_ne_true h).elim⟩
        · rename_i w₂ hwrite
          obtain ⟨h₁₂, n, hn, htemp⟩ := write_cases hwrite
          have hnot : ¬EndsInPut (dirPath ++ [tempName w₁ dirPath]) :=
            not_endsInPut_temp _ (.inl rfl) _ rfl
          split
          · -- the temporary file moves over the stub's path
            rename_i w₃ hmove
            refine ⟨h₁.trans (h₁₂.keepsPut.trans (keepsPut_renameOnto htemp hn hnot hmove)),
              fun _ => ?_⟩
            obtain ⟨p, -, hfollow, hpar, hnode⟩ := renameOnto_lands htemp hn hmove
            exact ⟨p, hfollow, pathExists_eq_true.mpr ⟨hpar, by simp [hnode]⟩⟩
          · -- a failed move removes the temporary file, or leaves it
            refine ⟨h₁.trans (h₁₂.keepsPut.trans ?_), fun h => (Bool.false_ne_true h).elim⟩
            cases hrm : w₂.remove (dirPath ++ [tempName w₁ dirPath]) with
            | ok w₄ =>
              simp only [Except.toOption, Option.getD_some]
              exact keepsPut_remove hnot hrm
            | error e =>
              simp only [Except.toOption, Option.getD_none]
              exact .refl w₂

/-- A write that finds an entry at the stub's path, of whatever kind, takes it for the stub's
file: it writes nothing and reports no failure. -/
theorem write_of_present {w : Workspace} {r : PutRecord} (h : sw.Present w r) :
    sw.write w r = (.ok none, w) := by
  obtain ⟨p, hfollow, hex⟩ := h
  unfold StubWriter.write
  simp only [hfollow, hex, if_true]

/-- One turn of writing a batch: the stub at its place in the batch written, and a failure
noted with that place. -/
def writeTurn (acc : WriteSummary × Workspace) (ri : PutRecord × Nat) : WriteSummary × Workspace :=
  match sw.write acc.2 ri.1 with
  | (.ok (some _), w) => ({ acc.1 with written := acc.1.written + 1 }, w)
  | (.ok none, w) => (acc.1, w)
  | (.error e, w) => ({ acc.1 with failed := acc.1.failed ++ [(ri.2, e)] }, w)

theorem writeAll_eq_foldl (w : Workspace) (rs : List PutRecord) :
    sw.writeAll w rs = rs.zipIdx.foldl sw.writeTurn ({}, w) := rfl

/-- A turn keeps every `.put` entry; either it notes no failure and the stub stands at its
path, or it notes the failure at the stub's place. -/
theorem writeTurn_spec (acc : WriteSummary × Workspace) (ri : PutRecord × Nat) :
    KeepsPut acc.2 (sw.writeTurn acc ri).2 ∧
      ((sw.writeTurn acc ri).1.failed = acc.1.failed ∧ sw.Present (sw.writeTurn acc ri).2 ri.1 ∨
        ∃ e, (sw.writeTurn acc ri).1.failed = acc.1.failed ++ [(ri.2, e)]) := by
  obtain ⟨hkeep, hpresent⟩ := sw.write_spec acc.2 ri.1
  unfold writeTurn
  split <;> rename_i heq <;> rw [heq] at hkeep hpresent
  · exact ⟨hkeep, .inl ⟨rfl, hpresent rfl⟩⟩
  · exact ⟨hkeep, .inl ⟨rfl, hpresent rfl⟩⟩
  · exact ⟨hkeep, .inr ⟨_, rfl⟩⟩

/-- **A batch's turns.** They keep every `.put` entry and note failures at places of the batch,
in order; every stub of the batch stands at its path afterwards, or its place is noted. -/
theorem foldl_writeTurn : ∀ (xs : List (PutRecord × Nat)) (acc : WriteSummary × Workspace),
    KeepsPut acc.2 (xs.foldl sw.writeTurn acc).2 ∧
      ∃ new, (xs.foldl sw.writeTurn acc).1.failed = acc.1.failed ++ new ∧
        (new.map Prod.fst).Sublist (xs.map Prod.snd) ∧
        ∀ x ∈ xs, sw.Present (xs.foldl sw.writeTurn acc).2 x.1 ∨ x.2 ∈ new.map Prod.fst
  | [], acc => ⟨.refl _, [], by simp, by simp, by simp⟩
  | x :: rest, acc => by
    obtain ⟨hkeep, hturn⟩ := sw.writeTurn_spec acc x
    obtain ⟨hkeep', new, hnew, hsub, hall⟩ := foldl_writeTurn rest (sw.writeTurn acc x)
    rw [List.foldl_cons]
    refine ⟨hkeep.trans hkeep', ?_⟩
    rcases hturn with ⟨hsame, hpresent⟩ | ⟨e, hfail⟩
    · -- written or found: nothing noted, and the stub stays at its path
      refine ⟨new, by rw [hnew, hsame], hsub.cons x.2, fun y hy => ?_⟩
      rcases List.mem_cons.mp hy with rfl | hy
      · exact .inl (hkeep'.present hpresent)
      · exact hall y hy
    · -- the failure is noted at this stub's place, before the later ones
      refine ⟨(x.2, e) :: new, by rw [hnew, hfail, List.append_assoc, List.singleton_append],
        by simpa using hsub.cons_cons x.2, fun y hy => ?_⟩
      rcases List.mem_cons.mp hy with rfl | hy
      · exact .inr (by simp)
      · exact (hall y hy).imp_right (List.mem_cons_of_mem _)

end StubWriter

namespace Loop

open Workspace

/-- **A batch of stubs written.** With a writer, writing the waiting stubs and then the new ones
keeps every `.put` entry and keeps waiting, in their order, the stubs whose write failed, as many
as there were failures; every other stub of the batch stands at its path. -/
theorem writeStubs_some (sw : StubWriter) (ws : Workspace) (waiting emitted : List PutRecord) :
    KeepsPut ws (writeStubs (some sw) ws waiting emitted).2 ∧
      (writeStubs (some sw) ws waiting emitted).1.Sublist (waiting ++ emitted) ∧
      (writeStubs (some sw) ws waiting emitted).1.length =
        (sw.writeAll ws (waiting ++ emitted)).1.failed.length ∧
      ∀ r ∈ waiting ++ emitted, sw.Present (writeStubs (some sw) ws waiting emitted).2 r ∨
        r ∈ (writeStubs (some sw) ws waiting emitted).1 := by
  obtain ⟨hkeep, new, hnew, hsub, hall⟩ := sw.foldl_writeTurn (waiting ++ emitted).zipIdx ({}, ws)
  rw [← StubWriter.writeAll_eq_foldl] at hkeep hnew hall
  have hfailed : (sw.writeAll ws (waiting ++ emitted)).1.failed = new := by simpa using hnew
  unfold writeStubs
  dsimp only
  rw [hfailed]
  generalize waiting ++ emitted = rs at hkeep hsub hall ⊢
  -- the noted places are places of the batch, and each names the stub there
  have hindex : ∀ x ∈ rs.zipIdx, rs[x.2]? = some x.1 := fun x hx => by
    obtain ⟨r, i⟩ := x
    exact List.mem_zipIdx_iff_getElem?.mp hx
  have hbatch : (rs.zipIdx.map Prod.snd).filterMap (fun i => rs[i]?) = rs := by
    rw [List.filterMap_map]
    exact (List.filterMap_eq_map_iff_forall_eq_some.mpr hindex).trans (List.zipIdx_map_fst 0 rs)
  refine ⟨hkeep, ?_, ?_, ?_⟩
  · have h := hsub.filterMap (fun i => rs[i]?)
    rw [hbatch, List.filterMap_map] at h
    exact h
  · refine List.filterMap_length_eq_length.mpr fun x hx => ?_
    obtain ⟨i, e⟩ := x
    have hi : i ∈ rs.zipIdx.map Prod.snd := hsub.subset (List.mem_map_of_mem (f := Prod.fst) hx)
    rw [List.zipIdx_map_snd, List.mem_range'_1, Nat.zero_add] at hi
    simp [hi.2]
  · intro r hr
    obtain ⟨i, hi⟩ := List.mem_iff_getElem?.mp hr
    refine (hall (r, i) (List.mem_zipIdx_iff_getElem?.mpr hi)).imp_right fun hnoted => ?_
    obtain ⟨⟨j, e⟩, hx, rfl⟩ := List.mem_map.mp hnoted
    exact List.mem_filterMap.mpr ⟨(j, e), hx, hi⟩

/-- Saving the store keeps every `.put` entry: the snapshot goes through a temporary file whose
name does not end in `.put`. -/
theorem persist_keepsPut (persistence : Option (String × Coverage.Format)) (ws : Workspace)
    (store : Coverage.Store) : KeepsPut ws (persist persistence ws store) := by
  unfold persist
  split
  · exact .refl ws
  · split
    · rename_i ws' hsave
      obtain ⟨dir, w₁, dirPath, w₂, hdirs, -, hwrite, hmove⟩ := Coverage.Snapshot.save_eq_ok hsave
      obtain ⟨h₁₂, n, hn, htemp⟩ := write_cases hwrite
      exact (createDirAllNamed_removesNothing hdirs).keepsPut.trans (h₁₂.keepsPut.trans
        (keepsPut_renameOnto htemp hn (not_endsInPut_temp _ (.inr rfl) _ rfl) hmove))
    · exact .refl ws

variable {σ : Type}

namespace State

@[simp] theorem enter_ws (st : State σ) (p : Phase) : (st.enter p).ws = st.ws := rfl

@[simp] theorem enter_unwritten (st : State σ) (p : Phase) : (st.enter p).unwritten = st.unwritten :=
  rfl

@[simp] theorem terminate_ws (st : State σ) (r : Reason) : (st.terminate r).ws = st.ws := rfl

@[simp] theorem terminate_unwritten (st : State σ) (r : Reason) :
    (st.terminate r).unwritten = st.unwritten := rfl

end State

/-! ### Delivering a batch -/

section Deliver

variable {setup : Setup} {engine : Engine.Run σ} {batch : List PutRecord} {summary : CycleSummary}
  {st : State σ}

/-- With an engine that removes nothing, its reply's directory removes nothing of the one it
was handed. -/
theorem replyTo_removesNothing
    (hengine : ∀ e batch timeout ws, RemovesNothing ws (engine e batch timeout ws).ws)
    {reply : Engine.Reply σ} (h : replyTo setup engine batch st = some reply) :
    RemovesNothing st.ws reply.ws := by
  unfold replyTo at h
  split at h
  · cases h
  · cases h
    exact hengine ..

theorem deliver_removesNothing
    (hengine : ∀ e batch timeout ws, RemovesNothing ws (engine e batch timeout ws).ws) :
    RemovesNothing st.ws (deliver setup engine batch summary st).2.ws := by
  rcases deliver_cases setup engine batch summary st with
    ⟨-, h⟩ | ⟨_, _, hreply, -, h⟩ | ⟨_, _, hreply, -, h⟩ <;> rw [h]
  · exact .refl _
  · exact replyTo_removesNothing hengine hreply
  · exact replyTo_removesNothing hengine hreply

@[simp] theorem deliver_unwritten :
    (deliver setup engine batch summary st).2.unwritten = st.unwritten := by
  rcases deliver_cases setup engine batch summary st with
    ⟨-, h⟩ | ⟨_, _, -, -, h⟩ | ⟨_, _, -, -, h⟩ <;> rw [h]

@[simp] theorem deliver_putWriteFailures :
    (deliver setup engine batch summary st).1.putWriteFailures = summary.putWriteFailures := by
  rcases deliver_cases setup engine batch summary st with
    ⟨-, h⟩ | ⟨_, _, -, -, h⟩ | ⟨_, _, -, -, h⟩ <;> rw [h]

end Deliver

/-! ### A whole cycle -/

section Cycle

variable (setup : Setup) (engine : Engine.Run σ) (st : State σ)

/-- Generating writes the waiting stubs and then the new ones, from the directory the cycle
started with. -/
theorem generated_unwritten :
    (generated setup st).2.unwritten =
      (writeStubs setup.writer st.ws st.unwritten (emittedIn setup st)).1 := rfl

theorem generated_ws :
    (generated setup st).2.ws = (writeStubs setup.writer st.ws st.unwritten (emittedIn setup st)).2 :=
  rfl

@[simp] theorem awaiting_ws : (awaiting setup st).ws = (generated setup st).2.ws := rfl

@[simp] theorem awaiting_unwritten :
    (awaiting setup st).unwritten = (generated setup st).2.unwritten := rfl

theorem saved_unwritten : (saved setup engine st).unwritten = (generated setup st).2.unwritten := by
  show (deliver setup engine (batchIn setup st) (summaryIn setup st) (awaiting setup st)).2.unwritten = _
  rw [deliver_unwritten, awaiting_unwritten]

/-- The cycle ends with the directory and the waiting stubs of the state it saved. -/
theorem cycle_ws_unwritten :
    (cycle setup engine st).2.ws = (saved setup engine st).ws ∧
      (cycle setup engine st).2.unwritten = (saved setup engine st).unwritten := by
  rcases (cycle_cases setup engine st).2 with ⟨r, -, h⟩ | ⟨-, h⟩ <;> rw [h] <;>
    simp only [State.terminate_ws, State.terminate_unwritten, State.enter_ws,
      State.enter_unwritten, and_self]

theorem cycle_unwritten : (cycle setup engine st).2.unwritten = (generated setup st).2.unwritten := by
  rw [(cycle_ws_unwritten setup engine st).2, saved_unwritten]

theorem cycle_putWriteFailures :
    (cycle setup engine st).1.putWriteFailures = (generated setup st).2.unwritten.length := by
  rw [(cycle_cases setup engine st).1, deliver_putWriteFailures]
  rfl

/-- With an engine that removes nothing, what a cycle does after generating keeps every `.put`
entry. -/
theorem cycle_keepsPut_generated
    (hengine : ∀ e batch timeout ws, RemovesNothing ws (engine e batch timeout ws).ws) :
    KeepsPut (generated setup st).2.ws (cycle setup engine st).2.ws := by
  -- the batch is delivered from `awaiting`, whose directory is the one generating left
  have hsaved : KeepsPut (awaiting setup st).ws (saved setup engine st).ws :=
    (deliver_removesNothing hengine).keepsPut.trans (persist_keepsPut ..)
  rw [(cycle_ws_unwritten setup engine st).1, ← awaiting_ws]
  exact hsaved

/-- **What a cycle does to the stub files.** With a writer and an engine that removes nothing,
a cycle keeps every `.put` entry. Of the stubs it writes, those that waited and then the new
ones, it keeps waiting, in their order, those whose write failed, and counts them as its write
failures; every other one stands at its path when the cycle ends. -/
theorem cycle_files {sw : StubWriter} (hw : setup.writer = some sw)
    (hengine : ∀ e batch timeout ws, RemovesNothing ws (engine e batch timeout ws).ws) :
    KeepsPut st.ws (cycle setup engine st).2.ws ∧
      (cycle setup engine st).2.unwritten.Sublist (st.unwritten ++ emittedIn setup st) ∧
      (cycle setup engine st).1.putWriteFailures =
        (sw.writeAll st.ws (st.unwritten ++ emittedIn setup st)).1.failed.length ∧
      (cycle setup engine st).2.unwritten.length = (cycle setup engine st).1.putWriteFailures ∧
      ∀ r ∈ st.unwritten ++ emittedIn setup st,
        sw.Present (cycle setup engine st).2.ws r ∨ r ∈ (cycle setup engine st).2.unwritten := by
  obtain ⟨hkeep, hsub, hlen, hall⟩ := writeStubs_some sw st.ws st.unwritten (emittedIn setup st)
  rw [← hw] at hkeep hsub hlen hall
  rw [← generated_ws] at hkeep hall
  rw [← generated_unwritten] at hsub hlen hall
  have hafter := cycle_keepsPut_generated setup engine st hengine
  rw [cycle_putWriteFailures, cycle_unwritten]
  exact ⟨hkeep.trans hafter, hsub, hlen, rfl, fun r hr => (hall r hr).imp_left hafter.present⟩

end Cycle

/-! ### Along a run -/

section Runs

variable (setup : Setup) (engine : Engine.Run σ) (sw : StubWriter)

/-- Every stub that a cycle from one of `starts` emitted stands at its path in `st`'s
directory, or waits to be written. -/
def Filed (starts : List (State σ)) (st : State σ) : Prop :=
  ∀ s ∈ starts, ∀ r ∈ emittedIn setup s, sw.Present st.ws r ∨ r ∈ st.unwritten

/-- A cycle keeps every stub filed: one that stood at its path still does, and one that waited
is written again with the new ones. -/
theorem Filed.cycle (hw : setup.writer = some sw)
    (hengine : ∀ e batch timeout ws, RemovesNothing ws (engine e batch timeout ws).ws)
    {starts : List (State σ)} {st : State σ} (h : Filed setup sw starts st) :
    Filed setup sw (starts ++ [st]) (cycle setup engine st).2 := by
  obtain ⟨hkeep, -, -, -, hall⟩ := cycle_files setup engine st hw hengine
  intro s hs r hr
  rcases List.mem_append.mp hs with hs | hs
  · rcases h s hs r hr with hpresent | hwaiting
    · exact .inl (hkeep.present hpresent)
    · exact hall r (List.mem_append_left _ hwaiting)
  · rw [List.mem_singleton.mp hs] at hr
    exact hall r (List.mem_append_right _ hr)

/-- Every reached state has every stub emitted so far filed. -/
theorem reach_filed (hw : setup.writer = some sw)
    (hengine : ∀ e batch timeout ws, RemovesNothing ws (engine e batch timeout ws).ws)
    {starts : List (State σ)} {st : State σ} (h : Reach setup engine starts st) :
    Filed setup sw starts st := by
  induction h with
  | fresh => exact fun s hs => absurd hs List.not_mem_nil
  | cycle _ ih => exact ih.cycle setup engine sw hw hengine
  -- stopping and cancelling leave the directory and the waiting stubs
  | stop _ _ ih => exact ih
  | token _ _ ih => exact ih

end Runs

/-- **No stub file is lost.** Along every run of a loop with a stub writer whose engine removes
nothing from the directory — for every state a fresh loop reaches through cycles, stops and
cancellations, and the states its cycles started from:
- every stub emitted so far stands at its path, or waits to be written;
- each cycle counts as write failures the failures of writing the stubs that waited and then
  its new ones, and keeps waiting as many of these stubs, in their order;
- a stub stops waiting only when its path holds an entry at the end of the cycle.

The entry may be anything, a directory included: a write takes any entry at a stub's path for
the stub's file. -/
theorem stubs_written_or_waiting (setup : Setup) (engine : Engine.Run σ) {sw : StubWriter}
    (hw : setup.writer = some sw)
    (hengine : ∀ e batch timeout ws, RemovesNothing ws (engine e batch timeout ws).ws)
    {starts : List (State σ)} {st : State σ} (h : Reach setup engine starts st) :
    (∀ s ∈ starts, ∀ r ∈ emittedIn setup s, sw.Present st.ws r ∨ r ∈ st.unwritten) ∧
    (∀ s ∈ starts,
      (cycle setup engine s).1.putWriteFailures =
          (sw.writeAll s.ws (s.unwritten ++ emittedIn setup s)).1.failed.length ∧
        (cycle setup engine s).2.unwritten.length = (cycle setup engine s).1.putWriteFailures ∧
        (cycle setup engine s).2.unwritten.Sublist (s.unwritten ++ emittedIn setup s) ∧
        ∀ r ∈ s.unwritten, r ∉ (cycle setup engine s).2.unwritten →
          sw.Present (cycle setup engine s).2.ws r) := by
  refine ⟨reach_filed setup engine sw hw hengine h, fun s _ => ?_⟩
  obtain ⟨-, hsub, hfailures, hlen, hall⟩ := cycle_files setup engine s hw hengine
  exact ⟨hfailures, hlen, hsub, fun r hr hleft =>
    (hall r (List.mem_append_left _ hr)).resolve_right hleft⟩

/-- A loop writing stubs under `out`, on a store with one uncovered pair and an engine that is
always down: after one cycle, its stub stands at its path or waits. -/
theorem stub_filed_after_one_cycle :
    let setup : Setup := { strategy := ⟨[.text "stub"], 0, 2⟩, writer := some ⟨"out"⟩ }
    let engine : Engine.Run Unit := fun _ _ _ ws => ⟨.error (.crashed "down"), (), ws, false⟩
    let s₀ := State.new ((({} : Coverage.Store)).register ⟨"A", "f", "set", "get"⟩).2
      ⟨{}, {}, .static⟩ Workspace.initial ()
    ∀ r ∈ emittedIn setup s₀, StubWriter.Present ⟨"out"⟩ (cycle setup engine s₀).2.ws r ∨
      r ∈ (cycle setup engine s₀).2.unwritten := by
  intro setup engine s₀
  have hreach : Reach setup engine [s₀] (cycle setup engine s₀).2 := (Reach.fresh _ _ _ ()).cycle
  exact (stubs_written_or_waiting setup engine rfl (fun _ _ _ ws => .refl ws) hreach).1 s₀
    (List.mem_singleton_self _)

end Loop

end DefUseCoverage
