import Mathlib
import DefUseCoverage.Proofs.StubFiles
import DefUseCoverage.Proofs.Identifiers
/-! # Writing a batch of stub files

  A stub writer puts each stub of a batch in its own file, named by the digest of its body,
  in a directory named for its type under the writer's root. We follow a batch through a tree
  of files (`Workspace.Tree`: every entry hangs from the root through directories) whose root
  directory for stubs exists (`StubWriter.RootAt`).

  ## Paths

  The names a stub's path text adds to the root are plain names (`PathText.Plain`): the type
  as an identifier and `put_<digest>.put`. So the text names the file `stubFile R r` under the
  root `R`, in the type's directory `typeDir R ty` (`StubWriter.RootAt.follow_pathFor`), and the
  directory the writer makes is the type's one (`StubWriter.parent?_pathFor`).

  ## One write

  In such a tree a write does one of three things (`StubWriter.write_outcomes`): it finds an
  entry at the stub's file and changes nothing; it finds the type's directory taken by
  something that is not a directory and fails with `createDir`, changing nothing; or it makes
  the type's directory if missing and adds the stub's whole file, through a temporary file
  under a name nothing has, which leaves no trace.

  ## The batch

  Writing a batch keeps an invariant over the stubs written so far (`StubWriter.Batch`):
  nothing that stood changes, every entry that is new is a type's directory or the whole file
  of a stub that did not fail, the failures are the stubs whose type's directory is taken, in
  order, every other stub has an entry at its file, and the files counted as written are those
  that are new. Each write keeps it (`StubWriter.Batch.turn`).

  Main statement: `stub_batch_content_addressed`. A batch written into such a tree leaves an
  entry at the file of every stub that did not fail; it changes nothing that stood and adds
  only type directories and whole stub files; it counts as written the stub files that are
  new; its failures are positions of the batch in increasing order; and after a batch with no
  failure, writing it again changes nothing and writes nothing.

  The entry a write finds at a stub's file may be a directory: it is taken for the stub's file.
-/

namespace DefUseCoverage

namespace PathText

/-! ### Plain names in path texts -/

/-- A name a path text can hold as one component: not empty, neither `.` nor `..`, and with no
separator in it. -/
structure Plain (b : String) : Prop where
  ne_empty : b ≠ ""
  ne_dot : b ≠ "."
  ne_dots : b ≠ ".."
  no_slash : '/' ∉ b.toList

theorem Plain.splitOnP {b : String} (hb : Plain b) :
    b.toList.splitOnP (· == '/') = [b.toList] := by
  refine List.splitOnP_eq_singleton fun c hc => ?_
  simp only [beq_eq_false_iff_ne]
  rintro rfl
  exact hb.no_slash hc

theorem startsWith_slash (s : String) :
    s.startsWith "/" = true ↔ s.toList.head? = some '/' := by
  rw [← Bool.not_eq_false, String.startsWith_string_eq_false_iff, not_not,
    ← List.singleton_prefix_iff_head?_eq_some]
  simp

theorem endsWith_slash (s : String) :
    s.endsWith "/" = true ↔ s.toList.getLast? = some '/' := by
  rw [← Bool.not_eq_false, ← String.endsWith_toSlice, String.Slice.endsWith_string_eq_false_iff,
    String.copy_toSlice, not_not, ← List.singleton_suffix_iff_getLast?_eq_some]
  simp

/-- Joining a plain name puts it after the text, with one separator unless the text is empty or
already ends in one. -/
theorem toList_join {a b : String} (hb : Plain b) :
    (join a b).toList =
      if a.toList = [] then b.toList
      else if a.toList.getLast? = some '/' then a.toList ++ b.toList
      else a.toList ++ '/' :: b.toList := by
  have hstart : b.startsWith "/" = false := by
    rw [← Bool.not_eq_true, startsWith_slash]
    intro h
    exact hb.no_slash (List.mem_of_mem_head? h)
  unfold join
  simp only [hstart, Bool.false_eq_true, if_false, String.isEmpty_iff, ← String.toList_eq_nil_iff,
    endsWith_slash]
  split_ifs <;> simp

theorem startsWith_join {a b : String} (hb : Plain b) :
    (join a b).startsWith "/" = a.startsWith "/" := by
  rw [Bool.eq_iff_iff, startsWith_slash, startsWith_slash, toList_join hb]
  split_ifs with hnil
  · rw [hnil]
    simpa using fun h => hb.no_slash (List.mem_of_mem_head? h)
  · rw [List.head?_append_of_ne_nil _ hnil]
  · rw [List.head?_append_of_ne_nil _ hnil]

/-- A text with a plain name joined splits into the text's components and the name; the text
alone may have one more, empty, component. -/
theorem splitOn_join {a b : String} (hb : Plain b) :
    ∃ L, (join a b).splitOn "/" = L ++ [b] ∧ (a.splitOn "/" = L ∨ a.splitOn "/" = L ++ [""]) := by
  rw [Workspace.splitOn_slash, Workspace.splitOn_slash, toList_join hb]
  split_ifs with hnil hslash
  · exact ⟨[], by simp [hb.splitOnP], .inr (by simp [hnil])⟩
  · -- the text ends in a separator, which ends an empty component
    obtain ⟨a', ha'⟩ := List.getLast?_eq_some_iff.mp hslash
    refine ⟨(a'.splitOnP (· == '/')).map String.ofList, ?_, .inr ?_⟩
    · rw [ha', List.append_assoc, List.singleton_append, List.splitOnP_append_cons _ _ (by rfl),
        hb.splitOnP]
      simp
    · rw [ha', List.splitOnP_append_cons _ [] (by rfl)]
      simp
  · refine ⟨(a.toList.splitOnP (· == '/')).map String.ofList, ?_, .inl rfl⟩
    rw [List.splitOnP_append_cons _ _ (by rfl), hb.splitOnP]
    simp

theorem getLast?_join {a b : String} (hb : Plain b) :
    (join a b).toList.getLast? = b.toList.getLast? := by
  have hne : b.toList ≠ [] := by
    rw [Ne, String.toList_eq_nil_iff]
    exact hb.ne_empty
  rw [toList_join hb]
  split_ifs
  · rfl
  · exact List.getLast?_append_of_ne_nil _ hne
  · rw [← List.singleton_append, ← List.append_assoc]
    exact List.getLast?_append_of_ne_nil _ hne

/-- A text whose last character is neither a separator nor `.` has nothing to trim. -/
theorem trimEnd_of_getLast? {cs : List Char} {c : Char} (h : cs.getLast? = some c)
    (hslash : c ≠ '/') (hdot : c ≠ '.') (fuel : Nat) : trimEnd cs fuel = cs := by
  cases fuel with
  | zero => rfl
  | succ fuel =>
    obtain ⟨cs', rfl⟩ := List.getLast?_eq_some_iff.mp h
    unfold trimEnd
    rw [List.reverse_append, List.reverse_singleton, List.singleton_append]
    split
    · rename_i heq
      exact absurd (List.cons.inj heq).1 hslash
    · rename_i heq
      exact absurd (List.cons.inj heq).1 hdot
    · rfl

/-- **The parent of a joined text** is the text, when the name joined is plain and does not end
in `.`, and the text ends in neither a separator nor `.`. -/
theorem parent?_join {a b : String} (hb : Plain b) {c d : Char}
    (hblast : b.toList.getLast? = some c) (hc : c ≠ '.')
    (halast : a.toList.getLast? = some d) (hd : d ≠ '/') (hd' : d ≠ '.') :
    parent? (join a b) = some a := by
  have hcs : (join a b).toList = a.toList ++ '/' :: b.toList := by
    rw [toList_join hb, if_neg (fun h => by simp [h] at halast), if_neg (by rw [halast]; simpa)]
  have hcslash : c ≠ '/' := fun h => hb.no_slash (h ▸ List.mem_of_getLast? hblast)
  have hlast : (a.toList ++ '/' :: b.toList).getLast? = some c :=
    hcs ▸ (getLast?_join hb).trans hblast
  -- the separator before the name is the last one; what stands before it is the text
  have hprefix : ((a.toList ++ '/' :: b.toList).reverse.dropWhile (· != '/')).reverse =
      a.toList ++ ['/'] := by
    have hnone : ∀ x ∈ b.toList.reverse, (x != '/') = true := fun x hx => by
      simp only [bne_iff_ne, ne_eq]
      rintro rfl
      exact hb.no_slash (List.mem_reverse.mp hx)
    rw [List.reverse_append, List.reverse_cons, List.append_assoc, List.dropWhile_append,
      List.dropWhile_eq_nil_iff.mpr hnone]
    simp
  have hne : a.toList ≠ [] := fun h => by simp [h] at halast
  have hlong : a.toList ++ '/' :: b.toList ≠ ['/'] := fun h => by
    have hlen := congrArg List.length h
    simp only [List.length_append, List.length_cons, List.length_nil] at hlen
    exact hne (List.eq_nil_of_length_eq_zero (by omega))
  unfold parent?
  simp only [hcs, trimEnd_of_getLast? hlast hcslash hc, hprefix]
  rw [if_neg (by simp [hlong]), List.length_append, List.length_singleton]
  unfold trimEnd
  rw [List.reverse_append, List.reverse_singleton, List.singleton_append]
  simp only [List.isEmpty_reverse, List.reverse_reverse, List.isEmpty_iff, hne, if_false,
    trimEnd_of_getLast? halast hd hd', String.ofList_toList]

end PathText

namespace Workspace

open PathText

/-! ### Resolving joined texts -/

/-- One component of a path text taken from the path reached so far, as `resolve` takes it. -/
def resolveStep (w : Workspace) (cur : AbsPath) (c : String) : Except IoError AbsPath :=
  if c.isEmpty then .ok cur
  else if c == "." then do
    w.isDirPath cur
    .ok cur
  else if c == ".." then do
    w.isDirPath cur
    .ok cur.dropLast
  else .ok (cur ++ [c])

theorem resolve_eq_foldlM (w : Workspace) (s : String) :
    w.resolve s =
      (s.splitOn "/").foldlM w.resolveStep (if s.startsWith "/" then [] else w.cwd) :=
  rfl

theorem resolveStep_plain (w : Workspace) (cur : AbsPath) {b : String} (hb : Plain b) :
    w.resolveStep cur b = .ok (cur ++ [b]) := by
  have hempty : b.isEmpty = false := by
    rw [← Bool.not_eq_true, String.isEmpty_iff]
    exact hb.ne_empty
  simp [resolveStep, hempty, hb.ne_dot, hb.ne_dots]

/-- **A plain name joined to a text** is resolved after the text, as one more component. -/
theorem resolve_join {w : Workspace} {a b : String} (hb : Plain b) {R : AbsPath}
    (ha : w.resolve a = .ok R) : w.resolve (join a b) = .ok (R ++ [b]) := by
  obtain ⟨L, hjoin, hsplit⟩ := splitOn_join (a := a) hb
  rw [resolve_eq_foldlM] at ha ⊢
  rw [startsWith_join hb, hjoin, List.foldlM_append]
  -- the text's own components reach `R`; an empty last one stays there
  have hL : L.foldlM w.resolveStep (if a.startsWith "/" then [] else w.cwd) = .ok R := by
    rcases hsplit with h | h
    · rwa [h] at ha
    · rw [h, List.foldlM_append] at ha
      cases hf : L.foldlM w.resolveStep (if a.startsWith "/" then [] else w.cwd) with
      | error e => rw [hf] at ha; cases ha
      | ok R' =>
        rw [hf] at ha
        simpa [bind, Except.bind, pure, Except.pure, resolveStep] using ha
  rw [hL]
  simp [bind, Except.bind, pure, Except.pure, resolveStep_plain _ _ hb]

theorem target_of_ne_empty (w : Workspace) {s : String} (hs : s ≠ "") :
    w.target s = w.resolve s := by
  unfold target
  rw [if_neg (by rwa [String.isEmpty_iff])]

theorem follow_of_endsWith (w : Workspace) {s : String} (hs : s.endsWith "/" = false) :
    w.follow s = w.target s := by
  unfold follow
  cases w.target s <;> simp [hs, bind, Except.bind, pure, Except.pure]

/-- A text ending in a plain name does not end in `.` or `..`. -/
theorem endsInDots_join {a b : String} (hb : Plain b) : endsInDots (join a b) = false := by
  obtain ⟨L, hjoin, -⟩ := splitOn_join (a := a) hb
  have hempty : b.isEmpty = false := by
    rw [← Bool.not_eq_true, String.isEmpty_iff]
    exact hb.ne_empty
  simp [endsInDots, hjoin, List.filter_append, hempty, hb.ne_dot, hb.ne_dots]

/-! ### Trees -/

/-- A tree of files: every entry hangs from the root through directories, as in a file
system. -/
def Tree (w : Workspace) : Prop := ∀ p, (w.node? p).isSome → w.parentsOk p = .ok ()

variable {w : Workspace}

/-- In a tree, something stands at a path exactly when the path has an entry. -/
theorem Tree.pathExists (ht : w.Tree) (p : AbsPath) : w.pathExists p = (w.node? p).isSome := by
  cases hsome : (w.node? p).isSome
  · rw [Bool.eq_false_iff]
    intro hex
    rw [(pathExists_eq_true.mp hex).2] at hsome
    cases hsome
  · exact pathExists_eq_true.mpr ⟨ht p hsome, hsome⟩

/-- In a tree, nothing stands below what is not a directory. -/
theorem Tree.node?_below (ht : w.Tree) {p q : AbsPath} (hp : w.node? p ≠ some .dir)
    (hq : isBelow q p = true) : w.node? q = none := by
  simp only [isBelow, gt_iff_lt, Bool.and_eq_true, decide_eq_true_eq, beq_iff_eq] at hq
  cases hn : w.node? q with
  | none => rfl
  | some n =>
    have hdirs := (parentsOk_eq_ok w q).mp (ht q (by simp [hn])) p.length hq.1
    rw [hq.2] at hdirs
    exact absurd hdirs hp

/-- An entry added at a free path whose parents are directories keeps a tree. -/
theorem Tree.of_node? {w' : Workspace} (ht : w.Tree) {p : AbsPath}
    (hpar : w.parentsOk p = .ok ()) (hnone : w.node? p = none) (n : Node)
    (h : ∀ q, w'.node? q = if q = p then some n else w.node? q) : w'.Tree := by
  intro q hq
  rw [parentsOk_eq_ok]
  intro i hi
  rw [h]
  by_cases hqp : q = p
  · -- a proper prefix of the new entry's path is not that path
    subst hqp
    rw [if_neg (fun h => by have := congrArg List.length h; simp at this; omega)]
    exact (parentsOk_eq_ok w q).mp hpar i hi
  · rw [h, if_neg hqp] at hq
    have hdir := (parentsOk_eq_ok w q).mp (ht q hq) i hi
    rw [if_neg (fun h => by rw [h, hnone] at hdir; cases hdir)]
    exact hdir

theorem Tree.put (ht : w.Tree) {p : AbsPath} (hp : p ≠ []) (hpar : w.parentsOk p = .ok ())
    (hnone : w.node? p = none) (n : Node) : (w.put p n).Tree :=
  ht.of_node? hpar hnone n (node?_put w hp n)

/-- The parents of a path in a directory are that directory's chain. -/
theorem parentsOk_snoc {d : AbsPath} (hd : ∀ i ≤ d.length, w.node? (d.take i) = some .dir)
    (x : String) : w.parentsOk (d ++ [x]) = .ok () := by
  rw [parentsOk_eq_ok]
  intro i hi
  simp only [List.length_append, List.length_singleton] at hi
  rw [List.take_append_of_le_length (by omega)]
  exact hd i (by omega)

/-- Dropping a path and what is below it keeps a tree. -/
theorem Tree.drop (ht : w.Tree) (p : AbsPath) : (w.drop p).Tree := by
  intro q hq
  rw [node?_drop] at hq
  split at hq
  · cases hq
  rename_i hkept
  have hdirs := (parentsOk_eq_ok w q).mp (ht q hq)
  rw [parentsOk_eq_ok]
  intro i hi
  rw [node?_drop, if_neg]
  · exact hdirs i hi
  -- a prefix of `q` at or below `p` would put `q` below `p`
  rintro ⟨-, hgone⟩
  apply hkept
  refine ⟨List.ne_nil_of_length_pos (by omega), .inr ?_⟩
  have hlen : (q.take i).length = i := List.length_take_of_le hi.le
  simp only [isBelow, gt_iff_lt, Bool.and_eq_true, decide_eq_true_eq, beq_iff_eq] at hgone ⊢
  rcases hgone with rfl | ⟨hlt, htake⟩
  · rw [hlen]
    exact ⟨hi, rfl⟩
  · rw [hlen] at hlt
    rw [List.take_take, Nat.min_eq_left hlt.le] at htake
    exact ⟨by omega, htake⟩

/-- The tree a run starts from is a tree. -/
theorem tree_initial : initial.Tree := by
  intro p hp
  by_cases hp0 : p = []
  · subst hp0
    rfl
  · rw [node?_of_ne_nil _ hp0, Option.isSome_map] at hp
    obtain ⟨e, hfind⟩ := Option.isSome_iff_exists.mp hp
    have hkey : e.1 = p := by simpa using List.find?_some hfind
    have hmem := List.mem_of_find?_eq_some hfind
    subst hkey
    -- each of its four entries hangs from the root
    simp only [initial, List.mem_cons, List.not_mem_nil, or_false] at hmem
    rcases hmem with rfl | rfl | rfl | rfl <;> rfl

/-! ### Writing and moving files -/

/-- A write at a free path whose parents are directories puts a file there. -/
theorem write_of_none {p : AbsPath} (hpar : w.parentsOk p = .ok ()) (hnone : w.node? p = none)
    (bs : List UInt8) : w.write p bs = .ok (w.put p (.file bs)) := by
  simp [write, hpar, hnone, bind, Except.bind]

/-- A rename of a file over a free path, all of whose parents are directories, moves it. -/
theorem renameOnto_of {src dst : AbsPath} {s : String} {n : Node} (htarget : w.target s = .ok dst)
    (hdots : endsInDots s = false) (hslash : s.endsWith "/" = false)
    (hsrcpar : w.parentsOk src = .ok ()) (hsrc : w.node? src = some n) (hn : n ≠ .dir)
    (hup : w.parentsOk dst.dropLast = .ok ()) (hdstpar : w.parentsOk dst = .ok ())
    (hdst : w.node? dst = none) : w.renameOnto src s = .ok ((w.drop src).put dst n) := by
  cases n with
  | dir => exact absurd rfl hn
  | _ =>
    simp [renameOnto, rename, lookup, htarget, hdots, hslash, hsrcpar, hsrc, hup, hdstpar, hdst,
      bind, Except.bind, pure, Except.pure]

/-- Adding up the lengths of names passes each one. -/
theorem le_foldl_length (l : List String) (a : Nat) : a ≤ l.foldl (· + ·.length) a := by
  induction l generalizing a with
  | nil => exact Nat.le_refl a
  | cons c l ih => exact Nat.le_trans (Nat.le_add_right a c.length) (ih (a + c.length))

theorem length_le_foldl {l : List String} {c : String} (hc : c ∈ l) (a : Nat) :
    c.length ≤ l.foldl (· + ·.length) a := by
  induction l generalizing a with
  | nil => cases hc
  | cons x l ih =>
    rw [List.foldl_cons]
    rcases List.mem_cons.mp hc with rfl | hc
    · exact Nat.le_trans (Nat.le_add_left _ a) (le_foldl_length l _)
    · exact ih hc _

/-- A fresh name is taken by nothing in its directory: it is longer than every name there. -/
theorem node?_freshName (w : Workspace) (d : AbsPath) {stem : String} (hstem : 0 < stem.length) :
    w.node? (d ++ [w.freshName d stem]) = none := by
  rw [node?_of_ne_nil _ (by simp)]
  cases hfind : w.nodes.find? (·.1 == d ++ [w.freshName d stem]) with
  | none => rfl
  | some e =>
    exfalso
    obtain ⟨q, n⟩ := e
    have hmem := List.mem_of_find?_eq_some hfind
    have hkey : q = d ++ [w.freshName d stem] := by simpa using List.find?_some hfind
    have hchild : w.freshName d stem ∈ w.children d := by
      unfold children
      refine List.mem_filterMap.mpr ⟨(q, n), hmem, ?_⟩
      simp [hkey]
    have hle := length_le_foldl hchild 0
    have hlen : (w.freshName d stem).length =
        stem.length + (w.children d).foldl (· + ·.length) 0 := by
      simp [freshName]
    omega

end Workspace

namespace StubWriter

open Workspace PathText

/-! ### Where a stub's file goes -/

/-- The name of a stub's file: the digest of its body. -/
def digestName (body : String) : String := "put_" ++ Md5.hexOfString body ++ ".put"

/-- The directory of a type's stubs under the root directory `R`. -/
def typeDir (R : AbsPath) (ty : String) : AbsPath := R ++ [Identifier.sanitize ty]

/-- The file of a stub under the root directory `R`. -/
def stubFile (R : AbsPath) (r : PutRecord) : AbsPath :=
  typeDir R r.declaringType ++ [digestName r.body]

/-- The text of a type's directory, as the writer names it. -/
def typeDirText (sw : StubWriter) (ty : String) : String :=
  PathText.join sw.root (Identifier.sanitize ty)

variable (sw : StubWriter)

theorem pathFor_eq_join (ty body : String) :
    sw.pathFor ty body = PathText.join (sw.typeDirText ty) (digestName body) := rfl

theorem hexDigit_ne_slash (n : Nat) : Md5.hexDigit n ≠ '/' := by
  have hslash : '/'.toNat = 47 := rfl
  unfold Md5.hexDigit
  intro h
  have hcode := congrArg Char.toNat h
  rw [hslash] at hcode
  split at hcode <;> rw [Char.toNat_ofNat] at hcode <;> split at hcode <;> omega

theorem identChar_ne {c : Char} (h : Identifier.identChar c = true) : c ≠ '/' ∧ c ≠ '.' := by
  have hslash : Identifier.identChar '/' = false := rfl
  have hdot : Identifier.identChar '.' = false := rfl
  constructor <;> rintro rfl <;> simp_all

/-- A type as an identifier is a plain name. -/
theorem plain_sanitize (ty : String) : Plain (Identifier.sanitize ty) := by
  have hv := Identifier.valid_sanitize ty
  refine ⟨hv.ne_empty, fun h => ?_, fun h => ?_, fun h => (identChar_ne (hv.chars _ h)).1 rfl⟩
  · exact (identChar_ne (hv.chars '.' (by rw [h]; simp))).2 rfl
  · exact (identChar_ne (hv.chars '.' (by rw [h]; simp))).2 rfl

/-- The name of a stub's file is a plain name. -/
theorem plain_digestName (body : String) : Plain (digestName body) := by
  have hlen : 8 ≤ (digestName body).toList.length := by
    simp [digestName]
  have hshort : ∀ t : String, t.toList.length < 8 → digestName body ≠ t := fun t ht h => by
    rw [h] at hlen
    omega
  refine ⟨hshort "" (by simp), hshort "." (by simp), hshort ".." (by simp), ?_⟩
  simp [digestName, Md5.hexOfString, Md5.hex, (hexDigit_ne_slash _).symm]

theorem getLast?_digestName (body : String) : (digestName body).toList.getLast? = some 't' := by
  simp [digestName, List.getLast?_cons, List.getLast?_append]

/-- A type's directory text ends in a character of an identifier. -/
theorem getLast?_typeDirText (ty : String) :
    ∃ d, (sw.typeDirText ty).toList.getLast? = some d ∧ d ≠ '/' ∧ d ≠ '.' := by
  have hv := Identifier.valid_sanitize ty
  cases hlast : (Identifier.sanitize ty).toList.getLast? with
  | none =>
    rw [List.getLast?_eq_none_iff, String.toList_eq_nil_iff] at hlast
    exact absurd hlast hv.ne_empty
  | some d =>
    exact ⟨d, (getLast?_join (plain_sanitize ty)).trans hlast,
      identChar_ne (hv.chars d (List.mem_of_getLast? hlast))⟩

theorem typeDirText_ne_empty (ty : String) : sw.typeDirText ty ≠ "" := by
  obtain ⟨d, hd, -⟩ := sw.getLast?_typeDirText ty
  intro h
  simp [h] at hd

theorem typeDirText_endsWith (ty : String) : (sw.typeDirText ty).endsWith "/" = false := by
  obtain ⟨d, hd, hslash, -⟩ := sw.getLast?_typeDirText ty
  rw [← Bool.not_eq_true, endsWith_slash, hd]
  simpa using hslash

/-- **The directory a write makes** is its type's directory. -/
theorem parent?_pathFor (ty body : String) :
    PathText.parent? (sw.pathFor ty body) = some (sw.typeDirText ty) := by
  obtain ⟨d, hd, hslash, hdot⟩ := sw.getLast?_typeDirText ty
  exact parent?_join (plain_digestName body) (getLast?_digestName body) (by simp) hd hslash hdot

/-- The root directory of stubs in a tree: the writer's root text names `R`, which is a
directory with all its prefixes. -/
structure RootAt (w : Workspace) (R : AbsPath) : Prop where
  resolve : w.resolve sw.root = .ok R
  dirs : ∀ i ≤ R.length, w.node? (R.take i) = some .dir

variable {sw} {w : Workspace} {R : AbsPath}

/-- The root stays where every entry stays. -/
theorem RootAt.mono {w' : Workspace} (hroot : sw.RootAt w R) (hcwd : w'.cwd = w.cwd)
    (hkept : ∀ p n, w.node? p = some n → w'.node? p = some n) : sw.RootAt w' R := by
  have hdirs : DirsKept w w' := fun q hq => hkept q .dir (by simpa using hq q.length le_rfl)
  exact ⟨hdirs.resolve hcwd hroot.resolve, fun i hi => hkept _ _ (hroot.dirs i hi)⟩

theorem RootAt.resolve_typeDirText (hroot : sw.RootAt w R) (ty : String) :
    w.resolve (sw.typeDirText ty) = .ok (typeDir R ty) :=
  resolve_join (plain_sanitize ty) hroot.resolve

theorem RootAt.target_typeDirText (hroot : sw.RootAt w R) (ty : String) :
    w.target (sw.typeDirText ty) = .ok (typeDir R ty) := by
  rw [target_of_ne_empty _ (sw.typeDirText_ne_empty ty)]
  exact hroot.resolve_typeDirText ty

/-- The text of a stub's file names its file under the root. -/
theorem RootAt.follow_pathFor (hroot : sw.RootAt w R) (r : PutRecord) :
    w.follow (sw.pathFor r.declaringType r.body) = .ok (stubFile R r) ∧
      w.target (sw.pathFor r.declaringType r.body) = .ok (stubFile R r) := by
  have htarget : w.target (sw.pathFor r.declaringType r.body) = .ok (stubFile R r) := by
    rw [target_of_ne_empty _ (fun h => (plain_digestName r.body).ne_empty (by
      have hlast := getLast?_join (a := sw.typeDirText r.declaringType) (plain_digestName r.body)
      rw [← pathFor_eq_join, h] at hlast
      simp [getLast?_digestName] at hlast))]
    rw [pathFor_eq_join]
    exact resolve_join (plain_digestName r.body)
      (resolve_join (plain_sanitize r.declaringType) hroot.resolve)
  exact ⟨(follow_of_endsWith w (sw.pathFor_endsWith _ _)).trans htarget, htarget⟩

/-- The parents of a type's directory are the root's directories. -/
theorem RootAt.parentsOk_typeDir (hroot : sw.RootAt w R) (ty : String) :
    w.parentsOk (typeDir R ty) = .ok () := by
  rw [parentsOk_eq_ok]
  intro i hi
  simp only [typeDir, List.length_append, List.length_singleton] at hi
  rw [typeDir, List.take_append_of_le_length (by omega)]
  exact hroot.dirs i (by omega)

/-- A type's directory that stands is a directory with all its prefixes. -/
theorem RootAt.typeDir_chain (hroot : sw.RootAt w R) {ty : String}
    (hD : w.node? (typeDir R ty) = some .dir) :
    ∀ i ≤ (typeDir R ty).length, w.node? ((typeDir R ty).take i) = some .dir := by
  intro i hi
  rcases Nat.lt_or_eq_of_le hi with hlt | rfl
  · exact (parentsOk_eq_ok w _).mp (hroot.parentsOk_typeDir ty) i hlt
  · rwa [List.take_length]

theorem stubFile_ne_typeDir (R : AbsPath) (r : PutRecord) (ty : String) :
    stubFile R r ≠ typeDir R ty := fun h => by
  have hlen := congrArg List.length h
  simp [stubFile, typeDir] at hlen

theorem stubFile_ne_nil (R : AbsPath) (r : PutRecord) : stubFile R r ≠ [] := by
  simp [stubFile]

theorem typeDir_ne_nil (R : AbsPath) (ty : String) : typeDir R ty ≠ [] := by
  simp [typeDir]

/-! ### One write -/

/-- The directory of a stub's type is taken by something that is not a directory. -/
def blocked (w : Workspace) (R : AbsPath) (ty : String) : Bool :=
  (w.node? (typeDir R ty)).any (· != .dir)

theorem blocked_eq_false {ty : String} :
    blocked w R ty = false ↔
      w.node? (typeDir R ty) = none ∨ w.node? (typeDir R ty) = some .dir := by
  unfold blocked
  cases w.node? (typeDir R ty) with
  | none => simp
  | some n => cases n <;> simp

/-- **Making a type's directory**: it is made where nothing stands, accepted where a directory
stands, and refused where something else does. -/
theorem RootAt.createDirAllNamed_typeDir (hroot : sw.RootAt w R) (ty : String) :
    w.createDirAllNamed (sw.typeDirText ty) =
      if w.node? (typeDir R ty) = none then .ok (w.put (typeDir R ty) .dir)
      else if blocked w R ty then .error .alreadyExists else .ok w := by
  have htarget := hroot.target_typeDirText ty
  have hpar := hroot.parentsOk_typeDir ty
  have hempty : (sw.typeDirText ty).isEmpty = false := by
    rw [← Bool.not_eq_true, String.isEmpty_iff]
    exact sw.typeDirText_ne_empty ty
  unfold createDirAllNamed
  rw [createDirsNamed, if_neg (by simp [hempty])]
  cases hn : w.node? (typeDir R ty) with
  | none => simp [htarget, mkdir, hpar, hn, bind, Except.bind]
  | some n =>
    -- something stands there: it is accepted when it is a directory
    have hdir : w.isDirText (sw.typeDirText ty) = (n == .dir) := by
      unfold isDirText
      rw [follow_of_endsWith w (sw.typeDirText_endsWith ty), htarget]
      cases n <;> simp [lookup, hpar, hn, bind, Except.bind, pure, Except.pure]
    cases n <;> simp [htarget, mkdir, hpar, hn, bind, Except.bind, hdir, blocked]

/-- A type's directory that is not blocked is there after it is made, and nothing else
changes. -/
theorem RootAt.createDirAllNamed_of_not_blocked (ht : w.Tree) (hroot : sw.RootAt w R)
    {ty : String} (hb : blocked w R ty = false) :
    ∃ w₁, w.createDirAllNamed (sw.typeDirText ty) = .ok w₁ ∧ w₁.cwd = w.cwd ∧ w₁.Tree ∧
      ∀ q, w₁.node? q = if q = typeDir R ty then some .dir else w.node? q := by
  rw [hroot.createDirAllNamed_typeDir, hb]
  rcases blocked_eq_false.mp hb with hnone | hdir
  · refine ⟨_, if_pos hnone, cwd_put .., ht.put (typeDir_ne_nil R ty)
      (hroot.parentsOk_typeDir ty) hnone .dir, node?_put w (typeDir_ne_nil R ty) .dir⟩
  · refine ⟨w, by simp [hdir], rfl, ht, fun q => ?_⟩
    split
    · subst q
      exact hdir
    · rfl

/-- `w'` is `w` with a stub's file added: its type's directory, and the file holding the
stub's whole text. -/
structure Adds (w w' : Workspace) (R : AbsPath) (r : PutRecord) : Prop where
  cwd : w'.cwd = w.cwd
  tree : w'.Tree
  node? : ∀ q, w'.node? q =
    if q = stubFile R r then some (.file (content r.body))
    else if q = typeDir R r.declaringType then some .dir else w.node? q

/-- Where nothing stands at a stub's file and its type's directory is not blocked, the write
adds the stub's file: the temporary file it goes through is moved into place. -/
theorem write_of_not_blocked (ht : w.Tree) (hroot : sw.RootAt w R) {r : PutRecord}
    (hP : w.node? (stubFile R r) = none) (hb : blocked w R r.declaringType = false) :
    (sw.write w r).1 = .ok (some (sw.pathFor r.declaringType r.body)) ∧
      Adds w (sw.write w r).2 R r := by
  obtain ⟨w₁, hcreate, hcwd₁, htree₁, hnode₁⟩ := hroot.createDirAllNamed_of_not_blocked ht hb
  have hkept₁ : ∀ p n, w.node? p = some n → w₁.node? p = some n := fun p n hp => by
    rw [hnode₁]
    split
    · subst p
      rcases blocked_eq_false.mp hb with hnone | hdir
      · rw [hnone] at hp
        cases hp
      · rw [← hp, hdir]
    · exact hp
  have hroot₁ := hroot.mono hcwd₁ hkept₁
  have hD₁ : w₁.node? (typeDir R r.declaringType) = some .dir := by simp [hnode₁]
  -- the temporary file: a free name in the type's directory
  obtain ⟨temp, htemp⟩ : ∃ temp, temp =
      typeDir R r.declaringType ++ [tempName w₁ (typeDir R r.declaringType)] := ⟨_, rfl⟩
  have htempnone : w₁.node? temp = none := htemp ▸ node?_freshName w₁ _ (by decide)
  have htemppar : w₁.parentsOk temp = .ok () :=
    htemp ▸ parentsOk_snoc (hroot₁.typeDir_chain hD₁) _
  have htempne : temp ≠ [] := by simp [htemp]
  have hPtemp : stubFile R r ≠ temp := by
    intro h
    have hend : EndsInPut temp := by
      rw [← h]
      refine ⟨typeDir R r.declaringType, ("put_" ++ Md5.hexOfString r.body).toList, ?_⟩
      rw [← String.toList_append, String.ofList_toList]
      rfl
    exact not_endsInPut_temp _ (.inl rfl) _ rfl (htemp ▸ hend)
  have hDtemp : typeDir R r.declaringType ≠ temp := fun h => by
    have hlen := congrArg List.length h
    simp [htemp] at hlen
  obtain ⟨w₂, hw₂⟩ : ∃ w₂, w₂ = w₁.put temp (.file (content r.body)) := ⟨_, rfl⟩
  have hnode₂ : ∀ q, w₂.node? q = if q = temp then some (.file (content r.body)) else w₁.node? q :=
    hw₂ ▸ node?_put w₁ htempne _
  have htree₂ : w₂.Tree := hw₂ ▸ htree₁.put htempne htemppar htempnone _
  have hroot₂ : sw.RootAt w₂ R := hroot₁.mono (by rw [hw₂, cwd_put]) fun p n hp => by
    rw [hnode₂, if_neg (fun h => by rw [h, htempnone] at hp; cases hp)]
    exact hp
  have hD₂ : w₂.node? (typeDir R r.declaringType) = some .dir := by
    rw [hnode₂, if_neg hDtemp]
    exact hD₁
  have hP₁ : w₁.node? (stubFile R r) = none := by
    rw [hnode₁, if_neg (stubFile_ne_typeDir R r _)]
    exact hP
  -- the move over the stub's file
  have hmove : w₂.renameOnto temp (sw.pathFor r.declaringType r.body) =
      .ok ((w₂.drop temp).put (stubFile R r) (.file (content r.body))) := by
    refine renameOnto_of (hroot₂.follow_pathFor r).2 ?_ (sw.pathFor_endsWith _ _)
      (htree₂ temp (by simp [hnode₂])) (by simp [hnode₂]) (by simp) ?_
      (parentsOk_snoc (hroot₂.typeDir_chain hD₂) _) (by rw [hnode₂, if_neg hPtemp, hP₁])
    · rw [pathFor_eq_join]
      exact endsInDots_join (plain_digestName r.body)
    · simpa [stubFile] using hroot₂.parentsOk_typeDir r.declaringType
  -- after the move, the tree is `w₁` with the stub's file
  have hnode₃ : ∀ q, ((w₂.drop temp).put (stubFile R r) (.file (content r.body))).node? q =
      if q = stubFile R r then some (.file (content r.body)) else w₁.node? q := by
    intro q
    rw [node?_put _ (stubFile_ne_nil R r), node?_drop]
    split
    · rfl
    split
    · rename_i _ hgone
      rcases hgone.2 with rfl | hbelow
      · exact htempnone.symm
      · exact (htree₁.node?_below (by simp [htempnone]) hbelow).symm
    · rename_i _ hkeep
      rw [hnode₂, if_neg (fun h => hkeep ⟨by rw [h]; exact htempne, .inl h⟩)]
  unfold StubWriter.write
  dsimp only
  rw [(hroot.follow_pathFor r).1]
  simp only [ht.pathExists, hP, Option.isSome_none, Bool.false_eq_true, if_false,
    parent?_pathFor, Option.getD_some, hcreate, hroot₁.resolve_typeDirText, ← htemp,
    write_of_none htemppar htempnone, ← hw₂, hmove]
  refine ⟨trivial, by rw [cwd_put, cwd_drop, hw₂, cwd_put, hcwd₁], htree₁.of_node? (parentsOk_snoc
    (hroot₁.typeDir_chain hD₁) _) hP₁ _ hnode₃, fun q => ?_⟩
  rw [hnode₃, hnode₁]

/-- **What one write does**, in a tree whose stub root is a directory: it finds an entry at the
stub's file and changes nothing; or the stub's type's directory is blocked, and it fails to make
it and changes nothing; or it adds the stub's file. -/
theorem write_outcomes (ht : w.Tree) (hroot : sw.RootAt w R) (r : PutRecord) :
    ((w.node? (stubFile R r)).isSome ∧ sw.write w r = (.ok none, w)) ∨
    (w.node? (stubFile R r) = none ∧ blocked w R r.declaringType = true ∧
      sw.write w r = (.error (.createDir (sw.typeDirText r.declaringType) .alreadyExists), w)) ∨
    (w.node? (stubFile R r) = none ∧ blocked w R r.declaringType = false ∧
      (sw.write w r).1 = .ok (some (sw.pathFor r.declaringType r.body)) ∧
      Adds w (sw.write w r).2 R r) := by
  cases hP : w.node? (stubFile R r) with
  | some n =>
    refine .inl ⟨rfl, sw.write_of_present ⟨stubFile R r, (hroot.follow_pathFor r).1, ?_⟩⟩
    rw [ht.pathExists, hP]
    rfl
  | none =>
    cases hb : blocked w R r.declaringType with
    | false => exact .inr (.inr ⟨rfl, rfl, sw.write_of_not_blocked ht hroot hP hb⟩)
    | true =>
      refine .inr (.inl ⟨rfl, rfl, ?_⟩)
      -- something that is not a directory stands where the type's directory goes
      have hstands : w.node? (typeDir R r.declaringType) ≠ none := fun h => by
        simp [blocked, h] at hb
      have hcreate : w.createDirAllNamed (sw.typeDirText r.declaringType) =
          .error .alreadyExists := by
        rw [hroot.createDirAllNamed_typeDir, hb, if_neg hstands, if_pos rfl]
      unfold StubWriter.write
      dsimp only
      rw [(hroot.follow_pathFor r).1]
      simp [ht.pathExists, hP, parent?_pathFor, hcreate]

/-! ### A batch -/

/-- The failure noted for a stub at its place in a batch: a stub whose type's directory is
blocked fails to make it. -/
def failure (sw : StubWriter) (w : Workspace) (R : AbsPath) (x : PutRecord × Nat) :
    Option (Nat × StubFileError) :=
  if blocked w R x.1.declaringType then
    some (x.2, .createDir (sw.typeDirText x.1.declaringType) .alreadyExists)
  else none

/-- Counting the members of a set with one more: the count of the old members, and one more
when the new member is new and counted. -/
theorem card_filter_insert {α : Type} [DecidableEq α] (S : Finset α) (a : α) (p q : α → Prop)
    [DecidablePred p] [DecidablePred q] (hpq : ∀ x ∈ S, q x ↔ p x) :
    ((insert a S).filter q).card = (S.filter p).card + if a ∉ S ∧ q a then 1 else 0 := by
  have hS : S.filter q = S.filter p := Finset.filter_congr hpq
  by_cases ha : a ∈ S
  · rw [Finset.insert_eq_of_mem ha, hS]
    simp [ha]
  · rw [Finset.filter_insert]
    by_cases hqa : q a
    · rw [if_pos hqa, Finset.card_insert_of_notMem (by simp [ha]), hS, if_pos ⟨ha, hqa⟩]
    · rw [if_neg hqa, hS, if_neg (fun h => hqa h.2), Nat.add_zero]

/-- What writing the stubs `pre` of a batch, from the tree `w`, has done when it reaches
`acc`: nothing that stood changed; what is new is a type's directory or the whole file of a
stub whose type's directory is not blocked; every such stub has an entry at its file; the
failures are those of the blocked stubs, in order; and the files counted as written are the
stubs' files that are new. -/
structure Batch (sw : StubWriter) (w : Workspace) (R : AbsPath) (pre : List (PutRecord × Nat))
    (acc : WriteSummary × Workspace) : Prop where
  tree : acc.2.Tree
  cwd : acc.2.cwd = w.cwd
  kept : ∀ p n, w.node? p = some n → acc.2.node? p = some n
  new : ∀ p n, w.node? p = none → acc.2.node? p = some n →
    (∃ x ∈ pre, p = typeDir R x.1.declaringType ∧ n = .dir) ∨
    (∃ x ∈ pre, blocked w R x.1.declaringType = false ∧ p = stubFile R x.1 ∧
      n = .file (content x.1.body))
  filed : ∀ x ∈ pre, blocked w R x.1.declaringType = false →
    (acc.2.node? (stubFile R x.1)).isSome
  failed : acc.1.failed = pre.filterMap (sw.failure w R)
  written : acc.1.written = ((pre.map fun x => stubFile R x.1).toFinset.filter
    fun p => w.node? p = none ∧ (acc.2.node? p).isSome).card

theorem Batch.start (ht : w.Tree) : Batch sw w R [] ({}, w) :=
  ⟨ht, rfl, fun _ _ h => h, fun _ n h h' => (by rw [h] at h'; cases h'), (by simp), rfl,
    (by simp)⟩

section Turn

variable {pre : List (PutRecord × Nat)} {acc : WriteSummary × Workspace}

theorem Batch.rootAt (hb : Batch sw w R pre acc) (hroot : sw.RootAt w R) : sw.RootAt acc.2 R :=
  hroot.mono hb.cwd hb.kept

/-- A type's directory is blocked along the batch as it was at its start: what stands there
stays, and what is made there is a directory. -/
theorem Batch.blocked_eq (hb : Batch sw w R pre acc) (ty : String) :
    blocked acc.2 R ty = blocked w R ty := by
  cases hD : w.node? (typeDir R ty) with
  | some n => simp [blocked, hD, hb.kept _ _ hD]
  | none =>
    cases hD' : acc.2.node? (typeDir R ty) with
    | none => simp [blocked, hD, hD']
    | some n =>
      rcases hb.new _ _ hD hD' with ⟨x, -, -, rfl⟩ | ⟨x, -, -, hfile, -⟩
      · simp [blocked, hD, hD']
      · exact absurd hfile.symm (stubFile_ne_typeDir R x.1 ty)

/-- Stubs with the same file have the same type's directory. -/
theorem typeDir_eq_of_stubFile_eq {R : AbsPath} {r r' : PutRecord}
    (h : stubFile R r = stubFile R r') :
    typeDir R r.declaringType = typeDir R r'.declaringType := by
  have hdrop := congrArg List.dropLast h
  simpa [stubFile] using hdrop

/-- An entry at a stub's file sits in its type's directory, which is then not blocked. -/
theorem Batch.not_blocked_of_isSome (hb : Batch sw w R pre acc) {r : PutRecord}
    (hP : (acc.2.node? (stubFile R r)).isSome) : blocked w R r.declaringType = false := by
  have hdirs := (parentsOk_eq_ok _ _).mp (hb.tree _ hP) (typeDir R r.declaringType).length
    (by simp [stubFile])
  rw [stubFile, List.take_left'] at hdirs
  · rw [← hb.blocked_eq]
    simp [blocked, hdirs]
  · rfl

/-- A stub's file that is new in the batch is the file of a stub written before. -/
theorem Batch.mem_of_new (hb : Batch sw w R pre acc) {r : PutRecord}
    (hnone : w.node? (stubFile R r) = none) (hsome : (acc.2.node? (stubFile R r)).isSome) :
    stubFile R r ∈ (pre.map fun x => stubFile R x.1).toFinset := by
  obtain ⟨n, hn⟩ := Option.isSome_iff_exists.mp hsome
  rcases hb.new _ _ hnone hn with ⟨x, -, hdir, -⟩ | ⟨x, hx, -, hfile, -⟩
  · exact absurd hdir (stubFile_ne_typeDir R r _)
  · rw [hfile]
    exact List.mem_toFinset.mpr (List.mem_map_of_mem hx)

theorem toFinset_append_singleton {α : Type} [DecidableEq α] (l : List α) (a : α) :
    (l ++ [a]).toFinset = insert a l.toFinset := by
  rw [List.toFinset_append, List.toFinset_cons, List.toFinset_nil, Finset.insert_empty,
    Finset.union_singleton]

theorem files_snoc (R : AbsPath) (pre : List (PutRecord × Nat)) (x : PutRecord × Nat) :
    ((pre ++ [x]).map fun y => stubFile R y.1).toFinset =
      insert (stubFile R x.1) (pre.map fun y => stubFile R y.1).toFinset := by
  rw [List.map_append, List.map_singleton, toFinset_append_singleton]

/-- What was new before a turn is new after it, with the stubs written so far. -/
theorem Batch.new_snoc (hb : Batch sw w R pre acc) (x : PutRecord × Nat) {p : AbsPath} {n : Node}
    (hp : w.node? p = none) (hn : acc.2.node? p = some n) :
    (∃ y ∈ pre ++ [x], p = typeDir R y.1.declaringType ∧ n = .dir) ∨
    (∃ y ∈ pre ++ [x], blocked w R y.1.declaringType = false ∧ p = stubFile R y.1 ∧
      n = .file (content y.1.body)) := by
  rcases hb.new p n hp hn with ⟨y, hy, h⟩ | ⟨y, hy, h⟩
  · exact .inl ⟨y, List.mem_append_left _ hy, h⟩
  · exact .inr ⟨y, List.mem_append_left _ hy, h⟩

/-- A turn that leaves the tree as it is keeps the count of files written, when its stub's file
is no new one the batch has not counted yet. -/
theorem Batch.written_snoc (hb : Batch sw w R pre acc) (x : PutRecord × Nat)
    (hcounted : w.node? (stubFile R x.1) = none → (acc.2.node? (stubFile R x.1)).isSome →
      stubFile R x.1 ∈ (pre.map fun y => stubFile R y.1).toFinset) :
    acc.1.written = (((pre ++ [x]).map fun y => stubFile R y.1).toFinset.filter
      fun p => w.node? p = none ∧ (acc.2.node? p).isSome).card := by
  rw [hb.written, files_snoc, card_filter_insert _ _ _ _ fun _ _ => Iff.rfl, if_neg, Nat.add_zero]
  rintro ⟨hnotin, hnone, hsome⟩
  exact hnotin (hcounted hnone hsome)

/-- A write that finds an entry at the stub's file keeps the invariant. -/
theorem Batch.found (hb : Batch sw w R pre acc) (x : PutRecord × Nat)
    (hP : (acc.2.node? (stubFile R x.1)).isSome) : Batch sw w R (pre ++ [x]) acc := by
  have hfree := hb.not_blocked_of_isSome hP
  refine ⟨hb.tree, hb.cwd, hb.kept, fun p n hp hn => ?_, fun y hy hy' => ?_, ?_, ?_⟩
  · exact hb.new_snoc x hp hn
  · rcases List.mem_append.mp hy with hy | hy
    · exact hb.filed y hy hy'
    · rw [List.mem_singleton.mp hy]
      exact hP
  · simp [hb.failed, failure, hfree]
  · -- the stub's file is counted already, or is no new file
    exact hb.written_snoc x fun hnone _ => hb.mem_of_new hnone hP

/-- A write that fails on a blocked type's directory keeps the invariant, the failure noted. -/
theorem Batch.fail (hb : Batch sw w R pre acc) (x : PutRecord × Nat)
    (hP : acc.2.node? (stubFile R x.1) = none) (hblocked : blocked w R x.1.declaringType = true) :
    Batch sw w R (pre ++ [x]) ({ acc.1 with failed := acc.1.failed ++
      [(x.2, .createDir (sw.typeDirText x.1.declaringType) .alreadyExists)] }, acc.2) := by
  refine ⟨hb.tree, hb.cwd, hb.kept, fun p n hp hn => ?_, fun y hy hy' => ?_, ?_, ?_⟩
  · exact hb.new_snoc x hp hn
  · rcases List.mem_append.mp hy with hy | hy
    · exact hb.filed y hy hy'
    · rw [List.mem_singleton.mp hy, hblocked] at hy'
      cases hy'
  · simp [hb.failed, failure, hblocked]
  · -- no file is made, so none is counted
    exact hb.written_snoc x fun _ hsome => by simp [hP] at hsome

/-- A write that adds the stub's file keeps the invariant, the file counted. -/
theorem Batch.add (hb : Batch sw w R pre acc) (x : PutRecord × Nat) {w' : Workspace}
    (hP : acc.2.node? (stubFile R x.1) = none) (hfree : blocked w R x.1.declaringType = false)
    (hadds : Adds acc.2 w' R x.1) :
    Batch sw w R (pre ++ [x]) ({ acc.1 with written := acc.1.written + 1 }, w') := by
  have hfree' : blocked acc.2 R x.1.declaringType = false := (hb.blocked_eq _).trans hfree
  -- what stood stays: a type's directory that stood was a directory
  have hstays : ∀ q n, acc.2.node? q = some n → w'.node? q = some n := fun q n hq => by
    rw [hadds.node?]
    split_ifs with h₁ h₂
    · rw [h₁, hP] at hq
      cases hq
    · subst h₂
      rcases blocked_eq_false.mp hfree' with hnone | hdir
      · rw [hnone] at hq
        cases hq
      · rw [← hq, hdir]
    · exact hq
  -- the stub's file is new: no stub before had it
  have hnotin : stubFile R x.1 ∉ (pre.map fun y => stubFile R y.1).toFinset := by
    intro hmem
    obtain ⟨y, hy, hfile⟩ := List.mem_map.mp (List.mem_toFinset.mp hmem)
    have hsame : blocked w R y.1.declaringType = blocked w R x.1.declaringType := by
      rw [blocked, blocked, typeDir_eq_of_stubFile_eq hfile]
    have hfiled := hb.filed y hy (hsame.trans hfree)
    rw [hfile, hP] at hfiled
    cases hfiled
  refine ⟨hadds.tree, hadds.cwd.trans hb.cwd, fun p n hp => hstays p n (hb.kept p n hp),
    fun p n hp hn => ?_, fun y hy hy' => ?_, ?_, ?_⟩
  · rw [hadds.node?] at hn
    split_ifs at hn with h₁ h₂
    · exact .inr ⟨x, by simp, hfree, h₁, (Option.some.inj hn).symm⟩
    · exact .inl ⟨x, by simp, h₂, (Option.some.inj hn).symm⟩
    · exact hb.new_snoc x hp hn
  · rcases List.mem_append.mp hy with hy | hy
    · obtain ⟨n, hn⟩ := Option.isSome_iff_exists.mp (hb.filed y hy hy')
      simp [hstays _ _ hn]
    · rw [List.mem_singleton.mp hy, hadds.node?, if_pos rfl]
      rfl
  · simp [hb.failed, failure, hfree]
  · -- the stub's file is the one new file; every earlier stub's file is as it was
    dsimp only
    have hnew : w.node? (stubFile R x.1) = none := by
      cases hw : w.node? (stubFile R x.1) with
      | none => rfl
      | some n => rw [hb.kept _ _ hw] at hP; cases hP
    have hcount := card_filter_insert (pre.map fun y => stubFile R y.1).toFinset (stubFile R x.1)
      (fun p => w.node? p = none ∧ (acc.2.node? p).isSome)
      (fun p => w.node? p = none ∧ (w'.node? p).isSome) fun q hq => by
        obtain ⟨y, -, rfl⟩ := List.mem_map.mp (List.mem_toFinset.mp hq)
        have hne : stubFile R y.1 ≠ stubFile R x.1 := fun h => hnotin (h ▸ hq)
        rw [hadds.node?, if_neg hne, if_neg (stubFile_ne_typeDir R y.1 _)]
    rw [hb.written, files_snoc, hcount, if_pos ⟨hnotin, hnew, by simp [hadds.node?]⟩]

/-- **One turn of a batch** keeps the invariant. -/
theorem Batch.turn (hb : Batch sw w R pre acc) (hroot : sw.RootAt w R) (x : PutRecord × Nat) :
    Batch sw w R (pre ++ [x]) (sw.writeTurn acc x) := by
  rcases write_outcomes hb.tree (hb.rootAt hroot) x.1 with
    ⟨hP, hw⟩ | ⟨hP, hblocked, hw⟩ | ⟨hP, hfree, hres, hadds⟩
  · rw [writeTurn, hw]
    exact hb.found x hP
  · rw [writeTurn, hw]
    exact hb.fail x hP ((hb.blocked_eq _).symm.trans hblocked)
  · have hsplit : sw.write acc.2 x.1 = ((sw.write acc.2 x.1).1, (sw.write acc.2 x.1).2) := rfl
    rw [writeTurn, hsplit, hres]
    exact hb.add x hP ((hb.blocked_eq _).symm.trans hfree) hadds

end Turn

/-- **Every batch** keeps the invariant, from its first stub to its last. -/
theorem Batch.foldl (hroot : sw.RootAt w R) :
    ∀ (xs pre : List (PutRecord × Nat)) (acc : WriteSummary × Workspace),
      Batch sw w R pre acc → Batch sw w R (pre ++ xs) (xs.foldl sw.writeTurn acc)
  | [], pre, acc, hb => by simpa using hb
  | x :: xs, pre, acc, hb => by
    rw [List.foldl_cons, ← List.singleton_append, ← List.append_assoc]
    exact Batch.foldl hroot xs _ _ (hb.turn hroot x)

theorem batch_writeAll (ht : w.Tree) (hroot : sw.RootAt w R) (rs : List PutRecord) :
    Batch sw w R rs.zipIdx (sw.writeAll w rs) := by
  rw [writeAll_eq_foldl]
  simpa using Batch.foldl hroot rs.zipIdx [] _ (Batch.start ht)

/-- The places the failures of a batch name are those of its stubs whose type's directory is
blocked. -/
theorem mem_failed_iff (rs : List PutRecord) (i : Nat) :
    i ∈ (rs.zipIdx.filterMap (sw.failure w R)).map Prod.fst ↔
      ∃ r, rs[i]? = some r ∧ blocked w R r.declaringType = true := by
  simp only [List.mem_map, List.mem_filterMap]
  constructor
  · rintro ⟨⟨j, e⟩, ⟨x, hx, hfail⟩, rfl⟩
    unfold failure at hfail
    split at hfail
    · rename_i hblocked
      obtain ⟨rfl, -⟩ := Prod.mk.inj (Option.some.inj hfail)
      exact ⟨x.1, List.mem_zipIdx_iff_getElem?.mp hx, hblocked⟩
    · cases hfail
  · rintro ⟨r, hr, hblocked⟩
    exact ⟨(i, .createDir (sw.typeDirText r.declaringType) .alreadyExists),
      ⟨(r, i), List.mem_zipIdx_iff_getElem?.mpr hr, by simp [failure, hblocked]⟩, rfl⟩

/-- The failures of a batch are noted in the order of its stubs. -/
theorem failed_sorted (rs : List PutRecord) :
    ((rs.zipIdx.filterMap (sw.failure w R)).map Prod.fst).Pairwise (· < ·) := by
  have hidx : rs.zipIdx.Pairwise (fun x y => x.2 < y.2) := by
    rw [← List.pairwise_map (R := (· < ·)), List.zipIdx_map_snd]
    exact List.pairwise_lt_range' 1 Nat.one_pos
  rw [List.pairwise_map]
  refine hidx.filterMap _ fun x y hxy a ha b hb => ?_
  unfold failure at ha hb
  split at ha <;> split at hb <;> simp only [Option.some.injEq, reduceCtorEq] at ha hb
  rw [← ha, ← hb]
  exact hxy

/-- A batch all of whose stubs stand at their files writes nothing and changes nothing. -/
theorem writeAll_of_present {rs : List PutRecord} (h : ∀ r ∈ rs, sw.Present w r) :
    sw.writeAll w rs = ({}, w) := by
  -- each turn finds its stub and leaves the summary and the tree as they are
  have hturns : ∀ xs : List (PutRecord × Nat), (∀ x ∈ xs, sw.Present w x.1) →
      xs.foldl sw.writeTurn ({}, w) = ({}, w) := by
    intro xs
    induction xs with
    | nil => exact fun _ => rfl
    | cons x xs ih =>
      intro hxs
      rw [List.foldl_cons]
      unfold writeTurn
      dsimp only
      rw [sw.write_of_present (hxs x List.mem_cons_self)]
      exact ih fun y hy => hxs y (List.mem_cons_of_mem _ hy)
  rw [writeAll_eq_foldl]
  exact hturns _ fun x hx => h x.1 (List.mem_of_getElem? (List.mem_zipIdx_iff_getElem?.mp hx))

/-! ### A whole batch -/

section Whole

variable {rs : List PutRecord} {acc : WriteSummary × Workspace}

/-- After a whole batch, a stub whose place is not noted as failed has an entry at its file:
it is not blocked. -/
theorem Batch.filed_of_not_failed (hb : Batch sw w R rs.zipIdx acc) {i : Nat} {r : PutRecord}
    (hr : rs[i]? = some r) (hi : i ∉ acc.1.failed.map Prod.fst) :
    (acc.2.node? (stubFile R r)).isSome := by
  refine hb.filed (r, i) (List.mem_zipIdx_iff_getElem?.mpr hr) ?_
  rw [← Bool.not_eq_true]
  intro hblocked
  rw [hb.failed] at hi
  exact hi ((sw.mem_failed_iff rs i).mpr ⟨r, hr, hblocked⟩)

/-- After a whole batch, every new entry is a type's directory or the whole file of a stub
whose place is not noted as failed. -/
theorem Batch.new_placed (hb : Batch sw w R rs.zipIdx acc) {p : AbsPath} {n : Node}
    (hp : w.node? p = none) (hn : acc.2.node? p = some n) :
    (∃ r ∈ rs, p = typeDir R r.declaringType ∧ n = .dir) ∨
    ∃ i r, rs[i]? = some r ∧ i ∉ acc.1.failed.map Prod.fst ∧ p = stubFile R r ∧
      n = .file (content r.body) := by
  rcases hb.new p n hp hn with ⟨x, hx, h⟩ | ⟨x, hx, hfree, h⟩
  · exact .inl ⟨x.1, List.mem_of_getElem? (List.mem_zipIdx_iff_getElem?.mp hx), h⟩
  · -- the stub is not blocked, so its place is noted as no failure
    refine .inr ⟨x.2, x.1, List.mem_zipIdx_iff_getElem?.mp hx, fun hi => ?_, h⟩
    rw [hb.failed, sw.mem_failed_iff] at hi
    obtain ⟨r, hr, hblocked⟩ := hi
    rw [List.mem_zipIdx_iff_getElem?.mp hx] at hr
    rw [← Option.some.inj hr, hfree] at hblocked
    cases hblocked

/-- After a whole batch, the files counted as written are the stubs' files that are new. -/
theorem Batch.written_files (hb : Batch sw w R rs.zipIdx acc) :
    acc.1.written = ((rs.map (stubFile R)).toFinset.filter
      fun p => w.node? p = none ∧ (acc.2.node? p).isSome).card := by
  have hfiles : (rs.zipIdx.map fun x => stubFile R x.1) = rs.map (stubFile R) := by
    rw [show (fun x : PutRecord × Nat => stubFile R x.1) = stubFile R ∘ Prod.fst from rfl,
      ← List.map_map, List.zipIdx_map_fst]
  rw [hb.written, hfiles]

/-- After a whole batch, the failures name places of the batch. -/
theorem Batch.failed_lt (hb : Batch sw w R rs.zipIdx acc) :
    ∀ x ∈ acc.1.failed, x.1 < rs.length := by
  intro x hx
  have hmem : x.1 ∈ acc.1.failed.map Prod.fst := List.mem_map_of_mem hx
  rw [hb.failed, sw.mem_failed_iff] at hmem
  obtain ⟨r, hr, -⟩ := hmem
  exact (List.getElem?_eq_some_iff.mp hr).1

/-- After a whole batch with no failure, every stub stands at its file, so writing the batch
again finds them all. -/
theorem Batch.writeAll_again (hb : Batch sw w R rs.zipIdx acc) (hroot : sw.RootAt w R)
    (hnone : acc.1.failed = []) :
    sw.writeAll acc.2 rs = ({ written := 0, failed := [] }, acc.2) := by
  refine sw.writeAll_of_present fun r hr => ?_
  obtain ⟨i, hi⟩ := List.mem_iff_getElem?.mp hr
  refine ⟨stubFile R r, ((hb.rootAt hroot).follow_pathFor r).1, ?_⟩
  rw [hb.tree.pathExists]
  exact hb.filed_of_not_failed hi (by simp [hnone])

end Whole

end StubWriter

open StubWriter in
/-- **Writing a batch of stubs**, in a tree whose stub root is a directory. Every stub's path
text names its file under the root, before and after. The failures are the stubs whose type's
directory is taken by something else, with the error of making it, and every other stub has an
entry at its file. Nothing that stood changes; what is new is a type's directory or the whole
file of a stub that did not fail. The files counted as written are the stubs' files that are
new, each counted once. The failures come in the order of the batch, at places in it. After a
batch with no failure, writing it again writes nothing and changes nothing. -/
theorem stub_batch_content_addressed (sw : StubWriter) (w : Workspace) (rs : List PutRecord)
    (htree : w.Tree) {R : AbsPath} (hroot : sw.RootAt w R) :
    let out := sw.writeAll w rs
    (∀ r : PutRecord, w.follow (sw.pathFor r.declaringType r.body) = .ok (stubFile R r) ∧
      out.2.follow (sw.pathFor r.declaringType r.body) = .ok (stubFile R r)) ∧
    out.1.failed = rs.zipIdx.filterMap (sw.failure w R) ∧
    (∀ i r, rs[i]? = some r → i ∉ out.1.failed.map Prod.fst →
      (out.2.node? (stubFile R r)).isSome) ∧
    (∀ p n, w.node? p = some n → out.2.node? p = some n) ∧
    (∀ p n, w.node? p = none → out.2.node? p = some n →
      (∃ r ∈ rs, p = typeDir R r.declaringType ∧ n = .dir) ∨
      ∃ i r, rs[i]? = some r ∧ i ∉ out.1.failed.map Prod.fst ∧ p = stubFile R r ∧
        n = .file (content r.body)) ∧
    out.1.written = ((rs.map (stubFile R)).toFinset.filter
      fun p => w.node? p = none ∧ (out.2.node? p).isSome).card ∧
    (out.1.failed.map Prod.fst).Pairwise (· < ·) ∧
    (∀ x ∈ out.1.failed, x.1 < rs.length) ∧
    (out.1.failed = [] → sw.writeAll out.2 rs = ({ written := 0, failed := [] }, out.2)) := by
  intro out
  have hb := batch_writeAll htree hroot rs
  exact ⟨fun r => ⟨(hroot.follow_pathFor r).1, ((hb.rootAt hroot).follow_pathFor r).1⟩,
    hb.failed, fun _ _ hr hi => hb.filed_of_not_failed hr hi, hb.kept,
    fun _ _ hp hn => hb.new_placed hp hn, hb.written_files, hb.failed ▸ sw.failed_sorted rs,
    hb.failed_lt, hb.writeAll_again hroot⟩

/-- The working directory of the initial tree is a stub root for the writer rooted at `.`. -/
theorem StubWriter.rootAt_dot_initial : StubWriter.RootAt ⟨"."⟩ Workspace.initial ["work"] :=
  ⟨Coverage.resolve_dot_initial, fun i hi => by
    rw [List.length_singleton] at hi
    interval_cases i <;> rfl⟩

open StubWriter in
/-- Two copies of one stub written into the initial tree, under the working directory. -/
theorem stub_batch_twice_from_initial :
    let sw : StubWriter := ⟨"."⟩
    let w := Workspace.initial
    let R : AbsPath := ["work"]
    let rs : List PutRecord := [{ (default : PutRecord) with declaringType := "T", body := "x" },
      { (default : PutRecord) with declaringType := "T", body := "x" }]
    let out := sw.writeAll w rs
    w.Tree ∧ sw.RootAt w R ∧
    (∀ r : PutRecord, w.follow (sw.pathFor r.declaringType r.body) = .ok (stubFile R r) ∧
      out.2.follow (sw.pathFor r.declaringType r.body) = .ok (stubFile R r)) ∧
    out.1.failed = rs.zipIdx.filterMap (sw.failure w R) ∧
    (∀ i r, rs[i]? = some r → i ∉ out.1.failed.map Prod.fst →
      (out.2.node? (stubFile R r)).isSome) ∧
    (∀ p n, w.node? p = some n → out.2.node? p = some n) ∧
    (∀ p n, w.node? p = none → out.2.node? p = some n →
      (∃ r ∈ rs, p = typeDir R r.declaringType ∧ n = .dir) ∨
      ∃ i r, rs[i]? = some r ∧ i ∉ out.1.failed.map Prod.fst ∧ p = stubFile R r ∧
        n = .file (content r.body)) ∧
    out.1.written = ((rs.map (stubFile R)).toFinset.filter
      fun p => w.node? p = none ∧ (out.2.node? p).isSome).card ∧
    (out.1.failed.map Prod.fst).Pairwise (· < ·) ∧
    (∀ x ∈ out.1.failed, x.1 < rs.length) ∧
    (out.1.failed = [] → sw.writeAll out.2 rs = ({ written := 0, failed := [] }, out.2)) :=
  ⟨Workspace.tree_initial, rootAt_dot_initial,
    stub_batch_content_addressed _ _ _ Workspace.tree_initial rootAt_dot_initial⟩

end DefUseCoverage
