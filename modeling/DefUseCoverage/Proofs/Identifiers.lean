import Mathlib
import DefUseCoverage.Template.Basic
/-! # Identifiers made from qualified names

  Generated stubs are named by identifiers made from the names of a pair's members, and the
  directory of a type's stub files is named by the type as an identifier.

  ## Identifiers

  An identifier (`Valid`) is a non-empty text of ASCII letters, digits and `_` that does not
  start with a digit; `Valid` can be decided. `sanitize` keeps every ASCII letter and digit,
  writes `_` for every other character, and puts one `_` in front when the text is empty or
  starts with a digit (`sanitize_toList`). Hence:
  - its result is an identifier (`valid_sanitize`), one character longer than the text exactly
    when a `_` was put in front (`length_sanitize`);
  - it leaves an identifier as it is (`sanitize_of_valid`), so it is idempotent and its fixed
    points are exactly the identifiers (`sanitize_eq_self_iff`).

  ## Short names

  A qualified name is cut at `.` and `:` into segments; its short name is the last segment that
  is not empty. Declaratively (`LastSegment`), that segment is a non-empty run without separators
  that is followed in the name only by separators and stands at the start or right after a
  separator (`shortName_lastSegment`). A name made only of separators is its own short name.
  The short name is a suffix only when the name does not end in a separator: the short name of
  `T.` is `T` (`shortName_not_suffix`).

  ## Stub names

  The `{name}` of a pair is `du_` and the three short names joined by `_`, as an identifier: it
  starts with `du_` and is an identifier (`stubName_valid`).

  Main statement: `identifier_laws`.
-/

namespace DefUseCoverage.Identifier

/-! ### Identifiers -/

/-- A character of an identifier: an ASCII letter, an ASCII digit or `_`. -/
def identChar (c : Char) : Bool := keeps c || c == '_'

/-- Whether a text starts with an ASCII digit. -/
def startsWithDigit (s : String) : Bool :=
  match s.toList with
  | [] => false
  | c :: _ => c.isDigit

/-- An identifier: a non-empty text of ASCII letters, digits and `_` that does not start with a
digit. -/
structure Valid (s : String) : Prop where
  ne_empty : s ≠ ""
  chars : ∀ c ∈ s.toList, identChar c = true
  not_digit : startsWithDigit s = false

instance : DecidablePred Valid := fun s =>
  decidable_of_iff (s ≠ "" ∧ (∀ c ∈ s.toList, identChar c = true) ∧ startsWithDigit s = false)
    ⟨fun h => ⟨h.1, h.2.1, h.2.2⟩, fun h => ⟨h.ne_empty, h.chars, h.not_digit⟩⟩

/-- A digit is kept by `sanitize`, and what it writes is a digit only for a digit. -/
@[simp] theorem isDigit_cleanChar (c : Char) : (cleanChar c).isDigit = c.isDigit := by
  unfold cleanChar
  split
  · rfl
  · -- a digit is kept, so neither side is a digit
    rename_i hk
    have hd : c.isDigit = false := by
      simp only [keeps, Char.isAlphanum, Bool.or_eq_true, not_or] at hk
      simpa using hk.2
    rw [hd]
    decide

theorem identChar_cleanChar (c : Char) : identChar (cleanChar c) = true := by
  unfold cleanChar identChar
  split <;> simp_all

/-- An identifier character is written as it is. -/
theorem cleanChar_of_identChar {c : Char} (h : identChar c = true) : cleanChar c = c := by
  unfold cleanChar
  split
  · rfl
  · -- a kept character is not rewritten; the one other identifier character is `_`
    rename_i hk
    unfold identChar at h
    simp only [hk, Bool.false_or, beq_iff_eq] at h
    exact h.symm

theorem startsWithDigit_of_toList_eq_cons {s : String} {c : Char} {cs : List Char}
    (h : s.toList = c :: cs) : startsWithDigit s = c.isDigit := by
  unfold startsWithDigit
  rw [h]

/-- **What `sanitize` writes.** A `_` in front when the text is empty or starts with a digit,
then each character kept or written as `_`. -/
theorem sanitize_toList (s : String) :
    (sanitize s).toList =
      (if s = "" ∨ startsWithDigit s = true then ['_'] else []) ++ s.toList.map cleanChar := by
  unfold sanitize
  cases hs : s.toList with
  | nil =>
    have he : s = "" := String.toList_eq_nil_iff.mp hs
    simp [he]
  | cons c cs =>
    have hne : s ≠ "" := fun he => by simp [he] at hs
    rw [startsWithDigit_of_toList_eq_cons hs]
    simp only [List.map_cons, isDigit_cleanChar, hne, false_or]
    split <;> simp

/-- `sanitize` gives an identifier. -/
theorem valid_sanitize (s : String) : Valid (sanitize s) := by
  have hchars : ∀ c ∈ (sanitize s).toList, identChar c = true := by
    rw [sanitize_toList]
    intro c hc
    rcases List.mem_append.mp hc with h | h
    · split at h <;> simp_all [identChar]
    · obtain ⟨d, -, rfl⟩ := List.mem_map.mp h
      exact identChar_cleanChar d
  refine ⟨fun he => ?_, hchars, ?_⟩
  · -- the text written is never empty: a `_` in front, or the characters of a non-empty text
    have hlist := congrArg String.toList he
    rw [sanitize_toList] at hlist
    by_cases hs : s = ""
    · simp [hs] at hlist
    · have : s.toList ≠ [] := fun h => hs (String.toList_eq_nil_iff.mp h)
      split at hlist <;> simp_all
  · cases ht : (sanitize s).toList with
    | nil =>
      unfold startsWithDigit
      rw [ht]
    | cons c cs =>
      rw [startsWithDigit_of_toList_eq_cons ht]
      rw [sanitize_toList] at ht
      split at ht
      · simp only [List.singleton_append, List.cons.injEq] at ht
        rw [← ht.1]
        decide
      · -- nothing in front: the text starts with a character that is no digit
        rename_i hlead
        push Not at hlead
        cases hs : s.toList with
        | nil => exact absurd (String.toList_eq_nil_iff.mp hs) hlead.1
        | cons d ds =>
          rw [hs, List.nil_append, List.map_cons, List.cons.injEq] at ht
          rw [← ht.1, isDigit_cleanChar, ← startsWithDigit_of_toList_eq_cons hs]
          simpa using hlead.2

/-- `sanitize` leaves an identifier as it is. -/
theorem sanitize_of_valid {s : String} (h : Valid s) : sanitize s = s := by
  apply String.toList_inj.mp
  rw [sanitize_toList, if_neg (by simp [h.ne_empty, h.not_digit]), List.nil_append]
  exact (List.map_congr_left fun c hc => cleanChar_of_identChar (h.chars c hc)).trans
    (List.map_id _)

/-- The fixed points of `sanitize` are exactly the identifiers. -/
theorem sanitize_eq_self_iff (s : String) : sanitize s = s ↔ Valid s :=
  ⟨fun h => h ▸ valid_sanitize s, sanitize_of_valid⟩

theorem sanitize_idem (s : String) : sanitize (sanitize s) = sanitize s :=
  sanitize_of_valid (valid_sanitize s)

/-- One character per character of the text, and one more exactly when a `_` goes in front. -/
theorem length_sanitize (s : String) :
    (sanitize s).length = s.length + if s = "" ∨ startsWithDigit s = true then 1 else 0 := by
  rw [← String.length_toList, sanitize_toList, List.length_append, List.length_map,
    String.length_toList]
  split <;> simp [Nat.add_comm]

example : sanitize "9lives" = "_9lives" ∧ sanitize "get<T>" = "get_T_" ∧ sanitize "" = "_" := by
  decide

/-! ### Short names -/

/-- The segments of a name are its characters split at each separator. -/
theorem splitSegments_eq_splitOnP (l : List Char) : splitSegments l = l.splitOnP isSeparator := by
  induction l with
  | nil => rfl
  | cons c rest ih =>
    obtain ⟨seg, segs, hsplit⟩ := List.exists_cons_of_ne_nil (List.splitOnP_ne_nil isSeparator rest)
    simp only [splitSegments, ih, hsplit, List.splitOnP_cons_eq_if_modifyHead]
    split <;> rfl

/-- The segments of a name that are not empty, in order. -/
def filledSegments (l : List Char) : List (List Char) :=
  (l.splitOnP isSeparator).filter (fun seg => !seg.isEmpty)

theorem isEmpty_ofList (l : List Char) : (String.ofList l).isEmpty = l.isEmpty := by
  cases h : l.isEmpty
  · rw [Bool.eq_false_iff]
    intro he
    exact absurd (String.ofList_eq_empty_iff.mp (String.isEmpty_iff.mp he)) (by simpa using h)
  · rw [String.isEmpty_iff, String.ofList_eq_empty_iff]
    simpa using h

/-- The short name is the last filled segment, or the name itself when there is none. -/
theorem shortName_eq (q : String) :
    shortName q = ((filledSegments q.toList).getLast?.map String.ofList).getD q := by
  have hsegs : (segments q).filter (fun seg => !seg.isEmpty) =
      (filledSegments q.toList).map String.ofList := by
    unfold segments filledSegments
    rw [splitSegments_eq_splitOnP, List.filter_map]
    congr 2
    funext seg
    simp [isEmpty_ofList]
  unfold shortName
  rw [hsegs, List.getLast?_map]
  cases (filledSegments q.toList).getLast? <;> rfl

/-- A name made only of separators has no filled segment. -/
theorem filledSegments_of_separators {l : List Char} (h : ∀ c ∈ l, isSeparator c = true) :
    filledSegments l = [] := by
  induction l with
  | nil => rfl
  | cons c rest ih =>
    have hc := h c (List.mem_cons_self ..)
    have hrest := ih fun d hd => h d (List.mem_cons_of_mem c hd)
    unfold filledSegments at hrest ⊢
    rw [List.splitOnP_cons_eq_if_modifyHead, if_pos hc, List.filter_cons]
    simpa using hrest

/-- A run without separators followed by separators only is one filled segment. -/
theorem filledSegments_run {seg tail : List Char} (hseg : seg ≠ [])
    (hrun : ∀ c ∈ seg, isSeparator c = false) (htail : ∀ c ∈ tail, isSeparator c = true) :
    filledSegments (seg ++ tail) = [seg] := by
  have hne : seg.isEmpty = false := List.isEmpty_eq_false_iff.mpr hseg
  unfold filledSegments
  cases tail with
  | nil => simp [List.splitOnP_eq_singleton hrun, hne]
  | cons t ts =>
    -- the first separator ends the run, and what follows holds no filled segment
    have hrest := filledSegments_of_separators fun d hd => htail d (List.mem_cons_of_mem t hd)
    unfold filledSegments at hrest
    rw [List.splitOnP_append_cons_of_forall_mem hrun t (htail t (List.mem_cons_self ..)),
      List.filter_cons, hrest]
    simp [hne]

/-- The last segment of a name, declaratively: a non-empty run without separators that stands
at the start of the name or right after a separator, with only separators after it. -/
def LastSegment (l seg : List Char) : Prop :=
  seg ≠ [] ∧ (∀ c ∈ seg, isSeparator c = false) ∧
    ∃ front tail, l = front ++ seg ++ tail ∧ (∀ c ∈ front.getLast?, isSeparator c = true) ∧
      ∀ c ∈ tail, isSeparator c = true

/-- The last filled segment is the last segment. -/
theorem getLast?_filledSegments {l seg : List Char} (h : LastSegment l seg) :
    (filledSegments l).getLast? = some seg := by
  obtain ⟨hseg, hrun, front, tail, rfl, hfront, htail⟩ := h
  rw [List.append_assoc]
  rcases List.eq_nil_or_concat front with rfl | ⟨f, s, rfl⟩
  · rw [List.nil_append, filledSegments_run hseg hrun htail]
    rfl
  · -- the separator ending `front` splits the name in two
    have hs : isSeparator s = true := hfront s (by simp)
    unfold filledSegments
    rw [List.concat_eq_append, List.append_assoc, List.singleton_append,
      List.splitOnP_append_cons _ _ hs, List.filter_append]
    change ((f.splitOnP isSeparator).filter _ ++ filledSegments (seg ++ tail)).getLast? = _
    rw [filledSegments_run hseg hrun htail, List.getLast?_append]
    rfl

/-- A name with a character that is no separator has a last segment. -/
theorem exists_lastSegment {l : List Char} (h : ∃ c ∈ l, isSeparator c = false) :
    ∃ seg, LastSegment l seg := by
  -- `l` is `body ++ tail` with `tail` the trailing separators, and `body` is `front ++ seg`
  -- with `seg` the run without separators that ends `body`
  set body := l.rdropWhile isSeparator
  set tail := l.rtakeWhile isSeparator
  have hbody : body ≠ [] := by
    intro he
    obtain ⟨c, hc, hsep⟩ := h
    simp [List.rdropWhile_eq_nil_iff.mp he c hc] at hsep
  have hlast : isSeparator (body.getLast hbody) = false := by
    simpa using List.rdropWhile_last_not isSeparator l hbody
  set seg := body.rtakeWhile (fun c => !isSeparator c)
  set front := body.rdropWhile (fun c => !isSeparator c)
  refine ⟨seg, ?_, fun c hc => by simpa using List.mem_rtakeWhile_imp hc, front, tail, ?_,
    fun c hc => ?_, fun c hc => List.mem_rtakeWhile_imp hc⟩
  · rw [Ne, List.rtakeWhile_eq_nil_iff]
    simp [hlast, hbody]
  · rw [List.rdropWhile_append_rtakeWhile, List.rdropWhile_append_rtakeWhile]
  · -- `front` ends where a separator stops the run
    have hfront : front ≠ [] := by
      rintro he
      simp [he] at hc
    rw [List.getLast?_eq_some_getLast hfront, Option.mem_some_iff] at hc
    subst hc
    simpa using List.rdropWhile_last_not (fun c => !isSeparator c) body hfront

/-- **Short names.** A name made only of separators is its own short name; any other name has
as its short name its last segment. -/
theorem shortName_lastSegment (q : String) :
    (∀ c ∈ q.toList, isSeparator c = true) ∧ shortName q = q ∨
      LastSegment q.toList (shortName q).toList := by
  by_cases hall : ∀ c ∈ q.toList, isSeparator c = true
  · refine .inl ⟨hall, ?_⟩
    rw [shortName_eq, filledSegments_of_separators hall]
    rfl
  · push Not at hall
    obtain ⟨seg, hseg⟩ := exists_lastSegment (by simpa using hall)
    rw [shortName_eq, getLast?_filledSegments hseg]
    exact .inr (by simpa using hseg)

/-- The short name of `T.` is `T`, which does not end the name. -/
theorem shortName_not_suffix : shortName "T." = "T" ∧ ¬"T".toList <:+ "T.".toList := by
  refine ⟨?_, by decide⟩
  have hlast : LastSegment "T.".toList ['T'] :=
    ⟨by simp, by simp [isSeparator], [], ['.'], by decide, by simp, by simp [isSeparator]⟩
  rw [shortName_eq, getLast?_filledSegments hlast]
  rfl

/-! ### Stub names -/

/-- The `{name}` of a pair starts with `du_` and is an identifier: the text made from the short
names starts with `du_`, which `sanitize` keeps as it is. -/
theorem stubName_valid (p : Pair) :
    "du_".toList <+: (Template.Hole.expand p .name).toList ∧
      Valid (Template.Hole.expand p .name) := by
  refine ⟨?_, valid_sanitize _⟩
  generalize hrest : (shortName p.field ++ "_" ++ shortName p.defMethod ++ "_" ++
    shortName p.useMethod) = rest
  have hname : Template.Hole.expand p .name = sanitize ("du_" ++ rest) := by
    simp only [Template.Hole.expand, Template.Hole.stubName, ← hrest, String.append_assoc]
  have hdu : ("du_" ++ rest).toList = 'd' :: 'u' :: '_' :: rest.toList := by
    rw [String.toList_append]
    rfl
  rw [hname, sanitize_toList, if_neg, hdu]
  · exact ⟨(rest.toList.map cleanChar), rfl⟩
  · -- the text starts with `d`, so no `_` goes in front
    rw [not_or, startsWithDigit_of_toList_eq_cons hdu]
    exact ⟨fun he => by simp [he] at hdu, by decide⟩

example :
    Template.Hole.expand ⟨"Shop.Cart", "Shop.Cart.total", "Shop.Cart.Add", "a::b::get<T>"⟩ .name =
      "du_total_Add_get_T_" := by
  decide

/-- **Identifier helpers.**
- `sanitize` gives an identifier, as long as the text or one character longer exactly when the
  text is empty or starts with a digit; it is idempotent and its fixed points are the
  identifiers.
- A name made only of separators is its own short name; any other has its last segment as its
  short name: a non-empty run without separators, at the start or after a separator, followed
  only by separators.
- The `{name}` of every pair starts with `du_` and is an identifier. -/
theorem identifier_laws :
    (∀ s : String, Valid (sanitize s) ∧
      (sanitize s).length = s.length + (if s = "" ∨ startsWithDigit s = true then 1 else 0) ∧
      sanitize (sanitize s) = sanitize s ∧ (sanitize s = s ↔ Valid s)) ∧
    (∀ q : String, (∀ c ∈ q.toList, isSeparator c = true) ∧ shortName q = q ∨
      LastSegment q.toList (shortName q).toList) ∧
    ∀ p : Pair, "du_".toList <+: (Template.Hole.expand p .name).toList ∧
      Valid (Template.Hole.expand p .name) :=
  ⟨fun s => ⟨valid_sanitize s, length_sanitize s, sanitize_idem s, sanitize_eq_self_iff s⟩,
    shortName_lastSegment, stubName_valid⟩

end DefUseCoverage.Identifier
