import Mathlib
import DefUseCoverage.Template.Basic
/-! # Template text: the grammar, printing, and the leftmost fault

  A template is read one token at a time: `{{` and `}}` stand for a brace, a `{` that does not
  start `{{` opens a placeholder whose key runs to the next `}`, and any other character stands
  for itself.

  - The text that reads is the language `({{ | {K} | c)*`, with `c` any character but `{` and
    `K` one of the eight keys (`Wellformed`). Any other text fails at the leftmost `{` that opens
    neither an escape nor a known placeholder, and the error says how (`Fault`): no `}` follows
    that `{`, and the error gives its byte offset; or the text up to the next `}` is no key, and
    the error gives that text (`parse_accepts_grammar`).
  - Printing writes a literal with each brace doubled and a placeholder as its key in braces.
    Reading printed segments gives them back with neighbouring literals joined and empty ones
    dropped (`merge`), and these render every pair as the segments do one by one
    (`parse_print`).

  Success and the fault do not depend on the segments collected on the way, so `verdict` forgets
  them. A `}` read alone or as half of `}}` then leads to the same verdict (`verdict_char`), which
  lets the grammar's one-character steps be taken one at a time; every text starts with one of
  the grammar's tokens or with a `{` at fault (`token_cases`), and each token moves the reading on
  by its bytes.
-/

namespace DefUseCoverage.Template

/-! ### The keys -/

namespace Hole

theorem ofKey?_key (h : Hole) : ofKey? h.key = some h := by
  cases h <;> rfl

theorem eq_key_of_ofKey? {k : String} {h : Hole} (hk : ofKey? k = some h) : k = h.key := by
  have hfound := List.find?_some hk
  simp only [beq_iff_eq] at hfound
  exact hfound.symm

/-- A text names no placeholder exactly when it is none of the eight keys. -/
theorem ofKey?_eq_none {k : String} : ofKey? k = none ↔ ∀ h : Hole, k ≠ h.key := by
  constructor
  · rintro hk h rfl
    rw [ofKey?_key] at hk
    cases hk
  · intro hk
    cases hfound : ofKey? k with
    | none => rfl
    | some h => exact absurd (eq_key_of_ofKey? hfound) (hk h)

theorem open_not_mem_key (h : Hole) : '{' ∉ h.key.toList := by
  cases h <;> decide

theorem close_not_mem_key (h : Hole) : '}' ∉ h.key.toList := by
  cases h <;> decide

/-- No key starts with `{`, so `{` before a key never reads as an escape. -/
theorem key_head (h : Hole) : h.key.toList.head? ≠ some '{' := by
  intro hhead
  exact h.open_not_mem_key (List.mem_of_mem_head? hhead)

end Hole

/-! ### The grammar and its faults -/

/-- Template text in the language `({{ | {K} | c)*`: an escaped brace, a known placeholder, or a
character other than `{`, over and over. -/
inductive Wellformed : List Char → Prop
  | nil : Wellformed []
  | escape {rest : List Char} : Wellformed rest → Wellformed ('{' :: '{' :: rest)
  | hole (h : Hole) {rest : List Char} : Wellformed rest → Wellformed ('{' :: (h.key.toList ++ '}' :: rest))
  | char {c : Char} {rest : List Char} : c ≠ '{' → Wellformed rest → Wellformed (c :: rest)

/-- What follows a `{` at byte `offset` that opens neither an escape nor a known placeholder, and
the error it makes: with no `}` after it, an unterminated placeholder at its offset; else an
unknown placeholder named by the text up to the next `}`. -/
inductive Fault (offset : Nat) : List Char → GenerationError → Prop
  | unterminated {rest : List Char} : rest.head? ≠ some '{' → '}' ∉ rest →
      Fault offset rest (.unterminatedPlaceholder offset)
  | unknown {key rest : List Char} : key.head? ≠ some '{' → '}' ∉ key →
      (∀ h : Hole, String.ofList key ≠ h.key) →
      Fault offset (key ++ '}' :: rest) (.unknownPlaceholder (String.ofList key))

/-- Every text is empty, or starts with one of the grammar's tokens, or with a `{` at fault. -/
theorem token_cases (offset : Nat) (cs : List Char) :
    cs = [] ∨ (∃ rest, cs = '{' :: '{' :: rest) ∨
      (∃ (h : Hole) (rest : List Char), cs = '{' :: (h.key.toList ++ '}' :: rest)) ∨
      (∃ c rest, c ≠ '{' ∧ cs = c :: rest) ∨
      (∃ rest e, cs = '{' :: rest ∧ Fault offset rest e) := by
  rcases cs with _ | ⟨c, rest⟩
  · exact .inl rfl
  by_cases hc : c = '{'
  swap
  · exact .inr <| .inr <| .inr <| .inl ⟨c, rest, hc, rfl⟩
  subst hc
  by_cases hesc : rest.head? = some '{'
  · obtain ⟨rest', rfl⟩ : ∃ rest', rest = '{' :: rest' := by
      rcases rest with _ | ⟨d, rest'⟩
      · cases hesc
      · cases hesc
        exact ⟨rest', rfl⟩
    exact .inr <| .inl ⟨rest', rfl⟩
  by_cases hclose : '}' ∈ rest
  swap
  · exact .inr <| .inr <| .inr <| .inr ⟨rest, _, rfl, .unterminated hesc hclose⟩
  -- the key runs to the first `}`
  obtain ⟨key, after, rfl, hkey⟩ := List.eq_append_cons_of_mem hclose
  have hhead : key.head? ≠ some '{' := by
    rcases key with _ | ⟨d, key⟩
    · simp
    · simpa using hesc
  by_cases hknown : ∃ h : Hole, String.ofList key = h.key
  · obtain ⟨h, hk⟩ := hknown
    have hlist : key = h.key.toList := by rw [← hk, String.toList_ofList]
    subst hlist
    exact .inr <| .inr <| .inl ⟨h, after, rfl⟩
  · simp only [not_exists] at hknown
    exact .inr <| .inr <| .inr <| .inr ⟨_, _, rfl, .unknown hhead hkey hknown⟩

/-! ### Reading, step by step -/

/-- Braces take one byte each. -/
@[simp] theorem utf8Size_open : '{'.utf8Size = 1 := rfl

@[simp] theorem utf8Size_close : '}'.utf8Size = 1 := rfl

/-- A character that starts neither an escape nor a placeholder stands for itself. -/
theorem parseText_single {c : Char} {rest : List Char} (hopen : c ≠ '{')
    (hesc : ∀ r, c = '}' → rest ≠ '}' :: r) (pos : Nat) :
    parseText pos (c :: rest) = (parseText (pos + c.utf8Size) rest).map (consChar c) :=
  parseText.eq_5 pos c rest (fun _ hc _ => hopen hc) hopen (fun r hc hr => hesc r hc hr)

/-- A `{` that does not start `{{` opens a placeholder. -/
theorem parseText_open {rest : List Char} (hesc : rest.head? ≠ some '{') (pos : Nat) :
    parseText pos ('{' :: rest) = parseKey pos (pos + 1) [] rest :=
  parseText.eq_3 pos rest fun r hr => hesc (by simp [hr])

/-- The characters of a key before its `}` are collected, last first. -/
theorem parseKey_append (start : Nat) {k : List Char} (hk : '}' ∉ k) :
    ∀ (pos : Nat) (key rest : List Char),
      parseKey start pos key (k ++ rest) =
        parseKey start (pos + String.utf8Len k) (k.reverse ++ key) rest := by
  induction k with
  | nil => simp
  | cons c k ih =>
    intro pos key rest
    have hc : c ≠ '}' := fun h => hk (h ▸ List.mem_cons_self)
    rw [List.cons_append, parseKey.eq_3 start pos key c _ hc,
      ih (fun h => hk (List.mem_cons_of_mem c h))]
    simp only [String.utf8Len_cons, List.reverse_cons, List.append_assoc, List.singleton_append]
    congr 1
    omega

/-- A `{` followed by a key and its `}` reads the key off the text before the `}`. -/
theorem parseText_key {k rest : List Char} (hhead : k.head? ≠ some '{') (hk : '}' ∉ k)
    (pos : Nat) :
    parseText pos ('{' :: (k ++ '}' :: rest)) =
      parseKey pos (pos + 1 + String.utf8Len k) k.reverse ('}' :: rest) := by
  have hesc : (k ++ '}' :: rest).head? ≠ some '{' := by
    rcases k with _ | ⟨d, k⟩
    · simp
    · simpa using hhead
  rw [parseText_open hesc, parseKey_append pos hk, List.append_nil]

/-- A known placeholder becomes its segment, and reading goes on past its `}`. -/
theorem parseText_hole (h : Hole) (pos : Nat) (rest : List Char) :
    parseText pos ('{' :: (h.key.toList ++ '}' :: rest)) =
      (parseText (pos + String.utf8Len h.key.toList + 2) rest).map (Segment.hole h :: ·) := by
  rw [parseText_key h.key_head h.close_not_mem_key, parseKey.eq_2, List.reverse_reverse,
    String.ofList_toList, Hole.ofKey?_key]
  dsimp only
  rw [show pos + 1 + String.utf8Len h.key.toList + 1 = pos + String.utf8Len h.key.toList + 2 by omega]

/-! ### The verdict of reading -/

/-- What reading comes to once the segments are forgotten: success, or the fault. -/
def verdict (pos : Nat) (cs : List Char) : Except GenerationError Unit :=
  (parseText pos cs).map fun _ => ()

theorem verdict_map (f : List Segment → List Segment) (pos : Nat) (cs : List Char) :
    ((parseText pos cs).map f).map (fun _ => ()) = verdict pos cs := by
  unfold verdict
  cases parseText pos cs <;> rfl

@[simp] theorem verdict_nil (pos : Nat) : verdict pos [] = .ok () := by
  rw [verdict, parseText.eq_1]
  rfl

theorem verdict_escape (pos : Nat) (rest : List Char) :
    verdict pos ('{' :: '{' :: rest) = verdict (pos + 2) rest := by
  rw [verdict, parseText.eq_2, verdict_map]

/-- A character other than `{` moves reading on by its bytes, whether a `}` is read alone or as
half of `}}`. -/
theorem verdict_char {c : Char} (hc : c ≠ '{') (pos : Nat) (rest : List Char) :
    verdict pos (c :: rest) = verdict (pos + c.utf8Size) rest := by
  induction rest generalizing c pos with
  | nil => rw [verdict, parseText_single hc (fun _ _ h => List.cons_ne_nil _ _ h.symm), verdict_map]
  | cons d rest ih =>
    by_cases hesc : c = '}' ∧ d = '}'
    · -- `}}` reads as one escape; as two lone `}` it comes to the same
      obtain ⟨rfl, rfl⟩ := hesc
      rw [verdict, parseText.eq_4, verdict_map, utf8Size_close, ih (c := '}') (by decide) (pos + 1),
        utf8Size_close]
    · have hsingle : ∀ r, c = '}' → d :: rest ≠ '}' :: r := by
        intro r hc' heq
        exact hesc ⟨hc', (List.cons.inj heq).1⟩
      rw [verdict, parseText_single hc hsingle, verdict_map]

theorem verdict_hole (h : Hole) (pos : Nat) (rest : List Char) :
    verdict pos ('{' :: (h.key.toList ++ '}' :: rest)) =
      verdict (pos + String.utf8Len h.key.toList + 2) rest := by
  rw [verdict, parseText_hole, verdict_map]

/-- A `{` at fault ends reading with the fault's error. -/
theorem verdict_fault {pos : Nat} {rest : List Char} {e : GenerationError} (hf : Fault pos rest e) :
    verdict pos ('{' :: rest) = .error e := by
  cases hf with
  | unterminated hesc hclose =>
    rw [verdict, parseText_open hesc]
    -- no `}` closes the key, so reading stops at the end of the text
    have hunclosed := parseKey_append pos hclose (pos + 1) [] []
    rw [List.append_nil, parseKey.eq_1] at hunclosed
    rw [hunclosed]
    rfl
  | unknown hhead hkey hnone =>
    rw [verdict, parseText_key hhead hkey, parseKey.eq_2, List.reverse_reverse,
      Hole.ofKey?_eq_none.mpr hnone]
    rfl

/-- Reading goes through a wellformed text token by token, whatever follows it. -/
theorem Wellformed.verdict_append {pre : List Char} (hw : Wellformed pre) :
    ∀ (pos : Nat) (suffix : List Char),
      verdict pos (pre ++ suffix) = verdict (pos + String.utf8Len pre) suffix := by
  induction hw with
  | nil => simp
  | escape _ ih =>
    intro pos suffix
    rw [List.cons_append, List.cons_append, verdict_escape, ih]
    simp only [String.utf8Len_cons, utf8Size_open]
    congr 1
    omega
  | hole h _ ih =>
    intro pos suffix
    rw [List.cons_append, List.append_assoc, List.cons_append, verdict_hole, ih]
    simp only [String.utf8Len_cons, String.utf8Len_append, utf8Size_open, utf8Size_close]
    congr 1
    omega
  | char hc _ ih =>
    intro pos suffix
    rw [List.cons_append, verdict_char hc, ih]
    simp only [String.utf8Len_cons]
    congr 1
    omega

/-- A text that reads is wellformed. -/
theorem wellformed_of_verdict (pos : Nat) (cs : List Char) (hok : verdict pos cs = .ok ()) :
    Wellformed cs := by
  rcases token_cases pos cs with rfl | ⟨rest, rfl⟩ | ⟨h, rest, rfl⟩ | ⟨c, rest, hc, rfl⟩ |
    ⟨rest, e, rfl, hf⟩
  · exact .nil
  · rw [verdict_escape] at hok
    exact .escape (wellformed_of_verdict _ rest hok)
  · rw [verdict_hole] at hok
    exact .hole h (wellformed_of_verdict _ rest hok)
  · rw [verdict_char hc] at hok
    exact .char hc (wellformed_of_verdict _ rest hok)
  · rw [verdict_fault hf] at hok
    cases hok
termination_by cs.length
decreasing_by all_goals subst_vars; simp; try omega

/-- A text that fails has a wellformed part before a `{` at fault, and fails with its error. -/
theorem fault_of_verdict (pos : Nat) (cs : List Char) {e : GenerationError}
    (herr : verdict pos cs = .error e) :
    ∃ pre rest, cs = pre ++ '{' :: rest ∧ Wellformed pre ∧
      Fault (pos + String.utf8Len pre) rest e := by
  rcases token_cases pos cs with rfl | ⟨rest, rfl⟩ | ⟨h, rest, rfl⟩ | ⟨c, rest, hc, rfl⟩ |
    ⟨rest, e', rfl, hf⟩
  · cases herr
  · rw [verdict_escape] at herr
    obtain ⟨pre, after, rfl, hw, hf⟩ := fault_of_verdict _ rest herr
    refine ⟨'{' :: '{' :: pre, after, rfl, .escape hw, ?_⟩
    simp only [String.utf8Len_cons, utf8Size_open]
    convert hf using 1
    omega
  · rw [verdict_hole] at herr
    obtain ⟨pre, after, rfl, hw, hf⟩ := fault_of_verdict _ rest herr
    refine ⟨'{' :: (h.key.toList ++ '}' :: pre), after, by simp, .hole h hw, ?_⟩
    simp only [String.utf8Len_cons, String.utf8Len_append, utf8Size_open, utf8Size_close]
    convert hf using 1
    omega
  · rw [verdict_char hc] at herr
    obtain ⟨pre, after, rfl, hw, hf⟩ := fault_of_verdict _ rest herr
    refine ⟨c :: pre, after, rfl, .char hc hw, ?_⟩
    simp only [String.utf8Len_cons]
    convert hf using 1
    omega
  · rw [verdict_fault hf] at herr
    cases herr
    exact ⟨[], rest, rfl, .nil, by simpa using hf⟩
termination_by cs.length
decreasing_by all_goals subst_vars; simp; try omega

/-- **Reading accepts exactly the grammar and reports the leftmost fault.** A template reads
exactly when it is in the language `({{ | {K} | c)*`; otherwise it fails at the leftmost `{`
after a wellformed part that opens neither an escape nor a known placeholder, with an
unterminated placeholder at that `{`'s byte offset when no `}` follows, and else with the unknown
key that runs to the next `}`. -/
theorem parse_accepts_grammar (t : String) :
    ((∃ segs, parse t = .ok segs) ↔ Wellformed t.toList) ∧
      ∀ e, parse t = .error e ↔
        ∃ pre rest, t.toList = pre ++ '{' :: rest ∧ Wellformed pre ∧
          Fault (String.ofList pre).utf8ByteSize rest e := by
  have hverdict : verdict 0 t.toList = (parse t).map fun _ => () := rfl
  refine ⟨⟨?_, fun hw => ?_⟩, fun e => ⟨fun herr => ?_, ?_⟩⟩
  · rintro ⟨segs, hok⟩
    rw [hok] at hverdict
    exact wellformed_of_verdict 0 _ hverdict
  · have hok := hw.verdict_append 0 []
    rw [List.append_nil, verdict_nil, hverdict] at hok
    cases hparse : parse t with
    | ok segs => exact ⟨segs, rfl⟩
    | error e => rw [hparse] at hok; cases hok
  · rw [herr] at hverdict
    obtain ⟨pre, rest, hcs, hw, hf⟩ := fault_of_verdict 0 _ hverdict
    refine ⟨pre, rest, hcs, hw, ?_⟩
    rwa [String.utf8ByteSize_ofList, ← Nat.zero_add (String.utf8Len pre)]
  · rintro ⟨pre, rest, hcs, hw, hf⟩
    rw [String.utf8ByteSize_ofList, ← Nat.zero_add (String.utf8Len pre)] at hf
    have herr := hw.verdict_append 0 ('{' :: rest)
    rw [← hcs, verdict_fault hf, hverdict] at herr
    cases hparse : parse t with
    | ok segs => rw [hparse] at herr; cases herr
    | error e' => rw [hparse] at herr; cases herr; rfl

/-- The offset of an unterminated placeholder counts bytes: `é` takes two. -/
example : parse "é\x7btype" = .error (.unterminatedPlaceholder 2) := by decide

/-! ### Printing -/

/-- A character of a literal as template text: a brace twice, any other character once. -/
def escapeChar (c : Char) : List Char := if c = '{' ∨ c = '}' then [c, c] else [c]

/-- A segment as template text: a literal with its braces doubled, a placeholder as its key in
braces. -/
def Segment.print : Segment → List Char
  | .text s => s.toList.flatMap escapeChar
  | .hole h => '{' :: (h.key.toList ++ ['}'])

/-- Segments as template text. -/
def print (segs : List Segment) : String := String.ofList (segs.flatMap Segment.print)

/-- Text put in front of segments, joined to a leading literal; empty text adds nothing. -/
def joinText (s : String) : List Segment → List Segment
  | .text t :: rest => .text (s ++ t) :: rest
  | segs => if s = "" then segs else .text s :: segs

/-- Segments with neighbouring literals joined and empty literals dropped. -/
def merge : List Segment → List Segment
  | [] => []
  | .text s :: rest => joinText s (merge rest)
  | .hole h :: rest => .hole h :: merge rest

theorem joinText_empty (segs : List Segment) : joinText "" segs = segs := by
  unfold joinText
  split
  · rw [String.empty_append]
  · rfl

/-- Reading a literal character by character joins the characters into one leading literal. -/
theorem foldr_consChar (cs : List Char) (segs : List Segment) :
    cs.foldr consChar segs = joinText (String.ofList cs) segs := by
  induction cs with
  | nil => rw [List.foldr_nil, String.ofList_nil, joinText_empty]
  | cons c cs ih =>
    rw [List.foldr_cons, ih, String.ofList_cons]
    unfold joinText
    split
    · next t rest => rw [consChar, String.append_assoc]
    · next hsegs =>
      by_cases hcs : String.ofList cs = ""
      · rw [if_pos hcs, consChar.eq_2 _ _ hsegs, hcs, String.append_empty,
          if_neg (by simp [← String.toList_inj])]
      · rw [if_neg hcs, consChar, if_neg (by simp [← String.toList_inj])]

/-- An escaped character of a literal reads as the character, and reading goes on after it. -/
theorem parseText_escapeChar (c : Char) (pos : Nat) (rest : List Char) :
    parseText pos (escapeChar c ++ rest) =
      (parseText (pos + String.utf8Len (escapeChar c)) rest).map (consChar c) := by
  by_cases hopen : c = '{'
  · subst hopen
    exact parseText.eq_2 pos rest
  by_cases hclose : c = '}'
  · subst hclose
    exact parseText.eq_4 pos rest
  have hplain : escapeChar c = [c] := if_neg (by tauto)
  rw [hplain, List.singleton_append, parseText_single hopen (fun _ h => absurd h hclose),
    String.utf8Len_cons, String.utf8Len_nil, Nat.zero_add]

/-- An escaped literal reads as its characters, and reading goes on after it. -/
theorem parseText_escaped (cs : List Char) (pos : Nat) (rest : List Char) :
    parseText pos (cs.flatMap escapeChar ++ rest) =
      (parseText (pos + String.utf8Len (cs.flatMap escapeChar)) rest).map
        fun segs => cs.foldr consChar segs := by
  induction cs generalizing pos with
  | nil =>
    rw [List.flatMap_nil, List.nil_append, String.utf8Len_nil, Nat.add_zero]
    cases parseText pos rest <;> rfl
  | cons c cs ih =>
    rw [List.flatMap_cons, List.append_assoc, parseText_escapeChar, ih, String.utf8Len_append,
      Nat.add_assoc]
    cases parseText _ rest <;> rfl

/-- Printed segments read back merged. -/
theorem parseText_print (segs : List Segment) (pos : Nat) :
    parseText pos (segs.flatMap Segment.print) = .ok (merge segs) := by
  induction segs generalizing pos with
  | nil => exact parseText.eq_1 pos
  | cons seg rest ih =>
    cases seg with
    | text s =>
      rw [List.flatMap_cons, Segment.print, parseText_escaped, ih, merge]
      -- the literal's characters join into one leading literal
      exact congrArg Except.ok
        ((foldr_consChar s.toList (merge rest)).trans (by rw [String.ofList_toList]))
    | hole h =>
      rw [List.flatMap_cons, Segment.print, List.cons_append, List.append_assoc, List.singleton_append,
        parseText_hole, ih]
      rfl

theorem render_joinText (s : String) (segs : List Segment) (p : Pair) :
    render (joinText s segs) p = s ++ render segs p := by
  unfold joinText
  split
  · simp [render, String.join_cons, String.append_assoc, Segment.render]
  · split
    · next hs => rw [hs, String.empty_append]
    · simp [render, String.join_cons, Segment.render]

/-- Merging changes no rendering. -/
theorem render_merge (segs : List Segment) (p : Pair) :
    render (merge segs) p = String.join (segs.map (Segment.render p)) := by
  induction segs with
  | nil => rfl
  | cons seg rest ih =>
    cases seg with
    | text s => rw [merge, render_joinText, ih, List.map_cons, String.join_cons, Segment.render]
    | hole h =>
      rw [merge, List.map_cons, String.join_cons, ← ih]
      simp [render, String.join_cons]

/-- **Printing and reading round-trip.** Segments printed with their literals' braces doubled and
their placeholders as keys in braces read back with neighbouring literals joined and empty ones
dropped, and these render every pair as the segments do one by one. -/
theorem parse_print (segs : List Segment) :
    parse (print segs) = .ok (merge segs) ∧
      ∀ p : Pair, render (merge segs) p = String.join (segs.map (Segment.render p)) := by
  refine ⟨?_, render_merge segs⟩
  rw [parse, print, String.toList_ofList]
  exact parseText_print segs 0

/-- Escapes on both sides of a placeholder. -/
example : parse "\x7b\x7b\x7btype\x7d\x7d\x7d" = .ok [.text "\x7b", .hole .type, .text "\x7d"] := by decide

end DefUseCoverage.Template
