import Mathlib
import DefUseCoverage.Proofs.BinaryCodec
/-! # The pretty JSON form reads back

  The reader works on the bytes of the text the printer writes. A value is plain when it holds
  no number and every string and member name is text: the printer writes a number as its text
  and text-less strings and names as empty ones, so only plain values can be expected back.

  - Inside a string the printer escapes the quote, the backslash and control characters, and
    writes every other character as its UTF-8 bytes, which are all at least 32 and neither a
    quote nor a backslash. So the reader scans an escaped text up to the closing quote, and the
    content it assembles is the text's bytes (`scanString_quote`).
  - A plain value, its items and its members read back from their pretty form, with blanks
    before it and anything after it, given more fuel than its bytes (`readValue_pretty`); so the
    whole document reads back (`parse?_pretty`).
  - Main statement: the pretty JSON form of a snapshot reads back as the snapshot
    (`Snapshot.ofJson?_parse?_encode`).
-/

namespace DefUseCoverage

namespace Json

/-! ### Bytes of text -/

/-- The UTF-8 bytes of a text, as the reader takes them. -/
def bytes (s : String) : List Nat := (Utf8.encode s).map UInt8.toNat

/-- The bytes of a character, as the reader takes them. -/
def charBytes (c : Char) : List Nat := (String.utf8EncodeChar c).map UInt8.toNat

@[simp] theorem bytes_append (a b : String) : bytes (a ++ b) = bytes a ++ bytes b := by
  simp [bytes]

theorem bytes_eq_flatMap (s : String) : bytes s = s.toList.flatMap charBytes := by
  simp only [bytes, Utf8.encode_eq_flatMap, List.map_flatMap]
  rfl

theorem bytes_ofList (cs : List Char) : bytes (String.ofList cs) = cs.flatMap charBytes := by
  rw [bytes_eq_flatMap, String.toList_ofList]

/-- Bytes the reader skips between tokens. -/
def Blank (bs : List Nat) : Prop := ∀ b ∈ bs, isBlankByte b = true

theorem Blank.append {a b : List Nat} (ha : Blank a) (hb : Blank b) : Blank (a ++ b) := by
  intro x hx
  rcases List.mem_append.mp hx with h | h
  · exact ha x h
  · exact hb x h

theorem blank_nil : Blank [] := by simp [Blank]

theorem blank_indent (level : Nat) : Blank (bytes (indent level)) := by
  intro b hb
  simp only [indent, bytes_ofList, List.mem_flatMap, List.mem_replicate] at hb
  obtain ⟨c, ⟨-, rfl⟩, hb⟩ := hb
  simp only [show charBytes ' ' = [32] from rfl, List.mem_singleton] at hb
  rw [hb]
  rfl

/-! ### Escaped text -/

/-- The bytes the printer writes for a character inside a string. -/
def escaped (c : Char) : List Nat := (escapeChar c).flatMap charBytes

theorem bytes_quote (s : String) :
    bytes (quote s) = 34 :: s.toList.flatMap escaped ++ [34] := by
  rw [quote, bytes_ofList]
  simp only [List.flatMap_cons, List.cons_append, List.flatMap_append, List.flatMap_assoc,
    List.flatMap_nil, List.append_nil, show charBytes '"' = [34] from rfl]
  rfl

/-- A character's UTF-8 bytes beyond ASCII are all at least 128. -/
theorem charBytes_ge {c : Char} (hc : 128 ≤ c.toNat) : ∀ b ∈ charBytes c, 128 ≤ b := by
  have hbit : ∀ x y : UInt8, 128 ≤ y.toNat → 128 ≤ (x ||| y).toNat := fun x y hy => by
    rw [UInt8.toNat_or]
    exact le_trans hy Nat.right_le_or
  have hsize : c.utf8Size ≠ 1 := fun h => by
    have := Char.utf8Size_eq_one_iff.mp h
    simp [UInt32.le_iff_toNat_le] at this
    omega
  have hmulti : c.utf8Size = 2 ∨ c.utf8Size = 3 ∨ c.utf8Size = 4 := by
    have := c.utf8Size_pos
    have := c.utf8Size_le_four
    omega
  intro b hb
  simp only [charBytes, List.mem_map] at hb
  obtain ⟨u, hu, rfl⟩ := hb
  -- every byte of a longer sequence has its top bit set
  rcases hmulti with h | h | h
  · rw [String.utf8EncodeChar_eq_cons_cons h] at hu
    simp only [List.mem_cons, List.not_mem_nil, or_false] at hu
    rcases hu with rfl | rfl <;> exact hbit _ _ (by decide)
  · rw [String.utf8EncodeChar_eq_cons_cons_cons h] at hu
    simp only [List.mem_cons, List.not_mem_nil, or_false] at hu
    rcases hu with rfl | rfl | rfl <;> exact hbit _ _ (by decide)
  · rw [String.utf8EncodeChar_eq_cons_cons_cons_cons h] at hu
    simp only [List.mem_cons, List.not_mem_nil, or_false] at hu
    rcases hu with rfl | rfl | rfl | rfl <;> exact hbit _ _ (by decide)

/-- An ASCII character is its own byte. -/
theorem charBytes_ascii {c : Char} (hc : c.toNat < 128) : charBytes c = [c.toNat] := by
  have hsize : c.utf8Size = 1 := Char.utf8Size_eq_one_iff.mpr (by
    simp only [UInt32.le_iff_toNat_le]
    exact Nat.le_of_lt_succ hc)
  simp only [charBytes, String.utf8EncodeChar_eq_singleton hsize, List.map_cons, List.map_nil,
    List.cons.injEq, and_true]
  simp only [UInt32.toNat_toUInt8, Char.toNat] at hc ⊢
  omega

/-- A byte at least 32 that is neither a quote nor a backslash stands for itself. -/
theorem scanString_byte {b : Nat} (h32 : 32 ≤ b) (hq : b ≠ 34) (hbs : b ≠ 92) (r : List Nat) :
    scanString (b :: r) = (scanString r).map fun x => (.byte b :: x.1, x.2) := by
  rw [scanString.eq_def]
  split
  · contradiction
  · simp_all
  · simp_all
  · simp_all
  · rename_i heq
    obtain ⟨rfl, rfl⟩ := List.cons.inj heq
    rw [if_neg (by omega)]
    cases scanString r <;> rfl

/-- Bytes at least 32 that are neither quotes nor backslashes stand for themselves. -/
theorem scanString_raw : ∀ (bs : List Nat), (∀ b ∈ bs, 32 ≤ b ∧ b ≠ 34 ∧ b ≠ 92) →
    ∀ r, scanString (bs ++ r) = (scanString r).map fun x => (bs.map .byte ++ x.1, x.2)
  | [], _, r => by
    simp only [List.nil_append, List.map_nil]
    cases scanString r <;> rfl
  | b :: bs, h, r => by
    obtain ⟨h32, hq, hbs⟩ := h b List.mem_cons_self
    rw [List.cons_append, scanString_byte h32 hq hbs,
      scanString_raw bs (fun x hx => h x (List.mem_cons_of_mem _ hx)) r]
    cases scanString r <;> rfl

/-- A short escape stands for its byte. -/
theorem scanString_short {e v : Nat} (he : shortEscape e = some v) (hu : e ≠ 117) (r : List Nat) :
    scanString (92 :: e :: r) = (scanString r).map fun x => (.byte v :: x.1, x.2) := by
  rw [scanString.eq_def]
  split
  · contradiction
  · simp_all
  · simp_all
  · rename_i heq
    obtain ⟨rfl, rfl⟩ := List.cons.inj (List.cons.inj heq).2
    simp only [he, Option.bind_eq_bind, Option.bind_some]
    cases scanString r <;> rfl
  · rename_i h92 heq
    obtain ⟨rfl, rfl⟩ := List.cons.inj heq
    exact (h92 e r rfl rfl).elim

/-- A `\u` escape with four hexadecimal digits stands for their code unit. -/
theorem scanString_unit {a b c d a' b' c' d' : Nat} (ha : hexValue a = some a')
    (hb : hexValue b = some b') (hc : hexValue c = some c') (hd : hexValue d = some d')
    (r : List Nat) :
    scanString (92 :: 117 :: a :: b :: c :: d :: r) =
      (scanString r).map fun x => (.unit (((a' * 16 + b') * 16 + c') * 16 + d') :: x.1, x.2) := by
  simp only [scanString, ha, hb, hc, hd, Option.bind_eq_bind, Option.bind_some]
  cases scanString r <;> rfl

/-- Raw bytes assemble to themselves. -/
theorem assemble_bytes (bs : List Nat) (rest : List Piece) :
    assemble (bs.map .byte ++ rest) = (assemble rest).map (bs ++ ·) := by
  induction bs with
  | nil =>
    simp only [List.map_nil, List.nil_append]
    cases assemble rest <;> rfl
  | cons b bs ih =>
    simp only [List.map_cons, List.cons_append, assemble, ih]
    cases assemble rest <;> rfl

/-- A code unit below 32 assembles to its one byte. -/
theorem assemble_unit_control {n : Nat} (hn : n < 32) (rest : List Piece) :
    assemble (.unit n :: rest) = (assemble rest).map ([n] ++ ·) := by
  have hlow : isLow n = false := by simp [isLow]; omega
  have hhigh : isHigh n = false := by simp [isHigh]; omega
  have hbytes : utf8Bytes n = [n] := by simp [utf8Bytes]; omega
  rw [assemble.eq_def]
  simp only [hlow, hhigh, hbytes, Bool.false_eq_true, if_false]
  rfl



/-- The printer's hexadecimal digits are ASCII, and the reader takes each back to its value. -/
theorem hexDigit_bytes : ∀ d, d < 16 →
    charBytes (hexDigit d) = [(hexDigit d).toNat] ∧ hexValue (hexDigit d).toNat = some d := by
  decide

/-- How the reader takes the bytes the printer writes for a character: pieces that assemble to
the character's bytes. -/
theorem scanString_escaped (c : Char) (r : List Nat) :
    ∃ ps : List Piece, (∀ rest, assemble (ps ++ rest) = (assemble rest).map (charBytes c ++ ·)) ∧
      scanString (escaped c ++ r) = (scanString r).map fun x => (ps ++ x.1, x.2) := by
  -- a short escape is one byte piece
  have short : ∀ {c : Char} {e v : Nat}, escaped c = [92, e] → shortEscape e = some v →
      e ≠ 117 → charBytes c = [v] → ∃ ps : List Piece,
        (∀ rest, assemble (ps ++ rest) = (assemble rest).map (charBytes c ++ ·)) ∧
        scanString (escaped c ++ r) = (scanString r).map fun x => (ps ++ x.1, x.2) :=
    fun hesc he hu hv => ⟨[.byte _], fun rest => by rw [hv]; exact assemble_bytes [_] rest,
      by rw [hesc]; exact scanString_short he hu r⟩
  unfold escaped escapeChar
  split
  · exact short rfl rfl (by decide) rfl
  · exact short rfl rfl (by decide) rfl
  · exact short rfl rfl (by decide) rfl
  · exact short rfl rfl (by decide) rfl
  · exact short rfl rfl (by decide) rfl
  · exact short rfl rfl (by decide) rfl
  · exact short rfl rfl (by decide) rfl
  · rename_i hq hbs _ _ _ _ _
    split
    · -- a control character is a `\u` escape of its code
      rename_i hctl
      obtain ⟨hhi, hvhi⟩ := hexDigit_bytes (c.toNat / 16) (by omega)
      obtain ⟨hlo, hvlo⟩ := hexDigit_bytes (c.toNat % 16) (by omega)
      have hcode : ((0 * 16 + 0) * 16 + c.toNat / 16) * 16 + c.toNat % 16 = c.toNat := by omega
      refine ⟨[.unit c.toNat], fun rest => ?_, ?_⟩
      · rw [charBytes_ascii (by omega)]
        exact assemble_unit_control hctl rest
      · simp only [List.flatMap_cons, List.flatMap_nil, hhi, hlo, List.append_nil,
          show charBytes '\\' = [92] from rfl, show charBytes 'u' = [117] from rfl,
          show charBytes '0' = [48] from rfl, List.cons_append, List.nil_append]
        rw [scanString_unit rfl rfl hvhi hvlo, hcode]
    · -- any other character is its own bytes, none of them a quote, a backslash or a control
      rename_i hctl
      have hraw : ∀ b ∈ charBytes c, 32 ≤ b ∧ b ≠ 34 ∧ b ≠ 92 := by
        by_cases hascii : c.toNat < 128
        · rw [charBytes_ascii hascii]
          intro b hb
          rw [List.mem_singleton] at hb
          subst hb
          refine ⟨by omega, fun h => hq ?_, fun h => hbs ?_⟩ <;> exact Char.toNat_inj.mp h
        · intro b hb
          have := charBytes_ge (by omega) b hb
          omega
      refine ⟨(charBytes c).map .byte, fun rest => assemble_bytes _ rest, ?_⟩
      rw [List.flatMap_singleton]
      exact scanString_raw _ hraw r


/-- The reader scans escaped text up to the closing quote, into pieces that assemble to the
text's bytes. -/
theorem scanString_quote : ∀ (cs : List Char) (r : List Nat), ∃ ps,
    assemble ps = some (cs.flatMap charBytes) ∧ scanString (cs.flatMap escaped ++ 34 :: r) = some (ps, r)
  | [], r => ⟨[], rfl, by simp [scanString]⟩
  | c :: cs, r => by
    obtain ⟨ps, hasm, hscan⟩ := scanString_quote cs r
    obtain ⟨qs, hqs, hc⟩ := scanString_escaped c (cs.flatMap escaped ++ 34 :: r)
    refine ⟨qs ++ ps, by rw [hqs, hasm]; rfl, ?_⟩
    rw [List.flatMap_cons, List.append_assoc, hc, hscan]
    rfl

/-- Content that assembles to a text's bytes is that text. -/
theorem contentText_of_assemble {ps : List Piece} {s : String}
    (h : assemble ps = some (bytes s)) : contentText ps = some s := by
  simp [contentText, h, bytes, List.map_map, Function.comp_def]

/-- The reader takes a quoted text back, with what follows the closing quote. -/
theorem scanString_text (s : String) (r : List Nat) : ∃ ps,
    contentText ps = some s ∧ scanString (s.toList.flatMap escaped ++ 34 :: r) = some (ps, r) := by
  obtain ⟨ps, hasm, hscan⟩ := scanString_quote s.toList r
  exact ⟨ps, contentText_of_assemble (by rw [hasm, bytes_eq_flatMap]), hscan⟩

/-! ### One step of the reader -/

theorem dropWhile_append_blank {pre : List Nat} (hpre : Blank pre) (bs : List Nat) :
    (pre ++ bs).dropWhile isBlankByte = bs.dropWhile isBlankByte := by
  induction pre with
  | nil => rfl
  | cons x pre ih =>
    rw [List.cons_append, List.dropWhile_cons_of_pos (hpre x List.mem_cons_self)]
    exact ih fun y hy => hpre y (List.mem_cons_of_mem _ hy)

/-- Blanks before a byte the reader does not skip are skipped up to it. -/
theorem dropWhile_blank {pre : List Nat} (hpre : Blank pre) {b : Nat}
    (hb : isBlankByte b = false) (rest : List Nat) :
    (pre ++ b :: rest).dropWhile isBlankByte = b :: rest := by
  rw [dropWhile_append_blank hpre]
  exact List.dropWhile_cons_of_neg (by simp [hb])

/-- Past a new line and an indent, the blanks end at the first byte that is not one. -/
theorem dropWhile_newline (level : Nat) {b : Nat} (hb : isBlankByte b = false) (rest : List Nat) :
    (10 :: (bytes (indent level) ++ b :: rest)).dropWhile isBlankByte = b :: rest := by
  rw [List.dropWhile_cons_of_pos (by decide), dropWhile_blank (blank_indent level) hb]

/-- A value is read after the blanks before it. -/
theorem readValue_skip {pre : List Nat} (hpre : Blank pre) (fuel : Nat) (bs : List Nat) :
    readValue fuel (pre ++ bs) = readValue fuel bs := by
  cases fuel with
  | zero => rfl
  | succ f => rw [readValue, readValue, dropWhile_append_blank hpre]

theorem readValue_array {f : Nat} {rest : List Nat} (h : ∀ r, rest.dropWhile isBlankByte ≠ 93 :: r) :
    readValue (f + 1) (91 :: rest) = (readItems f rest).map fun x => (.array x.1, x.2) := by
  rw [readValue, List.dropWhile_cons_of_neg (by decide)]
  -- past the bracket the reader looks for the closing one, which `h` rules out
  simp only []

theorem readValue_object {f : Nat} {rest : List Nat}
    (h : ∀ r, rest.dropWhile isBlankByte ≠ 125 :: r) :
    readValue (f + 1) (123 :: rest) = (readMembers f rest).map fun x => (.object x.1, x.2) := by
  rw [readValue, List.dropWhile_cons_of_neg (by decide)]
  -- past the brace the reader looks for the closing one, which `h` rules out
  simp only []


theorem readItems_last {f : Nat} {bs r more : List Nat} {v : Json}
    (hv : readValue f bs = some (v, r)) (hr : r.dropWhile isBlankByte = 93 :: more) :
    readItems (f + 1) bs = some ([v], more) := by
  simp only [readItems, hv, hr, Option.bind_eq_bind, Option.bind_some]

theorem readItems_more {f : Nat} {bs r more : List Nat} {v : Json}
    (hv : readValue f bs = some (v, r)) (hr : r.dropWhile isBlankByte = 44 :: more) :
    readItems (f + 1) bs = (readItems f more).map fun x => (v :: x.1, x.2) := by
  simp only [readItems, hv, hr, Option.bind_eq_bind, Option.bind_some]

section Member

variable {f : Nat} {bs rest r after r' more : List Nat} {ps : List Piece} {v : Json}

theorem readMembers_last (hb : bs.dropWhile isBlankByte = 34 :: rest)
    (hs : scanString rest = some (ps, r)) (hc : r.dropWhile isBlankByte = 58 :: after)
    (hv : readValue f after = some (v, r')) (hr : r'.dropWhile isBlankByte = 125 :: more) :
    readMembers (f + 1) bs = some ([(contentText ps, v)], more) := by
  simp only [readMembers, hb, hs, hc, hv, hr, Option.bind_eq_bind, Option.bind_some]

theorem readMembers_more (hb : bs.dropWhile isBlankByte = 34 :: rest)
    (hs : scanString rest = some (ps, r)) (hc : r.dropWhile isBlankByte = 58 :: after)
    (hv : readValue f after = some (v, r')) (hr : r'.dropWhile isBlankByte = 44 :: more) :
    readMembers (f + 1) bs = (readMembers f more).map fun x => ((contentText ps, v) :: x.1, x.2) := by
  simp only [readMembers, hb, hs, hc, hv, hr, Option.bind_eq_bind, Option.bind_some]

end Member

/-! ### Values -/

/-- A value the printer writes so that it reads back: it holds no number, and every string and
member name is text. -/
inductive Plain : Json → Prop
  | null : Plain .null
  | bool (b : Bool) : Plain (.bool b)
  | string (s : String) : Plain (.string (some s))
  | array {items : List Json} (h : ∀ v ∈ items, Plain v) : Plain (.array items)
  | object {members : List (Option String × Json)} (hnames : ∀ m ∈ members, m.1.isSome)
      (h : ∀ m ∈ members, Plain m.2) : Plain (.object members)

/-- The bytes of the printer's fixed tokens. -/
@[simp] theorem bytes_tokens :
    bytes "null" = [110, 117, 108, 108] ∧ bytes "true" = [116, 114, 117, 101] ∧
      bytes "false" = [102, 97, 108, 115, 101] ∧ bytes "[]" = [91, 93] ∧
      bytes "\x7b\x7d" = [123, 125] ∧ bytes "[\n" = [91, 10] ∧ bytes "\x7b\n" = [123, 10] ∧
      bytes "\n" = [10] ∧ bytes "]" = [93] ∧ bytes "\x7d" = [125] ∧ bytes ",\n" = [44, 10] ∧
      bytes ": " = [58, 32] := by
  simp only [bytes_eq_flatMap]
  decide

/-- The pretty form of a plain value starts with a byte that is no blank and no closing
bracket. -/
theorem head_prettyAt {v : Json} (hv : Plain v) (level : Nat) :
    ∃ b rest, bytes (prettyAt level v) = b :: rest ∧ isBlankByte b = false ∧ b ≠ 93 := by
  cases hv with
  | null => exact ⟨110, _, by simp [prettyAt]; rfl, rfl, by decide⟩
  | bool b =>
    cases b
    · exact ⟨102, _, by simp [prettyAt]; rfl, rfl, by decide⟩
    · exact ⟨116, _, by simp [prettyAt]; rfl, rfl, by decide⟩
  | string s => exact ⟨34, _, by simp [prettyAt, bytes_quote]; rfl, rfl, by decide⟩
  | @array items _ =>
    cases items <;> exact ⟨91, _, by simp [prettyAt]; rfl, rfl, by decide⟩
  | @object members _ _ =>
    cases members <;> exact ⟨123, _, by simp [prettyAt]; rfl, rfl, by decide⟩


/-- A value reads back from its pretty form at every nesting level, after any blanks and before
anything, with as much fuel as its bytes. -/
def ReadsBack (v : Json) : Prop :=
  ∀ (level fuel : Nat) (pre : List Nat), Blank pre → (bytes (prettyAt level v)).length ≤ fuel →
    ∀ tail, readValue fuel (pre ++ (bytes (prettyAt level v) ++ tail)) = some (v, tail)

/-- Items that read back, then bytes that close the array, read back as the items. -/
theorem readItems_pretty {items : List Json} (h : ∀ v ∈ items, ReadsBack v) (hne : items ≠ []) :
    ∀ (level fuel : Nat) (pre close tail : List Nat), Blank pre →
      close.dropWhile isBlankByte = 93 :: tail → (bytes (prettyItems level items)).length < fuel →
      readItems fuel (pre ++ (bytes (prettyItems level items) ++ close)) = some (items, tail) := by
  induction items with
  | nil => exact absurd rfl hne
  | cons v rest ih =>
    intro level fuel pre close tail hpre hclose hlen
    obtain ⟨f, rfl⟩ : ∃ f, fuel = f + 1 := ⟨fuel - 1, by omega⟩
    have hv := h v List.mem_cons_self
    have hpre' := hpre.append (blank_indent level)
    cases rest with
    | nil =>
      -- the last item, then the closing bracket
      simp only [prettyItems, bytes_append, List.length_append, List.append_assoc] at hlen ⊢
      have hread := hv level f _ hpre' (by omega) close
      rw [List.append_assoc] at hread
      exact readItems_last hread hclose
    | cons w ws =>
      -- an item, a comma, and the items after it
      simp only [prettyItems, bytes_append, bytes_tokens, List.length_append, List.append_assoc,
        List.cons_append, List.nil_append] at hlen ⊢
      have hread := hv level f _ hpre' (by simp only [List.length_cons] at hlen; omega)
        (44 :: 10 :: (bytes (prettyItems level (w :: ws)) ++ close))
      rw [List.append_assoc] at hread
      have hnext := ih (fun x hx => h x (List.mem_cons_of_mem _ hx)) (List.cons_ne_nil _ _)
        level f [10] close tail (by simp [Blank, isBlankByte]) hclose
        (by simp only [List.length_cons] at hlen; omega)
      rw [readItems_more hread (List.dropWhile_cons_of_neg (by decide)), List.singleton_append] at *
      rw [hnext]
      rfl

/-- The pretty form of items starts with the first one, indented. -/
theorem bytes_prettyItems_cons (level : Nat) (v : Json) (rest : List Json) :
    ∃ tl, bytes (prettyItems level (v :: rest)) =
      bytes (indent level) ++ (bytes (prettyAt level v) ++ tl) := by
  cases rest with
  | nil => exact ⟨[], by simp [prettyItems]⟩
  | cons w ws => exact ⟨_, by simp only [prettyItems, bytes_append, List.append_assoc]; rfl⟩

/-- The pretty form of members starts with the first name's quote, indented. -/
theorem bytes_prettyMembers_cons (level : Nat) (key : String) (v : Json)
    (rest : List (Option String × Json)) :
    ∃ tl, bytes (prettyMembers level ((some key, v) :: rest)) = bytes (indent level) ++ 34 :: tl := by
  cases rest with
  | nil => exact ⟨_, by simp only [prettyMembers, Option.getD_some, bytes_append, bytes_quote,
      List.append_assoc, List.cons_append]; rfl⟩
  | cons w ws => exact ⟨_, by simp only [prettyMembers, Option.getD_some, bytes_append,
      bytes_quote, List.append_assoc, List.cons_append]; rfl⟩

/-- Members that read back, with text names, then bytes that close the object, read back as the
members. -/
theorem readMembers_pretty {members : List (Option String × Json)}
    (hnames : ∀ m ∈ members, m.1.isSome) (h : ∀ m ∈ members, ReadsBack m.2) (hne : members ≠ []) :
    ∀ (level fuel : Nat) (pre close tail : List Nat), Blank pre →
      close.dropWhile isBlankByte = 125 :: tail →
      (bytes (prettyMembers level members)).length < fuel →
      readMembers fuel (pre ++ (bytes (prettyMembers level members) ++ close)) =
        some (members, tail) := by
  induction members with
  | nil => exact absurd rfl hne
  | cons m rest ih =>
    intro level fuel pre close tail hpre hclose hlen
    obtain ⟨f, rfl⟩ : ∃ f, fuel = f + 1 := ⟨fuel - 1, by omega⟩
    obtain ⟨k, v⟩ := m
    obtain ⟨key, rfl⟩ := Option.isSome_iff_exists.mp (hnames _ List.mem_cons_self)
    have hv : ReadsBack v := h _ List.mem_cons_self
    have hpre' := hpre.append (blank_indent level)
    -- the name, the colon, then the value after one blank
    have hname : ∀ after, (pre ++ (bytes (indent level) ++ 34 :: after)).dropWhile isBlankByte =
        34 :: after := fun after => by
      rw [← List.append_assoc]
      exact dropWhile_blank hpre' (by decide) after
    have hcolon : ∀ after, (58 :: 32 :: after).dropWhile isBlankByte = 58 :: 32 :: after :=
      fun after => List.dropWhile_cons_of_neg (by decide)
    cases rest with
    | nil =>
      simp only [prettyMembers, Option.getD_some, bytes_append, bytes_quote, bytes_tokens,
        List.length_append, List.length_cons, List.append_assoc, List.cons_append,
        List.nil_append] at hlen ⊢
      obtain ⟨ps, hps, hscan⟩ := scanString_text key (58 :: 32 :: (bytes (prettyAt level v) ++ close))
      have hread := hv level f [32] (by simp [Blank, isBlankByte]) (by omega) close
      rw [readMembers_last (hname _) hscan (hcolon _) hread hclose, hps]
    | cons m2 ms =>
      simp only [prettyMembers, Option.getD_some, bytes_append, bytes_quote, bytes_tokens,
        List.length_append, List.length_cons, List.append_assoc, List.cons_append,
        List.nil_append] at hlen ⊢
      obtain ⟨ps, hps, hscan⟩ := scanString_text key (58 :: 32 :: (bytes (prettyAt level v) ++
        44 :: 10 :: (bytes (prettyMembers level (m2 :: ms)) ++ close)))
      have hread := hv level f [32] (by simp [Blank, isBlankByte]) (by omega)
        (44 :: 10 :: (bytes (prettyMembers level (m2 :: ms)) ++ close))
      have hnext := ih (fun x hx => hnames x (List.mem_cons_of_mem _ hx))
        (fun x hx => h x (List.mem_cons_of_mem _ hx)) (List.cons_ne_nil _ _)
        level f [10] close tail (by simp [Blank, isBlankByte]) hclose (by omega)
      rw [List.singleton_append] at hnext
      rw [readMembers_more (hname _) hscan (hcolon _) hread (List.dropWhile_cons_of_neg (by decide)),
        hnext, hps]
      rfl

/-- **A plain value reads back from its pretty form**, at every nesting level, after any blanks
and before anything, with as much fuel as its bytes. -/
theorem readsBack_of_plain {v : Json} (hv : Plain v) : ReadsBack v := by
  induction hv with
  | null =>
    intro level fuel pre hpre hlen tail
    obtain ⟨f, rfl⟩ : ∃ f, fuel = f + 1 := ⟨fuel - 1, by simp [prettyAt] at hlen; omega⟩
    rw [readValue_skip hpre]
    simp [prettyAt, readValue, isBlankByte]
  | bool b =>
    intro level fuel pre hpre hlen tail
    obtain ⟨f, rfl⟩ : ∃ f, fuel = f + 1 := ⟨fuel - 1, by cases b <;> simp [prettyAt] at hlen <;> omega⟩
    rw [readValue_skip hpre]
    cases b <;> simp [prettyAt, readValue, isBlankByte]
  | string s =>
    intro level fuel pre hpre hlen tail
    obtain ⟨f, rfl⟩ : ∃ f, fuel = f + 1 := ⟨fuel - 1, by simp [prettyAt, bytes_quote] at hlen; omega⟩
    rw [readValue_skip hpre]
    obtain ⟨ps, hps, hscan⟩ := scanString_text s tail
    simp only [prettyAt, bytes_quote, List.cons_append, List.append_assoc]
    simp [readValue, isBlankByte, hscan, hps]
  | @array items hitems ih =>
    intro level fuel pre hpre hlen tail
    rw [readValue_skip hpre]
    cases items with
    | nil =>
      obtain ⟨f, rfl⟩ : ∃ f, fuel = f + 1 := ⟨fuel - 1, by simp [prettyAt] at hlen; omega⟩
      simp [prettyAt, readValue, isBlankByte]
    | cons v rest =>
      simp only [prettyAt, bytes_append, bytes_tokens, List.length_append, List.length_cons,
        List.append_assoc, List.cons_append, List.nil_append] at hlen ⊢
      obtain ⟨f, rfl⟩ : ∃ f, fuel = f + 1 := ⟨fuel - 1, by omega⟩
      -- the first item starts with no closing bracket
      obtain ⟨b, bs, hhead, hblank, h93⟩ := head_prettyAt (hitems v List.mem_cons_self) (level + 1)
      obtain ⟨tl, htl⟩ := bytes_prettyItems_cons (level + 1) v rest
      have hfirst : ∀ r, (10 :: (bytes (prettyItems (level + 1) (v :: rest)) ++
          10 :: (bytes (indent level) ++ 93 :: tail))).dropWhile isBlankByte ≠ 93 :: r := by
        intro r
        rw [htl, hhead]
        simp only [List.append_assoc, List.cons_append]
        rw [dropWhile_newline (level + 1) hblank]
        exact fun heq => h93 (List.cons.inj heq).1
      have hitemsRead := readItems_pretty ih (List.cons_ne_nil _ _) (level + 1) f [10]
        (10 :: (bytes (indent level) ++ 93 :: tail)) tail (by simp [Blank, isBlankByte])
        (dropWhile_newline level (by decide) tail) (by omega)
      rw [List.singleton_append] at hitemsRead
      rw [readValue_array hfirst, hitemsRead]
      rfl
  | @object members hnames hvals ih =>
    intro level fuel pre hpre hlen tail
    rw [readValue_skip hpre]
    cases members with
    | nil =>
      obtain ⟨f, rfl⟩ : ∃ f, fuel = f + 1 := ⟨fuel - 1, by simp [prettyAt] at hlen; omega⟩
      simp [prettyAt, readValue, isBlankByte]
    | cons m rest =>
      simp only [prettyAt, bytes_append, bytes_tokens, List.length_append, List.length_cons,
        List.append_assoc, List.cons_append, List.nil_append] at hlen ⊢
      obtain ⟨f, rfl⟩ : ∃ f, fuel = f + 1 := ⟨fuel - 1, by omega⟩
      -- the first member starts with its name's quote
      obtain ⟨k, v⟩ := m
      obtain ⟨key, rfl⟩ := Option.isSome_iff_exists.mp (hnames _ List.mem_cons_self)
      obtain ⟨tl, htl⟩ := bytes_prettyMembers_cons (level + 1) key v rest
      have hfirst : ∀ r, (10 :: (bytes (prettyMembers (level + 1) ((some key, v) :: rest)) ++
          10 :: (bytes (indent level) ++ 125 :: tail))).dropWhile isBlankByte ≠ 125 :: r := by
        intro r
        rw [htl]
        simp only [List.append_assoc, List.cons_append]
        rw [dropWhile_newline (level + 1) (by decide)]
        exact fun heq => absurd (List.cons.inj heq).1 (by decide)
      have hmembersRead := readMembers_pretty hnames ih (List.cons_ne_nil _ _) (level + 1) f [10]
        (10 :: (bytes (indent level) ++ 125 :: tail)) tail (by simp [Blank, isBlankByte])
        (dropWhile_newline level (by decide) tail) (by omega)

      rw [List.singleton_append] at hmembersRead
      rw [readValue_object hfirst, hmembersRead]
      rfl

/-- **The pretty form of a plain value reads back as the value.** -/
theorem parse?_pretty {v : Json} (hv : Plain v) : parse? (Utf8.encode (pretty v)) = some v := by
  have hread := readsBack_of_plain hv 0 ((bytes (prettyAt 0 v)).length + 1) [] blank_nil
    (Nat.le_succ _) []
  simp only [List.nil_append, List.append_nil] at hread
  have hbytes : (Utf8.encode (pretty v)).map UInt8.toNat = bytes (prettyAt 0 v) := rfl
  simp only [parse?, hbytes, hread, List.all_nil, if_true]


theorem plain_str (s : String) : Plain (str s) := .string s

/-- An object with text names and plain values is plain. -/
theorem plain_obj {members : List (String × Json)} (h : ∀ m ∈ members, Plain m.2) :
    Plain (obj members) :=
  .object (fun m hm => by
    obtain ⟨k, -, rfl⟩ := List.mem_map.mp hm
    rfl)
    (fun m hm => by
      obtain ⟨k, hk, rfl⟩ := List.mem_map.mp hm
      exact h k hk)

/-- Values read from their images under `f` by `g` read back as a list. -/
theorem mapM_map_of_inverse {α : Type} {f : α → Json} {g : Json → Option α}
    (h : ∀ x, g (f x) = some x) : ∀ xs : List α, (xs.map f).mapM g = some xs
  | [] => rfl
  | x :: xs => by simp [h, mapM_map_of_inverse h xs]

end Json

namespace Coverage

open Json

theorem PairSnapshot.ofJson?_toJson (p : PairSnapshot) : PairSnapshot.ofJson? p.toJson = some p := by
  simp [PairSnapshot.ofJson?, PairSnapshot.toJson, obj, recordFields, recordMembers, text?, boolOf?,
    Json.str]

theorem TypeSnapshot.ofJson?_toJson (t : TypeSnapshot) : TypeSnapshot.ofJson? t.toJson = some t := by
  have hpairs := mapM_map_of_inverse PairSnapshot.ofJson?_toJson t.pairs
  have hputs := mapM_map_of_inverse (f := Json.str) (g := text?) (fun _ => rfl) t.puts
  simp [TypeSnapshot.ofJson?, TypeSnapshot.toJson, obj, recordFields, recordMembers, text?, items?,
    Json.str, hpairs, hputs]

theorem Snapshot.ofJson?_toJson (s : Snapshot) : Snapshot.ofJson? s.toJson = some s := by
  have htypes := mapM_map_of_inverse TypeSnapshot.ofJson?_toJson s.types
  simp [Snapshot.ofJson?, Snapshot.toJson, obj, recordFields, recordMembers, items?, htypes]

/-- The JSON form of a snapshot holds no number and only text. -/
theorem Snapshot.plain_toJson (s : Snapshot) : Plain s.toJson := by
  have hpair : ∀ p : PairSnapshot, Plain p.toJson := fun p =>
    plain_obj (by simp [plain_str, Plain.bool])
  have htype : ∀ t : TypeSnapshot, Plain t.toJson := fun t =>
    plain_obj (by simp [plain_str, Plain.array, hpair])

  exact plain_obj (by simp [Plain.array, htype])

/-- **The pretty JSON form of a snapshot reads back as the snapshot.** -/
theorem Snapshot.ofJson?_parse?_encode (s : Snapshot) :
    (parse? (s.encode .json)).bind Snapshot.ofJson? = some s := by
  rw [Snapshot.encode, parse?_pretty s.plain_toJson, Option.bind_some, s.ofJson?_toJson]

end Coverage

end DefUseCoverage





