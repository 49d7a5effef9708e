import Mathlib
import DefUseCoverage.Proofs.JsonCodec
import DefUseCoverage.Engine.ReportReader
import DefUseCoverage.Engine.Batch
/-! # Batches and reports read back

  A batch goes to an engine as the pretty JSON form of its puts, and the engine answers with a
  report of the candidates it covered. Both directions are read here against the printer.

  - Positions: `At b i xs` says that the bytes from offset `i` start with `xs`, and
    `Reads read b t v` that wherever the bytes `t` stand, `read` gives `v` and the offset after
    them. Each reading function gets one lemma for the bytes it consumes.
  - Text: the printer writes each character as a two-byte escape, a `\u00XX` escape of a control
    character, an ASCII byte, or beyond ASCII its UTF-8 sequence, whose lead byte, second byte
    and continuation bytes pass the reader's check (`Utf8.multiByte_utf8EncodeChar`). So the
    reader takes every escaped character back to its bytes (`readStrFrom_char`), and a quoted
    text back to the text (`readStr_quote`).
  - Containers: one step lemma for a member or an item, after its comma unless it is the first,
    and one for the closing brace or bracket (`members_cons`, `arrayItems_cons`).
  - Main statement: the batch document parses back as the puts with their targets, and a report
    of those targets in the pretty form, with JSON whitespace around it, reads as their
    candidates with nothing observed (`batch_report_roundtrip`).
-/

namespace DefUseCoverage.Utf8

/-- Bytes that start a well-formed sequence of more than one byte: the second byte lies in the
range the lead byte names, and the rest are continuation bytes up to the lead byte's length. -/
structure MultiByte (b0 b1 : UInt8) (rest : List UInt8) : Prop where
  range : ∃ lo hi, secondRange b0 = some (lo, hi) ∧ lo ≤ b1 ∧ b1 ≤ hi
  length : seqLength b0 = rest.length + 2
  tails : ∀ x ∈ rest, isTail x = true

theorem isTail_ofNat (k : Nat) : isTail (UInt8.ofNat (k % 64 + 0x80)) = true := by
  simp only [isTail, Bool.and_eq_true, decide_eq_true_eq, UInt8.le_iff_toNat_le,
    UInt8.toNat_ofNat', UInt8.toNat_ofNat, Nat.reducePow]
  omega

/-- The ranges of second bytes, for every lead byte: wider than `0x80 ..= 0xBF` nowhere, and
narrower where a shorter sequence or a surrogate would be written. -/
theorem secondRange_ofNat {n : Nat} (h1 : 0xC2 ≤ n) (h2 : n ≤ 0xF4) :
    secondRange (UInt8.ofNat n) =
      some (UInt8.ofNat (if n = 0xE0 then 0xA0 else if n = 0xF0 then 0x90 else 0x80),
        UInt8.ofNat (if n = 0xED then 0x9F else if n = 0xF4 then 0x8F else 0xBF)) := by
  interval_cases n <;> decide

theorem seqLength_ofNat {n : Nat} (h : n < 256) :
    seqLength (UInt8.ofNat n) =
      if n < 0x80 then 1 else if n < 0xE0 then 2 else if n < 0xF0 then 3 else 4 := by
  have hn : (UInt8.ofNat n).toNat = n := by simp only [UInt8.toNat_ofNat']; omega
  simp only [seqLength, UInt8.lt_iff_toNat_lt, hn, UInt8.toNat_ofNat, Nat.reducePow, Nat.reduceMod]

/-- The bytes of a character beyond ASCII start a well-formed sequence. -/
theorem multiByte_utf8EncodeChar {c : Char} (hc : 0x80 ≤ c.toNat) :
    ∃ b0 b1 rest, String.utf8EncodeChar c = b0 :: b1 :: rest ∧ MultiByte b0 b1 rest := by
  have hv : c.toNat < 0xd800 ∨ (0xdfff < c.toNat ∧ c.toNat < 0x110000) := c.valid
  have hle : ∀ {m n : Nat}, m ≤ n → n < 256 → UInt8.ofNat m ≤ UInt8.ofNat n :=
    fun hmn hn =>
    (UInt8.ofNat_le_iff_le (by show _ < 256; omega) (by show _ < 256; omega)).mpr hmn
  unfold String.utf8EncodeChar
  simp only [Char.toNat] at hc hv ⊢
  rw [if_neg (by omega)]
  -- the three lengths; the surrogates are no characters, so `0xED` is never followed by `0xA0`
  split_ifs with h2 h3
  · refine ⟨_, _, [], rfl,
      ⟨⟨_, _, secondRange_ofNat (by omega) (by omega), ?_, ?_⟩, ?_, by simp⟩⟩
    · exact hle (by split_ifs <;> omega) (by omega)
    · exact hle (by split_ifs <;> omega) (by split_ifs <;> omega)
    · rw [seqLength_ofNat (by omega), if_neg (by omega), if_pos (by omega)]
      rfl
  · refine ⟨_, _, [_], rfl,
      ⟨⟨_, _, secondRange_ofNat (by omega) (by omega), ?_, ?_⟩, ?_, ?_⟩⟩
    · exact hle (by split_ifs <;> omega) (by omega)
    · exact hle (by split_ifs <;> omega) (by split_ifs <;> omega)
    · rw [seqLength_ofNat (by omega), if_neg (by omega), if_neg (by omega), if_pos (by omega)]
      rfl
    · simp only [List.mem_singleton, forall_eq]
      exact isTail_ofNat _
  · refine ⟨_, _, [_, _], rfl,
      ⟨⟨_, _, secondRange_ofNat (by omega) (by omega), ?_, ?_⟩, ?_, ?_⟩⟩
    · exact hle (by split_ifs <;> omega) (by omega)
    · exact hle (by split_ifs <;> omega) (by split_ifs <;> omega)
    · rw [seqLength_ofNat (by omega), if_neg (by omega), if_neg (by omega), if_neg (by omega)]
      rfl
    · simp only [List.mem_cons, List.not_mem_nil, or_false, forall_eq_or_imp, forall_eq]
      exact ⟨isTail_ofNat _, isTail_ofNat _⟩

end DefUseCoverage.Utf8

namespace DefUseCoverage.ReportReader

/-! ### Positions in the bytes -/

/-- The bytes from offset `i` on start with `xs`. -/
def At (b : Bytes) (i : Nat) (xs : List UInt8) : Prop :=
  ∃ pre rest, b.toList = pre ++ xs ++ rest ∧ pre.length = i

variable {b : Bytes} {i : Nat}

theorem at_append {xs ys : List UInt8} :
    At b i (xs ++ ys) ↔ At b i xs ∧ At b (i + xs.length) ys := by
  constructor
  · rintro ⟨pre, rest, hb, rfl⟩
    exact ⟨⟨pre, ys ++ rest, by simp [hb], rfl⟩, pre ++ xs, rest, by simp [hb], by simp⟩
  · rintro ⟨⟨pre, rest, hb, rfl⟩, pre', rest', hb', hlen⟩
    rw [hb, List.append_assoc pre' ys] at hb'
    obtain ⟨rfl, rfl⟩ := List.append_inj hb' (by simp [hlen])
    exact ⟨pre, rest', by simp [hb], rfl⟩

theorem at_singleton {x : UInt8} : At b i [x] ↔ b[i]? = some x := by
  constructor
  · rintro ⟨pre, rest, hb, rfl⟩
    rw [← Array.getElem?_toList, hb]
    simp
  · intro h
    obtain ⟨hi, rfl⟩ := Array.getElem?_eq_some_iff.mp h
    refine ⟨b.toList.take i, b.toList.drop (i + 1), ?_, by simp; omega⟩
    conv_lhs => rw [← List.take_append_drop i b.toList]
    rw [List.drop_eq_getElem_cons (by simpa using hi)]
    simp

theorem at_cons {x : UInt8} {xs : List UInt8} :
    At b i (x :: xs) ↔ b[i]? = some x ∧ At b (i + 1) xs := by
  rw [← List.singleton_append, at_append, at_singleton, List.length_singleton]

theorem At.le_size {xs : List UInt8} (h : At b i xs) : i + xs.length ≤ b.size := by
  obtain ⟨pre, rest, hb, rfl⟩ := h
  have := congrArg List.length hb
  simp only [Array.length_toList, List.length_append] at this
  omega

theorem At.getElem?_add {xs : List UInt8} (h : At b i xs) {k : Nat} (hk : k < xs.length) :
    b[i + k]? = xs[k]? := by
  obtain ⟨pre, rest, hb, rfl⟩ := h
  rw [← Array.getElem?_toList, hb, List.append_assoc, List.getElem?_append_right (by omega),
    Nat.add_sub_cancel_left, List.getElem?_append_left hk]

theorem At.extract {xs : List UInt8} (h : At b i xs) :
    (b.extract i (i + xs.length)).toList = xs := by
  obtain ⟨pre, rest, hb, rfl⟩ := h
  rw [Array.toList_extract, List.extract_eq_take_drop, hb]
  simp

/-! ### Blanks -/

/-- Bytes the reader skips between tokens. -/
def Blanks (ws : List UInt8) : Prop := ∀ w ∈ ws, isBlank w = true

theorem blanks_nil : Blanks [] := by simp [Blanks]

theorem blanks_space : Blanks [32] := by
  intro w hw
  rw [List.mem_singleton.mp hw]
  rfl

theorem blanks_of_whitespace {ws : List UInt8}
    (h : ∀ x ∈ ws, x = 32 ∨ x = 9 ∨ x = 10 ∨ x = 13) : Blanks ws := by
  intro x hx
  rcases h x hx with rfl | rfl | rfl | rfl <;> rfl

theorem skipBlanks_at {ws : List UInt8} {x : UInt8} (hat : At b i (ws ++ [x])) (hws : Blanks ws)
    (hx : isBlank x = false) : skipBlanks b i = i + ws.length := by
  induction ws generalizing i with
  | nil =>
    obtain ⟨hi, rfl⟩ := Array.getElem?_eq_some_iff.mp (at_singleton.mp hat)
    rw [skipBlanks, dif_pos hi, if_neg (by simp [hx])]
    rfl
  | cons w ws ih =>
    obtain ⟨hw, hrest⟩ := at_cons.mp hat
    obtain ⟨hi, rfl⟩ := Array.getElem?_eq_some_iff.mp hw
    rw [skipBlanks, dif_pos hi, if_pos (hws _ List.mem_cons_self),
      ih hrest fun w hw => hws w (List.mem_cons_of_mem _ hw)]
    simp only [List.length_cons]
    omega

/-- A byte that is no blank stops the skipping where it stands. -/
theorem skipBlanks_of_getElem? {x : UInt8} (h : b[i]? = some x) (hx : isBlank x = false) :
    skipBlanks b i = i :=
  skipBlanks_at (by simpa using at_singleton.mpr h) blanks_nil hx

theorem skipBlanks_end {ws : List UInt8} (hat : At b i ws) (hws : Blanks ws)
    (hend : i + ws.length = b.size) : skipBlanks b i = b.size := by
  induction ws generalizing i with
  | nil =>
    rw [skipBlanks, dif_neg (by simp at hend; omega)]
    simpa using hend
  | cons w ws ih =>
    obtain ⟨hw, hrest⟩ := at_cons.mp hat
    obtain ⟨hi, rfl⟩ := Array.getElem?_eq_some_iff.mp hw
    rw [skipBlanks, dif_pos hi, if_pos (hws _ List.mem_cons_self),
      ih hrest (fun w hw => hws w (List.mem_cons_of_mem _ hw)) (by simp at hend ⊢; omega)]

/-! ### Text -/

theorem lead_of_secondRange {b0 : UInt8} {r : UInt8 × UInt8} (h : Utf8.secondRange b0 = some r) :
    0xC2 ≤ b0.toNat := by
  unfold Utf8.secondRange at h
  simp only [Bool.and_eq_true, Bool.or_eq_true, beq_iff_eq, decide_eq_true_eq,
    UInt8.le_iff_toNat_le, ← UInt8.toNat_inj, UInt8.toNat_ofNat, Nat.reducePow,
    Nat.reduceMod] at h
  split_ifs at h <;> omega

theorem sequenceAt_multiByte {b0 b1 : UInt8} {rest : List UInt8} (hat : At b i (b0 :: b1 :: rest))
    (hm : Utf8.MultiByte b0 b1 rest) : sequenceAt b i = some (rest.length + 2) := by
  obtain ⟨h0, h1, hrest⟩ : b[i]? = some b0 ∧ b[i + 1]? = some b1 ∧ At b (i + 2) rest := by
    simpa only [at_cons, Nat.add_assoc] using hat
  obtain ⟨lo, hi, hr, hlo, hhi⟩ := hm.range
  -- every byte after the second is a continuation byte
  have htails : ((List.range rest.length).all fun k =>
      (b[i + 2 + k]?.map Utf8.isTail).getD false) = true := by
    rw [List.all_eq_true]
    intro k hk
    rw [List.mem_range] at hk
    rw [hrest.getElem?_add hk, List.getElem?_eq_getElem hk]
    exact hm.tails _ (List.getElem_mem hk)
  unfold sequenceAt
  simp only [h0, hr, h1, hm.length, Nat.add_sub_cancel, htails, hlo, hhi, decide_true,
    Bool.and_self, if_true]

section Steps

variable {fuel : Nat} {acc : List UInt8}

theorem readStrFrom_ascii {x : UInt8} (hat : At b i [x])
    (h32 : 32 ≤ x.toNat) (h128 : x.toNat < 128) (h34 : x ≠ 34) (h92 : x ≠ 92) :
    readStrFrom b (fuel + 1) acc i = readStrFrom b fuel (x :: acc) (i + 1) := by
  rw [readStrFrom, at_singleton.mp hat]
  split
  next heq => cases heq
  next heq => exact absurd (Option.some.inj heq) h34
  next heq => exact absurd (Option.some.inj heq) h92
  next y _ _ heq =>
    cases heq
    rw [if_neg (by simp [UInt8.lt_iff_toNat_lt]; omega),
      if_pos (by simp [UInt8.lt_iff_toNat_lt]; omega)]

theorem readStrFrom_multiByte {b0 b1 : UInt8} {rest : List UInt8} (hat : At b i (b0 :: b1 :: rest))
    (hm : Utf8.MultiByte b0 b1 rest) :
    readStrFrom b (fuel + 1) acc i =
      readStrFrom b fuel ((b0 :: b1 :: rest).reverse ++ acc) (i + (b0 :: b1 :: rest).length) := by
  obtain ⟨lo, hi, hr, -, -⟩ := hm.range
  have hlead := lead_of_secondRange hr
  rw [readStrFrom, (at_cons.mp hat).1]
  split
  next heq => cases heq
  next heq => cases heq; simp at hlead
  next heq => cases heq; simp at hlead
  next y _ _ heq =>
    cases heq
    rw [if_neg (by simp [UInt8.lt_iff_toNat_lt]; omega),
      if_neg (by simp [UInt8.lt_iff_toNat_lt]; omega), sequenceAt_multiByte hat hm]
    have hext := hat.extract
    simp only [List.length_cons] at hext
    simp only [hext]
    rfl

/-- The two-byte escapes the reader knows, with the byte each stands for. -/
theorem readStrFrom_escape {e v : UInt8}
    (hev : (e, v) ∈
      [(34, 34), (92, 92), (47, 47), (98, 8), (102, 12), (110, 10), (114, 13), (116, 9)])
    (hat : At b i [92, e]) :
    readStrFrom b (fuel + 1) acc i = readStrFrom b fuel (v :: acc) (i + 2) := by
  obtain ⟨h0, h1, -⟩ : b[i]? = some 92 ∧ b[i + 1]? = some e ∧ _ := by
    simpa only [at_cons] using hat
  rw [readStrFrom, h0]
  simp only [List.mem_cons, Prod.mk.injEq, List.not_mem_nil, or_false] at hev
  rcases hev with ⟨rfl, rfl⟩ | ⟨rfl, rfl⟩ | ⟨rfl, rfl⟩ | ⟨rfl, rfl⟩ |
    ⟨rfl, rfl⟩ | ⟨rfl, rfl⟩ | ⟨rfl, rfl⟩ | ⟨rfl, rfl⟩ <;> simp only [h1]

theorem hex4_at {x₁ x₂ x₃ x₄ : UInt8} {d₁ d₂ d₃ d₄ : Nat}
    (hat : At b i [x₁, x₂, x₃, x₄]) (h₁ : hexValue x₁ = some d₁)
    (h₂ : hexValue x₂ = some d₂) (h₃ : hexValue x₃ = some d₃)
    (h₄ : hexValue x₄ = some d₄) :
    hex4 b i = .ok (d₁ * 4096 + d₂ * 256 + d₃ * 16 + d₄, i + 4) := by
  have hget : ∀ k (hk : k < 4), b[i + k]! = [x₁, x₂, x₃, x₄][k] := fun k hk => by
    rw [getElem!_def, hat.getElem?_add hk, List.getElem?_eq_getElem hk]
  have hsize := hat.le_size
  unfold hex4
  rw [if_pos (by simpa using hsize)]
  simp only [show b[i]! = x₁ from hget 0 (by omega), show b[i + 1]! = x₂ from hget 1 (by omega),
    show b[i + 2]! = x₃ from hget 2 (by omega), show b[i + 3]! = x₄ from hget 3 (by omega),
    h₁, h₂, h₃, h₄]

/-- A `\u` escape of a code point below the surrogates. -/
theorem readStrFrom_unit {x₁ x₂ x₃ x₄ : UInt8} {d₁ d₂ d₃ d₄ : Nat}
    (hat : At b i [92, 117, x₁, x₂, x₃, x₄]) (h₁ : hexValue x₁ = some d₁)
    (h₂ : hexValue x₂ = some d₂) (h₃ : hexValue x₃ = some d₃)
    (h₄ : hexValue x₄ = some d₄) (hn : d₁ * 4096 + d₂ * 256 + d₃ * 16 + d₄ < 0xD800) :
    readStrFrom b (fuel + 1) acc i =
      readStrFrom b fuel ((utf8Of (d₁ * 4096 + d₂ * 256 + d₃ * 16 + d₄)).reverse ++ acc)
        (i + 6) := by
  obtain ⟨h0, h1, hhex⟩ :
      b[i]? = some 92 ∧ b[i + 1]? = some 117 ∧ At b (i + 2) [x₁, x₂, x₃, x₄] := by
    simpa only [at_cons, Nat.add_assoc] using hat
  rw [readStrFrom, h0]
  simp +decide only [h1, hex4_at hhex h₁ h₂ h₃ h₄]
  rw [if_neg not_false, if_neg (by simp; omega), if_pos (by simp; omega), Nat.add_assoc]

/-- The bytes a character is written as inside a JSON string. -/
def escapedBytes (c : Char) : List UInt8 := (Json.escapeChar c).flatMap String.utf8EncodeChar

theorem encode_quote (s : String) :
    Utf8.encode (Json.quote s) = 34 :: s.toList.flatMap escapedBytes ++ [34] := by
  rw [Json.quote, Utf8.encode_ofList]
  simp only [List.flatMap_cons, List.flatMap_append, List.flatMap_assoc, List.flatMap_nil,
    List.append_nil, List.cons_append]
  rfl

/-- The printer's hexadecimal digits are single bytes the reader takes back to their value. -/
theorem hexDigit_hexValue : ∀ d, d < 16 →
    (String.utf8EncodeChar (Json.hexDigit d)).map hexValue = [some d] := by
  decide

theorem utf8Of_toNat (c : Char) : utf8Of c.toNat = String.utf8EncodeChar c := by
  simp [utf8Of, Char.ofNat_toNat, Utf8.encode_eq_flatMap]

theorem readStrFrom_char (c : Char) (hat : At b i (escapedBytes c)) :
    readStrFrom b (fuel + 1) acc i =
      readStrFrom b fuel ((String.utf8EncodeChar c).reverse ++ acc)
        (i + (escapedBytes c).length) := by
  unfold escapedBytes at hat ⊢
  generalize hes : Json.escapeChar c = es at hat ⊢
  unfold Json.escapeChar at hes
  split at hes
  · subst hes; exact readStrFrom_escape (by decide) hat
  · subst hes; exact readStrFrom_escape (by decide) hat
  · subst hes; exact readStrFrom_escape (by decide) hat
  · subst hes; exact readStrFrom_escape (by decide) hat
  · subst hes; exact readStrFrom_escape (by decide) hat
  · subst hes; exact readStrFrom_escape (by decide) hat
  · subst hes; exact readStrFrom_escape (by decide) hat
  next hq hbs _ _ _ _ _ =>
    split at hes
    next hctl =>
      subst hes
      -- a control character is a `\u` escape of its code
      obtain ⟨x₃, hx₃, hv₃⟩ : ∃ x,
          String.utf8EncodeChar (Json.hexDigit (c.toNat / 16)) = [x] ∧
            hexValue x = some (c.toNat / 16) := by
        simpa [List.map_eq_singleton_iff] using hexDigit_hexValue (c.toNat / 16) (by omega)
      obtain ⟨x₄, hx₄, hv₄⟩ : ∃ x,
          String.utf8EncodeChar (Json.hexDigit (c.toNat % 16)) = [x] ∧
            hexValue x = some (c.toNat % 16) := by
        simpa [List.map_eq_singleton_iff] using hexDigit_hexValue (c.toNat % 16) (by omega)
      have hbytes : (['\\', 'u', '0', '0', Json.hexDigit (c.toNat / 16),
          Json.hexDigit (c.toNat % 16)].flatMap String.utf8EncodeChar) =
            [92, 117, 48, 48, x₃, x₄] := by
        simp only [List.flatMap_cons, List.flatMap_nil, hx₃, hx₄]
        rfl
      have hzero : hexValue 48 = some 0 := by decide
      have hcode : 0 * 4096 + 0 * 256 + c.toNat / 16 * 16 + c.toNat % 16 = c.toNat := by omega
      rw [hbytes] at hat ⊢
      rw [readStrFrom_unit hat hzero hzero hv₃ hv₄ (by omega), hcode, utf8Of_toNat]
      rfl
    next hctl =>
      -- any other character is its own bytes
      subst hes
      rw [List.flatMap_singleton] at hat ⊢
      by_cases hascii : c.toNat < 128
      · have hsize : c.utf8Size = 1 := Char.utf8Size_eq_one_iff.mpr (by
          simp only [UInt32.le_iff_toNat_le]
          exact Nat.le_of_lt_succ hascii)
        have hbyte : c.val.toUInt8.toNat = c.toNat := by
          simp only [UInt32.toNat_toUInt8, Char.toNat] at hascii ⊢
          omega
        rw [String.utf8EncodeChar_eq_singleton hsize] at hat ⊢
        refine readStrFrom_ascii hat (by omega) (by omega) (fun h => hq ?_) (fun h => hbs ?_) <;>
          exact Char.toNat_inj.mp (by rw [← hbyte, h]; rfl)
      · obtain ⟨b0, b1, rest, henc, hm⟩ := Utf8.multiByte_utf8EncodeChar (c := c) (by omega)
        rw [henc] at hat ⊢
        exact readStrFrom_multiByte hat hm

theorem escapeChar_ne_nil (c : Char) : Json.escapeChar c ≠ [] := by
  unfold Json.escapeChar
  -- the seven named escapes close at once; any other character is a `\u` escape or itself
  split <;> simp
  split_ifs <;> simp

/-- Every character is written as at least one byte, so a text has no more characters than its
escaped bytes. -/
theorem length_le_flatMap_escapedBytes (cs : List Char) :
    cs.length ≤ (cs.flatMap escapedBytes).length := by
  induction cs with
  | nil => simp
  | cons c cs ih =>
    have hc : 1 ≤ (escapedBytes c).length := by
      obtain ⟨d, ds, hd⟩ := List.exists_cons_of_ne_nil (escapeChar_ne_nil c)
      rw [escapedBytes, hd, List.flatMap_cons, List.length_append, String.length_utf8EncodeChar]
      have := d.utf8Size_pos
      omega
    simp only [List.length_cons, List.flatMap_cons, List.length_append]
    omega

theorem readStrFrom_chars (cs : List Char) (hat : At b i (cs.flatMap escapedBytes))
    (fuel : Nat) (acc : List UInt8) :
    readStrFrom b (fuel + cs.length) acc i =
      readStrFrom b fuel ((cs.flatMap String.utf8EncodeChar).reverse ++ acc)
        (i + (cs.flatMap escapedBytes).length) := by
  induction cs generalizing i acc with
  | nil => simp
  | cons c cs ih =>
    rw [List.flatMap_cons, at_append] at hat
    rw [List.length_cons, ← Nat.add_assoc, readStrFrom_char c hat.1, ih hat.2]
    simp [Nat.add_assoc]

/-- A quoted text is read back as the text, up to its closing quote. -/
theorem readStr_quote (s : String) (hat : At b i (Utf8.encode (Json.quote s))) :
    readStr b (i + 1) = .ok (s, i + (Utf8.encode (Json.quote s)).length) := by
  rw [encode_quote, at_append, at_cons] at hat
  obtain ⟨⟨-, hchars⟩, hclose⟩ := hat
  have hsize := hclose.le_size
  simp only [List.length_cons, List.length_nil] at hsize
  have hlen := length_le_flatMap_escapedBytes s.toList
  have hq : b[i + 1 + (s.toList.flatMap escapedBytes).length]? = some 34 := by
    have hoff : i + 1 + (s.toList.flatMap escapedBytes).length =
        i + (34 :: s.toList.flatMap escapedBytes).length := by
      simp only [List.length_cons]
      omega
    rw [hoff]
    exact at_singleton.mp hclose
  obtain ⟨k, hk⟩ : ∃ k, b.size + 1 = k + 1 + s.toList.length :=
    ⟨b.size - s.toList.length, by omega⟩
  rw [readStr, hk, readStrFrom_chars s.toList hchars, readStrFrom, hq]
  simp only [List.reverse_append, List.reverse_reverse, List.reverse_nil, List.nil_append,
    ← Utf8.encode_eq_flatMap, Utf8.decode?_encode, encode_quote, List.length_cons,
    List.length_append, List.length_nil]
  congr 2
  omega

end Steps

/-- `read` takes the bytes `t` wherever they stand, giving `v` and the offset after them. -/
def Reads {α : Type} (read : Nat → Res α) (b : Bytes) (t : List UInt8) (v : α) : Prop :=
  ∀ i, At b i t → read i = .ok (v, i + t.length)

theorem Reads.map {α β : Type} {read : Nat → Res α} {t : List UInt8} {v : α}
    (h : Reads read b t v) (f : α → β) :
    Reads (fun i => (read i).map (Prod.map f id)) b t (f v) := by
  intro i hat
  simp only [h i hat]
  rfl

theorem at_quote {s : String} (hat : At b i (Utf8.encode (Json.quote s))) : b[i]? = some 34 := by
  rw [encode_quote, at_append, at_cons] at hat
  exact hat.1.1

/-- A text value, after blanks. -/
theorem readText_quote {ws : List UInt8} (hws : Blanks ws) (s : String) :
    Reads (readText b) b (ws ++ Utf8.encode (Json.quote s)) s := by
  intro i hat
  obtain ⟨hblank, hq⟩ := at_append.mp hat
  have h34 := at_quote hq
  have hskip : skipBlanks b i = i + ws.length :=
    skipBlanks_at (at_append.mpr ⟨hblank, at_singleton.mpr h34⟩) hws rfl
  unfold readText
  simp only [hskip, h34]
  rw [readStr_quote s hq, List.length_append, Nat.add_assoc]

/-! ### Members and items -/

/-- What comes before an item or a member: blanks, after a comma unless it is the first. -/
def lead (first : Bool) (ws : List UInt8) : List UInt8 := if first then ws else 44 :: ws

@[simp] theorem lead_true (ws : List UInt8) : lead true ws = ws := rfl

@[simp] theorem lead_false (ws : List UInt8) : lead false ws = 44 :: ws := rfl

/-- A member of an object: what comes before it, its quoted name, the colon and its value. -/
def memberBytes (first : Bool) (ws : List UInt8) (key : String) (value : List UInt8) : List UInt8 :=
  lead first ws ++ Utf8.encode (Json.quote key) ++ 58 :: value

section Members

variable {α : Type} {s : Shape α} {fuel : Nat} {vs : List (Option Value)}

theorem members_cons {first : Bool} {ws t : List UInt8} {key : String} {n : Nat} {v : Value}
    (hws : Blanks ws) (hn : s.fields.idxOf? key = some n) (hfree : vs.getD n none = none)
    (hv : Reads (s.field n b) b t v)
    (hat : At b i (memberBytes first ws key t)) :
    members b s (fuel + 1) first vs i =
      members b s fuel false (setField vs n v) (i + (memberBytes first ws key t).length) := by
  unfold memberBytes at hat ⊢
  -- the key starts at `j` and the colon stands at `k`
  generalize hj : i + (lead first ws).length = j
  generalize hk : j + (Utf8.encode (Json.quote key)).length = k
  obtain ⟨hpre, hcolon⟩ := at_append.mp hat
  obtain ⟨hlead, hkey⟩ := at_append.mp hpre
  rw [hj] at hkey
  rw [List.length_append, ← Nat.add_assoc, hj, hk, at_cons] at hcolon
  obtain ⟨h58, hval⟩ := hcolon
  have h34 := at_quote hkey
  have hskipKey : skipBlanks b k = k :=
    skipBlanks_of_getElem? h58 rfl
  have hend :
      i + (lead first ws ++ Utf8.encode (Json.quote key) ++ 58 :: t).length = k + 1 + t.length := by
    simp only [List.length_append, List.length_cons]
    omega
  rw [hend]
  cases first with
  | true =>
    rw [lead_true] at hj hlead
    have hskip : skipBlanks b i = j := by
      rw [← hj] at h34 ⊢
      exact skipBlanks_at (at_append.mpr ⟨hlead, at_singleton.mpr h34⟩) hws rfl
    rw [members]
    simp +decide only [hskip, h34, readStr_quote key hkey, hk, hskipKey, h58, hn, hfree,
      hv (k + 1) hval,
      if_true, Option.isSome_none, Bool.false_eq_true, if_false]
  | false =>
    rw [lead_false, at_cons] at hlead
    rw [lead_false, List.length_cons, Nat.add_comm ws.length, ← Nat.add_assoc] at hj
    obtain ⟨h44, hblanks⟩ := hlead
    have hskip : skipBlanks b i = i :=
      skipBlanks_of_getElem? h44 rfl
    have hskipKey' : skipBlanks b (i + 1) = j := by
      rw [← hj] at h34 ⊢
      exact skipBlanks_at (at_append.mpr ⟨hblanks, at_singleton.mpr h34⟩) hws rfl
    rw [members]
    simp +decide only [hskip, h44, hskipKey', h34, readStr_quote key hkey, hk, hskipKey, h58, hn,
      hfree,
      hv (k + 1) hval, if_false, Option.isSome_none, Bool.false_eq_true]

theorem members_end {first : Bool} {ws : List UInt8} (hws : Blanks ws)
    (hat : At b i (ws ++ [125])) :
    members b s (fuel + 1) first vs i = .ok (vs, i + ws.length) := by
  have h125 : b[i + ws.length]? = some 125 := at_singleton.mp (at_append.mp hat).2
  rw [members]
  simp +decide only [skipBlanks_at hat hws rfl, h125]

/-- A record written as an object: its brace after blanks, then members up to the closing brace,
whose values build the record. -/
theorem readRecord_object {ws : List UInt8} {j : Nat} {v : α} (hws : Blanks ws)
    (hat : At b i (ws ++ [123]))
    (hmembers : members b s (b.size + 1) true (s.fields.map fun _ => none) (i + ws.length + 1) =
      .ok (vs, j))
    (hbuild : s.build vs = .ok v) : readRecord b s i = .ok (v, j + 1) := by
  have h123 : b[i + ws.length]? = some 123 := at_singleton.mp (at_append.mp hat).2
  unfold readRecord
  simp only [skipBlanks_at hat hws rfl, h123, hmembers, hbuild]

end Members

section Items

variable {β : Type} {item : Nat → Res β} {fuel : Nat} {acc : List β}

theorem arrayItems_cons {first : Bool} {ws t : List UInt8} {x : UInt8} {v : β} (hws : Blanks ws)
    (hx : isBlank x = false) (h93 : x ≠ 93) (h44 : x ≠ 44) (hitem : Reads item b (x :: t) v)
    (hat : At b i (lead first ws ++ x :: t)) :
    arrayItems b item (fuel + 1) first acc i =
      arrayItems b item fuel false (v :: acc) (i + (lead first ws ++ x :: t).length) := by
  generalize hj : i + (lead first ws).length = j
  obtain ⟨hlead, hval⟩ := at_append.mp hat
  rw [hj] at hval
  have hx' : b[j]? = some x := (at_cons.mp hval).1
  have hend : i + (lead first ws ++ x :: t).length = j + (x :: t).length := by
    simp only [List.length_append]
    omega
  rw [hend, arrayItems, nextItem]
  cases first with
  | true =>
    rw [lead_true] at hj hlead
    have hskip : skipBlanks b i = j := by
      rw [← hj] at hx' ⊢
      exact skipBlanks_at (at_append.mpr ⟨hlead, at_singleton.mpr hx'⟩) hws hx
    simp only [hskip, hx', if_true, hitem j hval]
  | false =>
    rw [lead_false, at_cons] at hlead
    rw [lead_false, List.length_cons, Nat.add_comm ws.length, ← Nat.add_assoc] at hj
    obtain ⟨h44', hblanks⟩ := hlead
    have hskip : skipBlanks b i = i :=
      skipBlanks_of_getElem? h44' rfl
    have hskip' : skipBlanks b (i + 1) = j := by
      rw [← hj] at hx' ⊢
      exact skipBlanks_at (at_append.mpr ⟨hblanks, at_singleton.mpr hx'⟩) hws hx
    simp +decide only [hskip, h44', hskip', if_false]
    simp only [hx', hitem j hval]

theorem arrayItems_end {first : Bool} {ws : List UInt8} (hws : Blanks ws)
    (hat : At b i (ws ++ [93])) :
    arrayItems b item (fuel + 1) first acc i = .ok (acc.reverse, i + ws.length) := by
  have h93 : b[i + ws.length]? = some 93 := at_singleton.mp (at_append.mp hat).2
  rw [arrayItems, nextItem]
  simp +decide only [skipBlanks_at hat hws rfl, h93]

theorem endArray_at {ws : List UInt8} (hws : Blanks ws) (hat : At b i (ws ++ [93])) :
    endArray b i = .ok (i + ws.length + 1) := by
  have h93 : b[i + ws.length]? = some 93 := at_singleton.mp (at_append.mp hat).2
  unfold endArray
  simp +decide only [skipBlanks_at hat hws rfl, h93]

/-- A list written as an array: its bracket after blanks, then items up to the closing bracket. -/
theorem readList_array {ws : List UInt8} {xs : List β} {j k : Nat} (hws : Blanks ws)
    (hat : At b i (ws ++ [91]))
    (hitems : arrayItems b item (b.size + 1) true [] (i + ws.length + 1) = .ok (xs, j))
    (hend : endArray b j = .ok k) : readList b item i = .ok (xs, k) := by
  have h91 : b[i + ws.length]? = some 91 := at_singleton.mp (at_append.mp hat).2
  unfold readList
  simp only [skipBlanks_at hat hws rfl, h91, hitems, hend]

end Items

/-! ### Reports in the pretty form -/

/-- The printer's fixed tokens. -/
@[simp] theorem encode_tokens :
    Utf8.encode "\x7b\n" = [123, 10] ∧ Utf8.encode "[\n" = [91, 10] ∧
      Utf8.encode "[]" = [91, 93] ∧
      Utf8.encode ",\n" = [44, 10] ∧ Utf8.encode ": " = [58, 32] ∧ Utf8.encode "]" = [93] ∧
      Utf8.encode "\x7d" = [125] ∧ Utf8.encode "\n" = [10] := by
  simp only [Utf8.encode_eq_flatMap]
  decide

/-- A line break and the indentation of a level. -/
def newline (level : Nat) : List UInt8 := 10 :: List.replicate (2 * level) 32

theorem encode_newline (level : Nat) : Utf8.encode ("\n" ++ Json.indent level) = newline level := by
  simp only [Utf8.encode_append, encode_tokens, Json.indent, Utf8.encode_ofList, newline,
    List.singleton_append, List.cons.injEq, true_and]
  generalize 2 * level = n
  induction n with
  | zero => rfl
  | succ n ih => rw [List.replicate_succ, List.flatMap_cons, ih]; rfl

theorem encode_indent (level : Nat) :
    Utf8.encode (Json.indent level) = List.replicate (2 * level) 32 := by
  have h := encode_newline level
  rw [Utf8.encode_append, encode_tokens.2.2.2.2.2.2.2, newline, List.singleton_append,
    List.cons.injEq] at h
  exact h.2

theorem blanks_newline (level : Nat) : Blanks (newline level) := by
  intro w hw
  simp only [newline, List.mem_cons, List.mem_replicate] at hw
  rcases hw with rfl | ⟨-, rfl⟩ <;> rfl

theorem lead_newline (first : Bool) (level : Nat) :
    lead first [10] ++ Utf8.encode (Json.indent level) = lead first (newline level) := by
  cases first <;> simp [newline, encode_indent]

theorem encode_prettyAt_candidate (level : Nat) (c : Candidate) :
    Utf8.encode (Json.prettyAt level c.toJson) =
      123 :: (memberBytes true (newline (level + 1)) "field"
          ([32] ++ Utf8.encode (Json.quote c.field)) ++
        memberBytes false (newline (level + 1)) "def_method"
          ([32] ++ Utf8.encode (Json.quote c.defMethod)) ++
        memberBytes false (newline (level + 1)) "use_method"
          ([32] ++ Utf8.encode (Json.quote c.useMethod)) ++
        newline level ++ [125]) := by
  simp [Candidate.toJson, Json.obj, Json.prettyAt, Json.prettyMembers, Json.str, memberBytes,
    newline,
    encode_indent]

/-- The items of a pretty array of candidates one level in, from the line break after the
bracket (or the comma after the item before): each item on a line of its own. -/
def itemsBytes (first : Bool) (level : Nat) (cs : List Candidate) : List UInt8 :=
  lead first [10] ++ Utf8.encode (Json.prettyItems (level + 1) (cs.map Candidate.toJson))

theorem encode_prettyAt_candidates (level : Nat) (c : Candidate) (cs : List Candidate) :
    Utf8.encode (Json.prettyAt level (.array ((c :: cs).map Candidate.toJson))) =
      91 :: (itemsBytes true level (c :: cs) ++ newline level ++ [93]) := by
  simp [itemsBytes, Json.prettyAt, newline, encode_indent]

theorem encode_prettyAt_covered (level : Nat) (cs : List Candidate) :
    Utf8.encode (Json.prettyAt level (Json.obj [("covered", .array (cs.map Candidate.toJson))])) =
      123 :: (memberBytes true (newline (level + 1)) "covered"
        ([32] ++ Utf8.encode (Json.prettyAt (level + 1) (.array (cs.map Candidate.toJson)))) ++
        newline level ++ [125]) := by
  rw [Json.obj, List.map_cons, List.map_nil, Json.prettyAt.eq_10 _ _ (by simp),
    Json.prettyMembers.eq_2]
  simp only [Utf8.encode_append, encode_tokens, memberBytes, newline, encode_indent,
    Option.getD_some,
    lead_true, List.append_assoc, List.cons_append, List.nil_append]

/-- A text member's value, after the space. -/
theorem reads_textField {α : Type} {s : Shape α} (n : Nat) (text : String)
    (hfield : s.field n b = fun i => (readText b i).map (Prod.map Value.text id)) :
    Reads (s.field n b) b ([32] ++ Utf8.encode (Json.quote text)) (.text text) := by
  rw [hfield]
  exact (readText_quote blanks_space text).map Value.text

/-- The three names set in order build the candidate. -/
theorem candidateShape_build (f d u : String) :
    candidateShape.build (setField (setField (setField (candidateShape.fields.map fun _ => none)
      0 (.text f)) 1 (.text d)) 2 (.text u)) = .ok ⟨f, d, u⟩ := rfl

/-- A candidate is read back from its pretty form, after blanks. -/
theorem readRecord_candidate {ws : List UInt8} (hws : Blanks ws) (level : Nat) (c : Candidate) :
    Reads (readRecord b candidateShape) b (ws ++ Utf8.encode (Json.prettyAt level c.toJson)) c := by
  intro i hat
  have hsize := hat.le_size
  simp [encode_prettyAt_candidate, memberBytes] at hsize
  rw [encode_prettyAt_candidate] at hat ⊢
  generalize hm₁ : memberBytes true (newline (level + 1)) "field"
    ([32] ++ Utf8.encode (Json.quote c.field)) = m₁ at hat ⊢
  generalize hm₂ : memberBytes false (newline (level + 1)) "def_method"
    ([32] ++ Utf8.encode (Json.quote c.defMethod)) = m₂ at hat ⊢
  generalize hm₃ : memberBytes false (newline (level + 1)) "use_method"
    ([32] ++ Utf8.encode (Json.quote c.useMethod)) = m₃ at hat ⊢
  simp only [List.append_assoc, at_append, at_cons] at hat
  obtain ⟨hblank, h123, h₁, h₂, h₃, hnl, h125, -⟩ := hat
  obtain ⟨k, hk⟩ : ∃ k, b.size + 1 = k + 1 + 1 + 1 + 1 := ⟨b.size - 3, by omega⟩
  rw [← hm₁] at h₁
  rw [← hm₂] at h₂
  rw [← hm₃] at h₃
  -- the three members in order, each a text after its name, then the closing brace
  refine (readRecord_object (j := i + ws.length + 1 + m₁.length + m₂.length + m₃.length +
    (newline level).length) hws (at_append.mpr ⟨hblank, at_singleton.mpr h123⟩) ?_
    (candidateShape_build c.field c.defMethod c.useMethod)).trans ?_
  · rw [hk,
      members_cons (blanks_newline _) (by decide) rfl (reads_textField 0 c.field rfl) h₁, hm₁,
      members_cons (blanks_newline _) (by decide) rfl (reads_textField 1 c.defMethod rfl) h₂,
      hm₂,
      members_cons (blanks_newline _) (by decide) rfl (reads_textField 2 c.useMethod rfl) h₃,
      hm₃,
      members_end (blanks_newline _) (at_append.mpr ⟨hnl, at_singleton.mpr h125⟩)]
  · simp only [List.length_append, List.length_cons, List.length_nil, Except.ok.injEq,
      Prod.mk.injEq, true_and]
    omega

/-- A candidate as an item: its pretty form, which starts with a brace, read back. -/
theorem reads_candidate_item (level : Nat) (c : Candidate) :
    ∃ t, Utf8.encode (Json.prettyAt level c.toJson) = 123 :: t ∧
      Reads (readRecord b candidateShape) b (123 :: t) c := by
  refine ⟨_, encode_prettyAt_candidate level c, ?_⟩
  have h := readRecord_candidate (b := b) blanks_nil level c
  rwa [List.nil_append, encode_prettyAt_candidate] at h

/-- The items of a pretty array of candidates are read back in order, up to the line of its
closing bracket. The induction is on the items after the first; the fuel outlasts the bytes. -/
theorem arrayItems_candidates (level : Nat) (c : Candidate) (cs : List Candidate) :
    ∀ (first : Bool) (acc : List Candidate) (i fuel : Nat),
      (itemsBytes first level (c :: cs)).length < fuel →
      At b i (itemsBytes first level (c :: cs) ++ newline level ++ [93]) →
      arrayItems b (readRecord b candidateShape) fuel first acc i =
        .ok (acc.reverse ++ c :: cs,
          i + (itemsBytes first level (c :: cs)).length + (newline level).length) := by
  induction cs generalizing c with
  | nil =>
    intro first acc i fuel hfuel hat
    obtain ⟨t, ht, hread⟩ := reads_candidate_item (b := b) (level + 1) c
    simp only [itemsBytes, List.map_cons, List.map_nil, Json.prettyItems, Utf8.encode_append,
      ← List.append_assoc, lead_newline, ht] at hfuel hat ⊢
    obtain ⟨f, rfl⟩ : ∃ f, fuel = f + 1 + 1 := ⟨fuel - 2, by simp at hfuel; omega⟩
    obtain ⟨hitem, hend⟩ := at_append.mp (List.append_assoc _ _ _ ▸ hat)
    rw [arrayItems_cons (blanks_newline _) rfl (by decide) (by decide) hread hitem,
      arrayItems_end (blanks_newline _) hend]
    simp
  | cons w cs ih =>
    intro first acc i fuel hfuel hat
    obtain ⟨t, ht, hread⟩ := reads_candidate_item (b := b) (level + 1) c
    have hrest : itemsBytes false level (w :: cs) =
        lead false [10] ++
          Utf8.encode (Json.prettyItems (level + 1) ((w :: cs).map Candidate.toJson)) := rfl
    -- the first item, then a comma before the items after it
    simp only [itemsBytes, List.map_cons, Json.prettyItems, Utf8.encode_append,
      ← List.append_assoc, lead_newline, ht, encode_tokens] at hfuel hat ⊢
    rw [← List.map_cons, show [44, 10] = lead false [10] from rfl,
      List.append_assoc _ (lead false [10]), ← hrest] at hfuel hat ⊢
    generalize hr : itemsBytes false level (w :: cs) = rest at hfuel hat ⊢
    obtain ⟨f, rfl⟩ : ∃ f, fuel = f + 1 := ⟨fuel - 1, by simp at hfuel; omega⟩
    obtain ⟨hitem, hnext⟩ := at_append.mp
      (show At b i ((lead first (newline (level + 1)) ++ 123 :: t) ++
          (rest ++ newline level ++ [93])) by simpa only [List.append_assoc] using hat)
    rw [arrayItems_cons (blanks_newline _) rfl (by decide) (by decide) hread hitem,
      ih w false (c :: acc) _ f
        (by simp only [List.length_append, List.length_cons, ← hr] at hfuel ⊢; omega)
        (by rw [hr]; exact hnext), hr]
    simp only [List.reverse_cons, List.append_assoc, List.singleton_append, List.length_append,
      List.length_cons, Except.ok.injEq, Prod.mk.injEq, true_and]
    omega

/-- A list of candidates is read back from its pretty form, after blanks. -/
theorem readList_candidates {ws : List UInt8} (hws : Blanks ws) (level : Nat)
    (cs : List Candidate) :
    Reads (readList b (readRecord b candidateShape)) b
      (ws ++ Utf8.encode (Json.prettyAt level (.array (cs.map Candidate.toJson)))) cs := by
  intro i hat
  obtain ⟨hblank, harr⟩ := at_append.mp hat
  cases cs with
  | nil =>
    simp only [List.map_nil, Json.prettyAt, encode_tokens, at_cons] at harr
    obtain ⟨h91, h93, -⟩ := harr
    have hend : At b (i + ws.length + 1) ([] ++ [93]) := at_singleton.mpr h93
    rw [readList_array hws (at_append.mpr ⟨hblank, at_singleton.mpr h91⟩)
      (arrayItems_end blanks_nil hend) (endArray_at blanks_nil hend)]
    simp only [List.map_nil, Json.prettyAt, encode_tokens, List.length_append, List.length_cons,
      List.length_nil, List.reverse_nil, Except.ok.injEq, Prod.mk.injEq, true_and]
    omega
  | cons c cs =>
    rw [encode_prettyAt_candidates, at_cons] at harr
    obtain ⟨h91, hitems⟩ := harr
    have hsize := hitems.le_size
    obtain ⟨hbody, hend⟩ := at_append.mp (List.append_assoc _ _ _ ▸ hitems)
    have hclose : At b _ ([] ++ [93]) := (at_append.mp hend).2
    rw [readList_array hws (at_append.mpr ⟨hblank, at_singleton.mpr h91⟩)
      (arrayItems_candidates level c cs true [] _ _
        (by simp only [List.length_append] at hsize ⊢; omega) hitems)
      (endArray_at blanks_nil hclose)]
    simp only [List.reverse_nil, List.nil_append, List.length_nil, encode_prettyAt_candidates,
      List.length_append, List.length_cons, Except.ok.injEq, Prod.mk.injEq, true_and]
    omega

/-- The covered candidates set alone build a report with nothing observed. -/
theorem reportShape_build (cs : List Candidate) :
    reportShape.build (setField (reportShape.fields.map fun _ => none) 0 (.candidates cs)) =
      .ok ⟨cs, []⟩ := rfl

/-- A report of covered candidates is read back from its pretty form, after blanks, with no
observed entities. -/
theorem readRecord_covered {ws : List UInt8} (hws : Blanks ws) (level : Nat)
    (cs : List Candidate) :
    Reads (readRecord b reportShape) b
      (ws ++ Utf8.encode
        (Json.prettyAt level (Json.obj [("covered", .array (cs.map Candidate.toJson))])))
      ⟨cs, []⟩ := by
  intro i hat
  have hsize := hat.le_size
  simp [encode_prettyAt_covered, memberBytes] at hsize
  rw [encode_prettyAt_covered] at hat ⊢
  generalize hm : memberBytes true (newline (level + 1)) "covered"
    ([32] ++ Utf8.encode (Json.prettyAt (level + 1) (.array (cs.map Candidate.toJson)))) = m
    at hat ⊢
  simp only [List.append_assoc, at_append, at_cons] at hat
  obtain ⟨hblank, h123, hmember, hnl, h125, -⟩ := hat
  have hcovered : Reads (reportShape.field 0 b) b
      ([32] ++ Utf8.encode (Json.prettyAt (level + 1) (.array (cs.map Candidate.toJson))))
      (.candidates cs) :=
    (readList_candidates blanks_space (level + 1) cs).map Value.candidates
  obtain ⟨k, hk⟩ : ∃ k, b.size + 1 = k + 1 + 1 := ⟨b.size - 1, by omega⟩
  rw [← hm] at hmember
  -- the one member, the list after its name, then the closing brace
  refine (readRecord_object (j := i + ws.length + 1 + m.length + (newline level).length) hws
    (at_append.mpr ⟨hblank, at_singleton.mpr h123⟩) ?_ (reportShape_build cs)).trans ?_
  · rw [hk, members_cons (blanks_newline _) (by decide) rfl hcovered hmember, hm,
      members_end (blanks_newline _) (at_append.mpr ⟨hnl, at_singleton.mpr h125⟩)]
  · simp only [List.length_append, List.length_cons, List.length_nil, Except.ok.injEq,
      Prod.mk.injEq, true_and]
    omega

/-- The pretty form of a report of covered candidates, with JSON whitespace around it, reads as
the report of those candidates. -/
theorem read_covered (cs : List Candidate) {pre post : List UInt8} (hpre : Blanks pre)
    (hpost : Blanks post) :
    read (pre ++
        Utf8.encode (Json.pretty (Json.obj [("covered", .array (cs.map Candidate.toJson))])) ++
      post) = .ok ⟨cs, []⟩ := by
  unfold Json.pretty
  generalize htext :
    Utf8.encode (Json.prettyAt 0 (Json.obj [("covered", .array (cs.map Candidate.toJson))])) = text
  -- the brace that opens the report is no blank, so the output is not taken for an empty report
  have hbrace :
      ¬ (pre ++ text ++ post).all (fun c => Blank.isAsciiSpace (Char.ofNat c.toNat)) = true := by
    rw [List.all_eq_true]
    intro h
    have := h 123 (by simp [← htext, encode_prettyAt_covered])
    revert this
    decide
  have hat : At (pre ++ text ++ post).toArray 0 (pre ++ text) := ⟨[], post, by simp, rfl⟩
  have hrest : At (pre ++ text ++ post).toArray (0 + (pre ++ text).length) post :=
    ⟨pre ++ text, [], by simp, by simp⟩
  have hread := readRecord_covered hpre 0 cs 0 (htext ▸ hat)
  rw [htext] at hread
  unfold read
  rw [if_neg hbrace]
  simp only [hread, skipBlanks_end hrest hpost (by simp [Nat.add_assoc]), Nat.lt_irrefl, if_false]

end DefUseCoverage.ReportReader

namespace DefUseCoverage

theorem Candidate.plain_toJson (c : Candidate) : Json.Plain c.toJson := by
  refine Json.plain_obj fun m hm => ?_
  simp only [List.mem_cons, List.not_mem_nil, or_false] at hm
  rcases hm with rfl | rfl | rfl <;> exact Json.plain_str _

/-- The batch document holds text names and values only. -/
theorem plain_batchJson (rs : List PutRecord) : Json.Plain (batchJson rs) := by
  refine Json.plain_obj fun m hm => ?_
  rw [List.mem_singleton] at hm
  subst hm
  refine .array fun v hv => ?_
  obtain ⟨r, -, rfl⟩ := List.mem_map.mp hv
  refine Json.plain_obj fun m hm => ?_
  simp only [List.mem_cons, List.not_mem_nil, or_false] at hm
  rcases hm with rfl | rfl | rfl
  · exact Json.plain_str _
  · exact Json.plain_str _
  · exact r.pair.toCandidate.plain_toJson

/-- A batch and the report of its targets agree. The batch document parses back as its puts in
order, each with its declaring type, its body and its target, the three names of its pair; and
the report listing those targets as covered, in the pretty form with any JSON whitespace around
it, reads as the puts' candidates in order, with nothing observed. -/
theorem batch_report_roundtrip (rs : List PutRecord) :
    let target (r : PutRecord) : Json := Json.obj [("field", .str r.pair.toCandidate.field),
      ("def_method", .str r.pair.toCandidate.defMethod),
      ("use_method", .str r.pair.toCandidate.useMethod)]
    Json.parse? (Utf8.encode (encodeBatch rs)) =
        some (Json.obj [("puts", .array (rs.map fun r => Json.obj [("declaring_type", .str r.declaringType),
          ("body", .str r.body), ("target", target r)]))]) ∧
      ∀ pre post : List UInt8, (∀ x ∈ pre, x = 32 ∨ x = 9 ∨ x = 10 ∨ x = 13) →
        (∀ x ∈ post, x = 32 ∨ x = 9 ∨ x = 10 ∨ x = 13) →
        ReportReader.read (pre ++ Utf8.encode (Json.pretty (Json.obj [("covered", .array (rs.map target))])) ++
          post) = .ok ⟨rs.map (·.pair.toCandidate), []⟩ := by
  intro target
  refine ⟨Json.parse?_pretty (plain_batchJson rs), fun pre post hpre hpost => ?_⟩
  have htargets : rs.map target = (rs.map (·.pair.toCandidate)).map Candidate.toJson := by
    simp only [List.map_map]
    rfl
  rw [htargets]
  exact ReportReader.read_covered _ (ReportReader.blanks_of_whitespace hpre)
    (ReportReader.blanks_of_whitespace hpost)

theorem two_puts_report_reads_back :
    let rs : List PutRecord := [⟨"T", "put(\"a\\b\")\n", ⟨"T", "T.caf\u00e9", "T.Set", "T.Get"⟩⟩,
      ⟨"U", "\x01", ⟨"U", "U.F", "U.Set", "U.Get"⟩⟩]
    (∀ x ∈ ([32, 10] : List UInt8), x = 32 ∨ x = 9 ∨ x = 10 ∨ x = 13) ∧
      (∀ x ∈ ([13, 10] : List UInt8), x = 32 ∨ x = 9 ∨ x = 10 ∨ x = 13) ∧
      ReportReader.read ([32, 10] ++ Utf8.encode (Json.pretty (Json.obj [("covered", .array (rs.map fun r =>
        Json.obj [("field", .str r.pair.toCandidate.field), ("def_method", .str r.pair.toCandidate.defMethod),
          ("use_method", .str r.pair.toCandidate.useMethod)]))])) ++ [13, 10]) =
        .ok ⟨[⟨"T.caf\u00e9", "T.Set", "T.Get"⟩, ⟨"U.F", "U.Set", "U.Get"⟩], []⟩ := by
  intro rs
  have hpre : ∀ x ∈ ([32, 10] : List UInt8), x = 32 ∨ x = 9 ∨ x = 10 ∨ x = 13 := by simp
  have hpost : ∀ x ∈ ([13, 10] : List UInt8), x = 32 ∨ x = 9 ∨ x = 10 ∨ x = 13 := by simp
  exact ⟨hpre, hpost, (batch_report_roundtrip rs).2 [32, 10] [13, 10] hpre hpost⟩

end DefUseCoverage
