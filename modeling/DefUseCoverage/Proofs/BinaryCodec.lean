import Mathlib
import DefUseCoverage.Coverage.Persist
/-! # The binary form of a snapshot reads back

  Text is written as its UTF-8 bytes, and reading them back gives the text (`Utf8.decode?_encode`).

  A reader reads back what a writer writes when, on the writer's bytes followed by any bytes,
  it returns the value and the bytes that follow (`Binary.Reads`). Every length in the binary
  form is a 64-bit number, so this holds only while the bytes are fewer than `2 ^ 64`; every
  length is at most the number of bytes it stands in.

  - A 64-bit length, a string, a boolean byte read back (`readU64_u64`, `reads_str`,
    `reads_bool`); a list of items read back when its items do and none is empty (`reads_list`).
  - A snapshot whose binary form, followed by any bytes, is shorter than `2 ^ 64` bytes is read
    back from it, and the bytes after it are left (`decode?_encode_append`).

  Conversely a reader takes only what the writer writes (`Binary.Exact`): eight bytes are the
  64-bit form of the length they give, bytes that read as text are the text's bytes, and a
  boolean byte is 0 or 1. So a snapshot read from the front of some bytes is written there
  (`encode_prefix_of_decode?`).
-/

namespace DefUseCoverage

/-! ### Text as UTF-8 bytes -/

namespace Utf8

theorem toList_loop (bs : ByteArray) (i : Nat) (r : List UInt8) :
    ByteArray.toList.loop bs i r = r.reverse ++ bs.data.toList.drop i := by
  fun_induction ByteArray.toList.loop bs i r with
  | case1 i r h ih =>
    have hi : i < bs.data.toList.length := by simpa using h
    rw [ih, List.drop_eq_getElem_cons hi]
    simp [ByteArray.get!, h]
  | case2 i r h =>
    have hi : bs.data.toList.length ≤ i := by simpa using h
    simp [List.drop_eq_nil_of_le hi]

/-- The bytes of a text are its characters' bytes. -/
theorem encode_ofList (cs : List Char) :
    encode (String.ofList cs) = cs.flatMap String.utf8EncodeChar := by
  simp [encode, ByteArray.toList, toList_loop, List.utf8Encode]

theorem encode_eq_flatMap (s : String) : encode s = s.toList.flatMap String.utf8EncodeChar := by
  conv_lhs => rw [← String.ofList_toList (s := s)]
  exact encode_ofList _

@[simp] theorem encode_append (a b : String) : encode (a ++ b) = encode a ++ encode b := by
  simp [encode, ByteArray.toList, toList_loop]

/-- The bytes of a text read back as the text. -/
@[simp] theorem decode?_encode (s : String) : decode? (encode s) = some s := by
  simp only [decode?, encode, String.fromUTF8?, ByteArray.toList, toList_loop,
    String.toUTF8_eq_toByteArray, List.reverse_nil, List.nil_append, List.drop_zero,
    Array.toArray_toList]
  exact dif_pos s.isValidUTF8

/-- Bytes that read as text are the text's bytes. -/
theorem encode_of_decode? {bs : List UInt8} {s : String} (h : decode? bs = some s) :
    encode s = bs := by
  unfold decode? String.fromUTF8? at h
  split at h
  · obtain rfl := Option.some.inj h
    simp [encode, String.fromUTF8, ByteArray.toList, toList_loop]
  · cases h

end Utf8

namespace Coverage.Binary

/-- A reader reads back what a writer writes, followed by any bytes, while the whole is shorter
than `2 ^ 64` bytes. -/
def Reads {α : Type} (item : Reader α) (f : α → List UInt8) : Prop :=
  ∀ x r, (f x ++ r).length < 2 ^ 64 → item (f x ++ r) = some (x, r)

@[simp] theorem length_u64 (n : Nat) : (u64 n).length = 8 := rfl

/-- The `m` bytes of `n` from byte `k` on, least significant first, give back those bytes of
`n`. -/
theorem foldr_digits (n k m : Nat) :
    ((List.range' k m).map fun j => (n / Nat.pow 2 (8 * j)).toUInt8).foldr
      (fun b acc => acc * 256 + b.toNat) 0 = n / 2 ^ (8 * k) % 2 ^ (8 * m) := by
  induction m generalizing k with
  | zero => simp [Nat.mod_one]
  | succ m ih =>
    -- byte `k`, then the bytes above it: the number's digits in base `2 ^ 8`
    have hshift : n / 2 ^ (8 * (k + 1)) = n / 2 ^ (8 * k) / 2 ^ 8 := by
      rw [Nat.div_div_eq_div_mul, ← pow_add, Nat.mul_succ]
    have hlow : (n / Nat.pow 2 (8 * k)).toUInt8.toNat = n / 2 ^ (8 * k) % 2 ^ 8 := by
      simp [Nat.toUInt8]
    rw [List.range'_succ, List.map_cons, List.foldr_cons, ih, hlow, hshift,
      show 8 * (m + 1) = 8 + 8 * m by ring, pow_add, Nat.mod_mul]
    ring

/-- The eight bytes of a length below `2 ^ 64` give it back, least significant first. -/
theorem foldr_u64 {n : Nat} (h : n < 2 ^ 64) :
    (u64 n).foldr (fun b acc => acc * 256 + b.toNat) 0 = n := by
  rw [u64, List.range_eq_range', foldr_digits, pow_zero, Nat.div_one]
  exact Nat.mod_eq_of_lt h


theorem readU64_u64 {n : Nat} (h : n < 2 ^ 64) (r : List UInt8) :
    readU64 (u64 n ++ r) = some (n, r) := by
  have htake : (u64 n ++ r).take 8 = u64 n := List.take_left' (length_u64 n)
  have hdrop : (u64 n ++ r).drop 8 = r := List.drop_left' (length_u64 n)
  simp only [readU64, List.length_append, length_u64, htake, hdrop, foldr_u64 h]
  rw [if_neg (by omega)]

theorem reads_str : Reads readStr str := by
  intro s r hlen
  set bs := Utf8.encode s
  have hstr : str s ++ r = u64 bs.length ++ (bs ++ r) := by simp [str, bs]
  have hfit : bs.length < 2 ^ 64 := by
    rw [hstr] at hlen
    simp only [List.length_append, length_u64] at hlen
    omega
  rw [hstr]
  simp only [readStr, readU64_u64 hfit, Option.bind_eq_bind, Option.bind_some]
  rw [if_neg (by simp), List.take_left, List.drop_left, Utf8.decode?_encode]
  rfl

theorem reads_bool : Reads readBool fun b => [if b then 1 else 0] := by
  intro b r _
  cases b <;> rfl

/-- `n` items read back from the bytes of `n` items. -/
theorem readN_flatMap {α : Type} {item : Reader α} {f : α → List UInt8} (hitem : Reads item f) :
    ∀ (xs : List α) (r : List UInt8), (xs.flatMap f ++ r).length < 2 ^ 64 →
      readN item xs.length (xs.flatMap f ++ r) = some (xs, r)
  | [], r, _ => rfl
  | x :: xs, r, hlen => by
    have hrest : (xs.flatMap f ++ r).length < 2 ^ 64 := by
      simp only [List.flatMap_cons, List.append_assoc, List.length_append] at hlen ⊢
      omega
    have hx : item (f x ++ (xs.flatMap f ++ r)) = some (x, xs.flatMap f ++ r) :=
      hitem x _ (by simpa only [List.flatMap_cons, List.append_assoc] using hlen)
    simp only [List.flatMap_cons, List.append_assoc, List.length_cons, readN, hx,
      Option.bind_eq_bind, Option.bind_some, readN_flatMap hitem xs r hrest]
    rfl

/-- There are no more items than bytes when no item is written as nothing. -/
theorem length_le_length_flatMap {α : Type} {f : α → List UInt8} (hne : ∀ x, f x ≠ []) :
    ∀ xs : List α, xs.length ≤ (xs.flatMap f).length
  | [] => le_rfl
  | x :: xs => by
    have hx : 0 < (f x).length := List.length_pos_iff.mpr (hne x)
    have := length_le_length_flatMap hne xs
    simp only [List.length_cons, List.flatMap_cons, List.length_append]
    omega

theorem reads_list {α : Type} {item : Reader α} {f : α → List UInt8} (hitem : Reads item f)
    (hne : ∀ x, f x ≠ []) : Reads (readList item) (list f) := by
  intro xs r hlen
  have hcount := length_le_length_flatMap hne xs
  have hbody : (xs.flatMap f ++ r).length < 2 ^ 64 := by
    simp only [list, List.append_assoc, List.length_append, length_u64] at hlen ⊢
    omega
  have hfit : xs.length < 2 ^ 64 := by
    simp only [List.length_append] at hbody
    omega
  simp only [list, List.append_assoc, readList, readU64_u64 hfit, Option.bind_eq_bind,
    Option.bind_some]
  rw [if_neg (by simp only [List.length_append]; omega)]
  exact readN_flatMap hitem xs r hbody

theorem str_ne_nil (s : String) : str s ≠ [] := List.ne_nil_of_length_pos (by simp [str])

theorem reads_pairEntry : Reads readPair pairEntry := by
  intro p r hlen
  -- each field is read from a suffix of the whole
  have hf := reads_str p.field (str p.defMethod ++ str p.useMethod ++
    [if p.covered then 1 else 0] ++ r) (by simpa [pairEntry] using hlen)
  have hd := reads_str p.defMethod (str p.useMethod ++ [if p.covered then 1 else 0] ++ r)
    (by simp only [pairEntry, List.length_append] at hlen ⊢; omega)
  have hu := reads_str p.useMethod ([if p.covered then 1 else 0] ++ r)
    (by simp only [pairEntry, List.length_append] at hlen ⊢; omega)
  have hc := reads_bool p.covered r (by simp only [pairEntry, List.length_append] at hlen ⊢; omega)
  simp only [pairEntry, List.append_assoc] at hf hd hu ⊢
  simp only [readPair, hf, hd, hu, hc, Option.bind_eq_bind, Option.bind_some]
  rfl

theorem reads_typeEntry : Reads readType typeEntry := by
  intro t r hlen
  have hpairs : Reads (readList readPair) (list pairEntry) :=
    reads_list reads_pairEntry fun p => List.ne_nil_of_length_pos (by simp [pairEntry, str])
  have hputs : Reads (readList readStr) (list str) := reads_list reads_str str_ne_nil
  have ht := reads_str t.declaringType (list pairEntry t.pairs ++ list str t.puts ++ r)
    (by simpa [typeEntry] using hlen)
  have hp := hpairs t.pairs (list str t.puts ++ r)
    (by simp only [typeEntry, List.length_append] at hlen ⊢; omega)
  have hb := hputs t.puts r (by simp only [typeEntry, List.length_append] at hlen ⊢; omega)
  simp only [typeEntry, List.append_assoc] at ht hp hb ⊢
  simp only [readType, ht, hp, hb, Option.bind_eq_bind, Option.bind_some]
  rfl

/-- A snapshot reads back from its binary form followed by any bytes, while the whole is
shorter than `2 ^ 64` bytes. -/
theorem decode?_encode_append (s : Snapshot) (t : List UInt8)
    (h : (encode s ++ t).length < 2 ^ 64) : decode? (encode s ++ t) = some s := by
  have hlist := reads_list reads_typeEntry
    (fun t => List.ne_nil_of_length_pos (by simp [typeEntry, str])) s.types t h
  simp only [decode?, encode, hlist, Option.map_some]

/-- **The binary form of a snapshot reads back.** A snapshot whose binary form is shorter than
`2 ^ 64` bytes is read back from it. -/
theorem decode?_encode (s : Snapshot) (h : (encode s).length < 2 ^ 64) :
    decode? (encode s) = some s := by
  simpa using decode?_encode_append s [] (by simpa using h)

/-! ### Reading takes only the written form -/

/-- A reader takes only what a writer writes: bytes it reads a value from are the value's
written form followed by the bytes it leaves. -/
def Exact {α : Type} (item : Reader α) (f : α → List UInt8) : Prop :=
  ∀ bs x r, item bs = some (x, r) → bs = f x ++ r

/-- The bytes of the number some bytes give, least significant first, are those bytes. -/
theorem map_range_foldr : ∀ l : List UInt8,
    (List.range l.length).map (fun k =>
      (l.foldr (fun b acc => acc * 256 + b.toNat) 0 / Nat.pow 2 (8 * k)).toUInt8) = l
  | [] => rfl
  | b :: l => by
    rw [List.length_cons, List.range_succ_eq_map, List.map_cons, List.map_map]
    congr 1
    · -- the lowest byte is the first
      apply UInt8.toNat_inj.mp
      simp [Nat.toUInt8]
    · -- above it, the number of the other bytes
      conv_rhs => rw [← map_range_foldr l]
      refine List.map_congr_left fun k _ => ?_
      simp only [Function.comp, List.foldr_cons, Nat.pow_eq]
      congr 1
      rw [show 8 * (k + 1) = 8 + 8 * k by ring, Nat.pow_add, ← Nat.div_div_eq_div_mul]
      congr 1
      have := b.toNat_lt
      omega

/-- Eight bytes are the 64-bit form of the length they give. -/
theorem u64_foldr {l : List UInt8} (h : l.length = 8) :
    u64 (l.foldr (fun b acc => acc * 256 + b.toNat) 0) = l := by
  conv_rhs => rw [← map_range_foldr l]
  rw [h]
  rfl

theorem exact_readU64 : Exact readU64 u64 := by
  intro bs n r h
  unfold readU64 at h
  split at h
  · cases h
  · next hlen =>
    obtain ⟨rfl, rfl⟩ := Prod.mk.inj (Option.some.inj h)
    rw [u64_foldr (by simp; omega), List.take_append_drop]

theorem exact_str : Exact readStr str := by
  intro bs s r h
  simp only [readStr, Option.bind_eq_bind, Option.bind_eq_some_iff, Prod.exists] at h
  obtain ⟨n, r₀, hn, hrest⟩ := h
  split at hrest
  · cases hrest
  · next hlen =>
    obtain ⟨s', hs', hsr⟩ := Option.bind_eq_some_iff.mp hrest
    obtain ⟨rfl, rfl⟩ := Prod.mk.inj (Option.some.inj hsr)
    -- the text's bytes are the `n` bytes after the length
    have hbytes := Utf8.encode_of_decode? hs'
    have hcount : (Utf8.encode s').length = n := by rw [hbytes]; simp; omega
    rw [exact_readU64 bs n r₀ hn, str, hcount, hbytes, List.append_assoc, List.take_append_drop]

theorem exact_bool : Exact readBool fun b => [if b then 1 else 0] := by
  intro bs b r h
  unfold readBool at h
  split at h
  · obtain ⟨rfl, rfl⟩ := Prod.mk.inj (Option.some.inj h)
    rfl
  · obtain ⟨rfl, rfl⟩ := Prod.mk.inj (Option.some.inj h)
    rfl
  · cases h

/-- `n` items read from some bytes are `n` written items, followed by the bytes left. -/
theorem exact_readN {α : Type} {item : Reader α} {f : α → List UInt8} (hitem : Exact item f) :
    ∀ (n : Nat) (bs : List UInt8) (xs : List α) (r : List UInt8),
      readN item n bs = some (xs, r) → bs = xs.flatMap f ++ r ∧ xs.length = n
  | 0, bs, xs, r, h => by
    obtain ⟨rfl, rfl⟩ := Prod.mk.inj (Option.some.inj h)
    exact ⟨rfl, rfl⟩
  | n + 1, bs, xs, r, h => by
    simp only [readN, Option.bind_eq_bind, Option.bind_eq_some_iff, Prod.exists] at h
    obtain ⟨x, r₁, hx, ys, r₂, hys, hxs⟩ := h
    obtain ⟨rfl, rfl⟩ := Prod.mk.inj (Option.some.inj hxs)
    obtain ⟨hbytes, hlen⟩ := exact_readN hitem n r₁ ys r₂ hys
    rw [hitem bs x r₁ hx, hbytes]
    exact ⟨by simp, by simp [hlen]⟩

theorem exact_list {α : Type} {item : Reader α} {f : α → List UInt8} (hitem : Exact item f) :
    Exact (readList item) (list f) := by
  intro bs xs r h
  simp only [readList, Option.bind_eq_bind, Option.bind_eq_some_iff, Prod.exists] at h
  obtain ⟨n, r₀, hn, hitems⟩ := h
  split at hitems
  · cases hitems
  · obtain ⟨hbytes, rfl⟩ := exact_readN hitem n r₀ xs r hitems
    rw [exact_readU64 bs xs.length r₀ hn, hbytes, list, List.append_assoc]

theorem exact_pairEntry : Exact readPair pairEntry := by
  intro bs p r h
  simp only [readPair, Option.bind_eq_bind, Option.bind_eq_some_iff, Prod.exists] at h
  obtain ⟨f, r₁, hf, d, r₂, hd, u, r₃, hu, c, r₄, hc, hp⟩ := h
  obtain ⟨rfl, rfl⟩ := Prod.mk.inj (Option.some.inj hp)
  rw [exact_str bs f r₁ hf, exact_str r₁ d r₂ hd, exact_str r₂ u r₃ hu, exact_bool r₃ c r₄ hc]
  simp [pairEntry]

theorem exact_typeEntry : Exact readType typeEntry := by
  intro bs t r h
  simp only [readType, Option.bind_eq_bind, Option.bind_eq_some_iff, Prod.exists] at h
  obtain ⟨ty, r₁, hty, ps, r₂, hps, bodies, r₃, hbodies, ht⟩ := h
  obtain ⟨rfl, rfl⟩ := Prod.mk.inj (Option.some.inj ht)
  rw [exact_str bs ty r₁ hty, exact_list exact_pairEntry r₁ ps r₂ hps,
    exact_list exact_str r₂ bodies r₃ hbodies]
  simp [typeEntry]

/-- **Reading takes only the written form.** A snapshot read from the front of some bytes is
written there: its binary form is a prefix of the bytes. -/
theorem encode_prefix_of_decode? {bs : List UInt8} {s : Snapshot} (h : decode? bs = some s) :
    encode s <+: bs := by
  obtain ⟨⟨ts, r⟩, hts, rfl⟩ := Option.map_eq_some_iff.mp h
  exact ⟨r, (exact_list exact_typeEntry bs ts r hts).symm⟩

end Coverage.Binary

end DefUseCoverage
