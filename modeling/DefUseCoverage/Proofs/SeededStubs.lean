import Mathlib
import DefUseCoverage.Template.Strategy
/-! # Seeded stubs: the template's stub, then rows of seeds in range

  A seeded stub is the template's stub, a line break when the stub does not end with one, then one
  line per row, `seed #r: [v1, ..., vk]`, rows numbered from zero, each with the configured number
  of values. The values are drawn one after the other from the pair's generator.

  ## The range of one draw

  A draw from a range of `r` integers (`0 < r ≤ 2^64`) takes a 64-bit draw `x` and offsets the low
  end by the high word of `x * r`. When the low word exceeds `2^64 - r`, a second draw may add a
  carry of one. The offset stays below `r` whatever the draws (`Uniform.offset_lt`): the high
  word is below `r` since `x < 2^64`, and when it is `r - 1` the low word is at most `2^64 - r`,
  so the second draw is not taken. Hence every seed value lies between -1024 and 1024, for every
  state of the generator (`Uniform.between_seed_range`).

  ## The rows

  The rows' text is their lines one after the other (`seedRows_eq_join`), with the values drawn
  row after row (`seedValues`); drawing stops after the last row, so the text of `n` rows begins
  the text of `n + 1` (`seedRows_succ_prefix`).

  Main statement: `seeded_stub_shape`.
-/

namespace DefUseCoverage

open ChaCha

/-! ### Drawing from a range -/

namespace Uniform

/-- A draw from a range of `r` integers is below `r`, whatever the generator's state. -/
theorem offset_lt {r : Nat} (hr : 0 < r) (hrw : r ≤ wordRange) (g : Generator) :
    (offset r g).1 < r := by
  unfold offset
  rcases hx : g.next with ⟨x, g₁⟩
  have hxw : x.toNat < wordRange := x.toNat_lt
  -- the product is at most `(2^64 - 1) * r`; its high word is the offset, its low word decides
  -- whether a second draw is taken
  have hprod : x.toNat * r ≤ (wordRange - 1) * r := Nat.mul_le_mul_right r (by omega)
  have hsplit := Nat.div_add_mod (x.toNat * r) wordRange
  -- when the low word passes `2^64 - r` the high word is below `r - 1`, with room for a carry
  simp only [apply_ite Prod.fst]
  split_ifs <;> simp only [wordRange] at * <;> omega

/-- A value drawn between `low` and `high` lies between them, whatever the generator's state. -/
theorem between_range {low high : Int} (h : low ≤ high) (hw : high - low + 1 ≤ wordRange)
    (g : Generator) : low ≤ (between low high g).1 ∧ (between low high g).1 ≤ high := by
  have hlt := offset_lt (r := (high - low + 1).toNat) (by omega) (by omega) g
  unfold between
  rcases ho : offset (high - low + 1).toNat g with ⟨k, g'⟩
  rw [ho] at hlt
  dsimp only at hlt ⊢
  omega

/-- A seed value lies between -1024 and 1024, whatever the generator's state. -/
theorem between_seed_range (g : Generator) :
    -1024 ≤ (between Template.seedLow Template.seedHigh g).1 ∧
      (between Template.seedLow Template.seedHigh g).1 ≤ 1024 :=
  between_range (by decide) (by decide) g

theorem many_length (low high : Int) (n : Nat) (g : Generator) :
    (many low high n g).1.length = n := by
  induction n generalizing g with
  | zero => rfl
  | succ n ih =>
    simp only [many]
    rw [List.length_cons, ih]

/-- Values drawn one after the other between -1024 and 1024 lie in range. -/
theorem many_seed_range (n : Nat) (g : Generator) :
    ∀ v ∈ (many Template.seedLow Template.seedHigh n g).1, -1024 ≤ v ∧ v ≤ 1024 := by
  induction n generalizing g with
  | zero => simp [many]
  | succ n ih =>
    intro v hv
    simp only [many, List.mem_cons] at hv
    rcases hv with rfl | hv
    · exact between_seed_range g
    · exact ih _ v hv

end Uniform

/-! ### Rows of seeds -/

namespace Template

/-- The line of row `r` with values `vs`: `seed #r: [v1, ..., vk]` and a line break. -/
def seedLine (r : Nat) (vs : List Int) : String :=
  "seed #" ++ toString r ++ ": [" ++ ", ".intercalate (vs.map toString) ++ "]\n"

/-- The values of `n` rows of `args` values each, drawn row after row. -/
def seedValues (args : Nat) : Nat → Generator → List (List Int)
  | 0, _ => []
  | n + 1, g => (Uniform.many seedLow seedHigh args g).1 ::
      seedValues args n (Uniform.many seedLow seedHigh args g).2

theorem seedValues_succ (args n : Nat) (g : Generator) :
    seedValues args (n + 1) g = (Uniform.many seedLow seedHigh args g).1 ::
      seedValues args n (Uniform.many seedLow seedHigh args g).2 := rfl

/-- A row more is the row's line, then the rows after it, drawn from where the row left off. -/
theorem seedRows_succ (args n start : Nat) (g : Generator) :
    seedRows args (n + 1) start g =
      seedLine start (Uniform.many seedLow seedHigh args g).1 ++
        seedRows args n (start + 1) (Uniform.many seedLow seedHigh args g).2 := rfl

theorem seedValues_length (args n : Nat) (g : Generator) : (seedValues args n g).length = n := by
  induction n generalizing g with
  | zero => rfl
  | succ n ih => rw [seedValues_succ, List.length_cons, ih]

/-- Every row has `args` values, each between -1024 and 1024. -/
theorem seedValues_range (args n : Nat) (g : Generator) :
    ∀ vs ∈ seedValues args n g, vs.length = args ∧ ∀ v ∈ vs, -1024 ≤ v ∧ v ≤ 1024 := by
  induction n generalizing g with
  | zero => simp [seedValues]
  | succ n ih =>
    intro vs hvs
    rw [seedValues_succ, List.mem_cons] at hvs
    rcases hvs with rfl | hvs
    · exact ⟨Uniform.many_length _ _ _ _, Uniform.many_seed_range _ _⟩
    · exact ih _ vs hvs

/-- The rows' text from row `start` on is their lines one after the other. -/
theorem seedRows_eq_join (args n start : Nat) (g : Generator) :
    seedRows args n start g =
      String.join ((seedValues args n g).mapIdx fun r vs => seedLine (start + r) vs) := by
  induction n generalizing start g with
  | zero => rfl
  | succ n ih =>
    -- the first row is line `start`, and the rest are numbered on from `start + 1`
    have hshift : (fun r vs => seedLine (start + 1 + r) vs) =
        fun r vs => seedLine (start + (r + 1)) vs := by
      funext r vs
      rw [Nat.add_assoc, Nat.add_comm 1 r]
    simp only [seedRows_succ, seedValues_succ, List.mapIdx_cons, String.join_cons, ih, hshift,
      Nat.add_zero]

/-- The text of `n` rows begins the text of `n + 1`: the rows are drawn in order. -/
theorem seedRows_succ_prefix (args n start : Nat) (g : Generator) :
    ∃ rest, seedRows args (n + 1) start g = seedRows args n start g ++ rest := by
  induction n generalizing start g with
  | zero => exact ⟨_, String.empty_append.symm⟩
  | succ n ih =>
    -- both begin with the same first row, drawn from the same generator
    obtain ⟨rest, hrest⟩ := ih (start + 1) (Uniform.many seedLow seedHigh args g).2
    refine ⟨rest, ?_⟩
    rw [seedRows_succ args (n + 1) start, seedRows_succ args n start, hrest, String.append_assoc]

/-- The line break a stub gets before its seed rows. -/
def withBreak (body : String) : String := if body.endsWith "\n" then body else body ++ "\n"

theorem withBreak_prefix (body : String) : ∃ s, withBreak body = body ++ s := by
  unfold withBreak
  split
  · exact ⟨"", String.append_empty.symm⟩
  · exact ⟨"\n", rfl⟩

theorem generateSeeded_zero (segs : List Segment) (args : Nat) (p : Pair) :
    generateSeeded segs 0 args p = generate segs p := by
  unfold generateSeeded
  cases generate segs p <;> rfl

theorem generateSeeded_error (segs : List Segment) (rows args : Nat) (p : Pair)
    (e : GenerationError) : generateSeeded segs rows args p = .error e ↔ generate segs p = .error e := by
  unfold generateSeeded
  cases generate segs p with
  | error e' => rfl
  | ok body =>
    -- a stub that was made gets its rows, which cannot fail
    by_cases hrows : rows = 0 <;> simp [hrows, bind, Except.bind, pure, Except.pure]

theorem generateSeeded_ok {segs : List Segment} {p : Pair} {body : String}
    (h : generate segs p = .ok body) (rows args : Nat) (hrows : 0 < rows) :
    generateSeeded segs rows args p = .ok (withBreak body ++ seedRows args rows 0 (seedGenerator p)) := by
  unfold generateSeeded
  simp [h, Nat.pos_iff_ne_zero.mp hrows, bind, Except.bind, pure, Except.pure, withBreak]

/-- A stub that was made, with some rows: the stub, its line break, then the rows' lines with
values in range. -/
theorem generateSeeded_shape {segs : List Segment} {p : Pair} {body : String}
    (h : generate segs p = .ok body) (rows args : Nat) (hrows : 0 < rows) :
    ∃ vss : List (List Int), vss.length = rows ∧
      (∀ vs ∈ vss, vs.length = args ∧ ∀ v ∈ vs, -1024 ≤ v ∧ v ≤ 1024) ∧
      generateSeeded segs rows args p = .ok (withBreak body ++ String.join (vss.mapIdx seedLine)) := by
  refine ⟨seedValues args rows (seedGenerator p), seedValues_length _ _ _,
    seedValues_range _ _ _, ?_⟩
  rw [generateSeeded_ok h rows args hrows, seedRows_eq_join]
  simp

/-- The seeded stub with some rows begins the one with a row more. -/
theorem generateSeeded_succ_prefix {segs : List Segment} {rows args : Nat} {p : Pair}
    {out out' : String} (hout : generateSeeded segs rows args p = .ok out)
    (hout' : generateSeeded segs (rows + 1) args p = .ok out') : ∃ rest, out' = out ++ rest := by
  cases hbody : generate segs p with
  | error e => simp [(generateSeeded_error segs rows args p e).mpr hbody] at hout
  | ok body =>
    rw [generateSeeded_ok hbody (rows + 1) args (Nat.succ_pos rows)] at hout'
    obtain rfl := Except.ok.inj hout'
    cases rows with
    | zero =>
      -- with no rows the stub is the template's, which its line break and the row extend
      rw [generateSeeded_zero, hbody] at hout
      obtain rfl := Except.ok.inj hout
      obtain ⟨s, hs⟩ := withBreak_prefix body
      exact ⟨s ++ seedRows args 1 0 (seedGenerator p), by rw [hs, String.append_assoc]⟩
    | succ n =>
      -- the rows are drawn in order, so the row more comes after the others
      rw [generateSeeded_ok hbody (n + 1) args (Nat.succ_pos n)] at hout
      obtain rfl := Except.ok.inj hout
      obtain ⟨rest, hrest⟩ := seedRows_succ_prefix args (n + 1) 0 (seedGenerator p)
      exact ⟨rest, by rw [hrest, String.append_assoc]⟩

/-- **The shape of a seeded stub.** For every template (as its segments), pair, number of rows and
number of values per row:
- the seeded stub fails exactly when the template's stub does, with the same error;
- with no rows it is the template's stub;
- otherwise it is the template's stub, a line break unless the stub ends with one, then exactly
  the given number of lines `seed #r: [v1, ..., vk]` for `r = 0, 1, ...` in order, each with the
  given number of values, all between -1024 and 1024;
- a seed value drawn from any state of the generator, so from any stream of draws, lies between
  -1024 and 1024;
- the seeded stub with some rows begins the one with a row more. -/
theorem seeded_stub_shape (segs : List Segment) (rows args : Nat) (p : Pair) :
    (∀ e, generateSeeded segs rows args p = .error e ↔ generate segs p = .error e) ∧
    generateSeeded segs 0 args p = generate segs p ∧
    (∀ body, generate segs p = .ok body → 0 < rows →
      ∃ vss : List (List Int), vss.length = rows ∧
        (∀ vs ∈ vss, vs.length = args ∧ ∀ v ∈ vs, -1024 ≤ v ∧ v ≤ 1024) ∧
        generateSeeded segs rows args p =
          .ok ((if body.endsWith "\n" then body else body ++ "\n") ++
            String.join (vss.mapIdx seedLine))) ∧
    (∀ g : Generator, -1024 ≤ (Uniform.between seedLow seedHigh g).1 ∧
      (Uniform.between seedLow seedHigh g).1 ≤ 1024) ∧
    ∀ out out', generateSeeded segs rows args p = .ok out →
      generateSeeded segs (rows + 1) args p = .ok out' → ∃ rest, out' = out ++ rest := by
  refine ⟨generateSeeded_error segs rows args p, generateSeeded_zero segs args p,
    fun body hbody hrows => ?_, Uniform.between_seed_range, fun _ _ => generateSeeded_succ_prefix⟩
  simpa [withBreak] using generateSeeded_shape hbody rows args hrows

/-- The stub `put` with two rows of three seeds: the stub, a line break, then two lines of three
seeds each, all in range. -/
theorem seeded_put_two_rows :
    let segs : List Segment := [.text "put"]
    let p : Pair := ⟨"T", "T.F", "T.Set", "T.Get"⟩
    generate segs p = .ok "put" ∧ 0 < 2 ∧
      ∃ vss : List (List Int), vss.length = 2 ∧
        (∀ vs ∈ vss, vs.length = 3 ∧ ∀ v ∈ vs, -1024 ≤ v ∧ v ≤ 1024) ∧
        generateSeeded segs 2 3 p =
          .ok ((if "put".endsWith "\n" then "put" else "put" ++ "\n") ++
            String.join (vss.mapIdx seedLine)) := by
  intro segs p
  have hbody : generate segs p = .ok "put" := by decide
  exact ⟨hbody, by decide, (seeded_stub_shape segs 2 3 p).2.2.1 "put" hbody (by decide)⟩

end Template

end DefUseCoverage
