import DefUseCoverage.Generation
import DefUseCoverage.Proofs.StoreContents
/-! # Generation never emits a stub twice

  A generation pass asks the store before it emits: a body already recorded for its type is
  skipped, any other is recorded and emitted. `Emits s out s'` says that some work went from
  store `s` to store `s'` emitting `out` through that gate: no emitted body was recorded for
  its type in `s`, no two emitted records share a type and a body, each is recorded in `s'`,
  and `s'` has every body `s` had.

  - One pair's turn of a pass emits through the gate (`emitStep_generatePair`), and so does a
    register or a mark, emitting nothing.
  - `Emits` composes (`Emits.trans`), so a pass over a type, over a list of types, and over
    chunks of a list with any number of workers emits through the gate: the pass lemmas
    (`generateAll_rel`) hold for every relation that composes.
  - Main statement: over any interleaving of passes, single turns, registers and marks, from
    any store and with any strategies, no stub is emitted twice, no emitted body was recorded
    before its call, and every emitted body stays recorded (`generation_never_repeats`).

  A turn is the unit that workers running side by side interleave: each runs under the lock of
  its type, where the store's record is the one arbiter. So the interleavings of turns cover
  every schedule of the workers, and a strategy that answers differently from call to call.
-/

namespace DefUseCoverage

open Coverage

/-- The key of a stub: two records are the same stub when their type and body agree. -/
def PutRecord.key (r : PutRecord) : String × String := (r.declaringType, r.body)

/-! ### Emitting through the gate -/

/-- Work that goes from store `s` to store `s'` emitting `out` through the gate. -/
structure Emits (s : Store) (out : List PutRecord) (s' : Store) : Prop where
  /-- No emitted body was recorded for its type before. -/
  fresh : ∀ r ∈ out, s.hasPut r.declaringType r.body = false
  /-- No two emitted records are the same stub. -/
  unique : (out.map PutRecord.key).Nodup
  /-- Every emitted body is recorded for its type after. -/
  recorded : ∀ r ∈ out, s'.hasPut r.declaringType r.body = true
  /-- No body recorded before is forgotten. -/
  keeps : ∀ ty body, s.hasPut ty body = true → s'.hasPut ty body = true

namespace Emits

/-- Doing nothing emits nothing. -/
theorem refl (s : Store) : Emits s [] s where
  fresh := by simp
  unique := by simp
  recorded := by simp
  keeps := fun _ _ h => h

/-- Work after work emits what both emit: a body the second emits was not recorded after the
first, so the first did not emit it. -/
theorem trans {s s₁ s₂ : Store} {out₁ out₂ : List PutRecord} (h₁ : Emits s out₁ s₁)
    (h₂ : Emits s₁ out₂ s₂) : Emits s (out₁ ++ out₂) s₂ where
  fresh := by
    intro r hr
    rcases List.mem_append.mp hr with hr | hr
    · exact h₁.fresh r hr
    · cases hs : s.hasPut r.declaringType r.body
      · rfl
      · -- recorded before would mean recorded after the first piece
        have hafter := h₁.keeps _ _ hs
        rw [h₂.fresh r hr] at hafter
        exact hafter.symm
  unique := by
    rw [List.map_append, List.nodup_append]
    refine ⟨h₁.unique, h₂.unique, ?_⟩
    intro k₁ hk₁ k₂ hk₂ heq
    obtain ⟨r₁, hr₁, rfl⟩ := List.mem_map.mp hk₁
    obtain ⟨r₂, hr₂, rfl⟩ := List.mem_map.mp hk₂
    have hrec := h₁.recorded r₁ hr₁
    have hfresh := h₂.fresh r₂ hr₂
    simp only [PutRecord.key, Prod.mk.injEq] at heq
    rw [heq.1, heq.2, hfresh] at hrec
    exact absurd hrec (by simp)
  recorded := by
    intro r hr
    rcases List.mem_append.mp hr with hr | hr
    · exact h₂.keeps _ _ (h₁.recorded r hr)
    · exact h₂.recorded r hr
  keeps := fun ty body h => h₂.keeps ty body (h₁.keeps ty body h)

/-- An update emits nothing and forgets no body. -/
theorem update (s : Store) (u : Update) : Emits s [] (s.run u).2 where
  fresh := by simp
  unique := by simp
  recorded := by simp
  keeps := fun _ _ h => Store.hasPut_run h u

end Emits

/-! ### Passes

  A pass over a type is a fold of steps over its pairs. A *pass step* for a relation `R` between
  a store, what is emitted and the store after adds to the report's stubs exactly what it emits,
  with `R` between the stores. When `R` holds of doing nothing and composes, a fold of pass steps
  satisfies it; so a pass over a type satisfies every such `R` that one pair's turn satisfies.
  A pass over a list of types is the passes over the types it visits before the token stops
  it, one after the other, and chunks of a list are passes one after the other: they satisfy
  every such `R` that each pass over one type satisfies. -/

/-- A relation between a store, what is emitted and the store after that holds of doing
nothing and composes. -/
structure Composes (R : Store → List PutRecord → Store → Prop) : Prop where
  /-- Doing nothing is related. -/
  refl : ∀ s, R s [] s
  /-- Work after work is related, emitting what both emit. -/
  trans : ∀ {s s₁ s₂ out₁ out₂}, R s out₁ s₁ → R s₁ out₂ s₂ → R s (out₁ ++ out₂) s₂

/-- Emitting through the gate composes. -/
theorem Emits.composes : Composes Emits := ⟨Emits.refl, Emits.trans⟩

/-- A step of a pass that adds to the report's stubs exactly what it emits, with `R` between
the stores. -/
def PassStep (R : Store → List PutRecord → Store → Prop) {α : Type}
    (f : GenerationReport × Store → α → GenerationReport × Store) : Prop :=
  ∀ r s a, ∃ out, (f (r, s) a).1.emitted = r.emitted ++ out ∧ R s out (f (r, s) a).2

section Passes

variable {R : Store → List PutRecord → Store → Prop}

/-- A fold of pass steps adds to the report's stubs what it emits, with `R` between the stores. -/
theorem PassStep.foldl {α : Type} {f : GenerationReport × Store → α → GenerationReport × Store}
    (hf : PassStep R f) (hR : Composes R) : ∀ (l : List α) (r : GenerationReport) (s : Store),
      ∃ out, (l.foldl f (r, s)).1.emitted = r.emitted ++ out ∧ R s out (l.foldl f (r, s)).2
  | [], r, s => ⟨[], by simp, hR.refl s⟩
  | a :: rest, r, s => by
    obtain ⟨out₁, he₁, hg₁⟩ := hf r s a
    obtain ⟨out₂, he₂, hg₂⟩ := hf.foldl hR rest (f (r, s) a).1 (f (r, s) a).2
    simp only [Prod.mk.eta] at he₂ hg₂
    refine ⟨out₁ ++ out₂, ?_, hR.trans hg₁ hg₂⟩
    rw [List.foldl_cons, he₂, he₁, List.append_assoc]

/-- A fold of pass steps from an empty report relates the stores by its stubs. -/
theorem PassStep.run {α : Type} {f : GenerationReport × Store → α → GenerationReport × Store}
    (hf : PassStep R f) (hR : Composes R) (l : List α) (s : Store) :
    R s (l.foldl f ({}, s)).1.emitted (l.foldl f ({}, s)).2 := by
  obtain ⟨out, he, hg⟩ := hf.foldl hR l {} s
  have hnil : ({} : GenerationReport).emitted = [] := rfl
  rw [he, hnil, List.nil_append]
  exact hg

variable {strat : Template.Strategy}

/-- A pass over one type relates the stores by its stubs. -/
theorem generateForType_rel (hR : Composes R) (hpair : ∀ ty, PassStep R (generatePair strat ty))
    (s : Store) (ty : String) :
    R s (generateForType strat s ty).1.emitted (generateForType strat s ty).2 :=
  (hpair ty).run hR _ s

section Lists

variable (hR : Composes R)
  (htype : ∀ s ty, R s (generateForType strat s ty).1.emitted (generateForType strat s ty).2)
include hR htype

/-- A pass over a list of types relates the stores by its stubs, wherever the token stops it,
when every pass over one type does: the pass is the passes over the types it visits, one after
the other. -/
theorem generateSequential_rel : ∀ (token : Token) (s : Store) (types : List String),
    R s (generateSequential strat token s types).1.emitted
      (generateSequential strat token s types).2
  | _, s, [] => hR.refl s
  | token, s, ty :: rest => by
    rw [generateSequential]
    split
    · exact hR.refl s
    · exact hR.trans (htype s ty) (generateSequential_rel _ _ rest)

/-- Passes over pieces of a list, one after the other, relate the stores by their stubs. -/
theorem generateChunks_rel : ∀ (token : Token) (s : Store) (pieces : List (List String)),
    R s (generateChunks strat token s pieces).1.emitted (generateChunks strat token s pieces).2
  | _, s, [] => hR.refl s
  | token, s, chunk :: rest =>
    hR.trans (generateSequential_rel hR htype token s chunk) (generateChunks_rel _ _ rest)

/-- A pass with any number of workers relates the stores by its stubs, when every pass over one
type does. -/
theorem generateAll_rel (workers : Nat) (token : Token) (s : Store) (types : List String) :
    R s (generateAll strat workers token s types).1.emitted
      (generateAll strat workers token s types).2 := by
  unfold generateAll
  split
  · exact generateSequential_rel hR htype token s types
  · exact generateChunks_rel hR htype token s _

end Lists

end Passes

/-! ### Passes emit through the gate -/

/-- One pair's turn: a failing strategy or a recorded body emits nothing; a new body is
recorded and emitted. -/
theorem emitStep_generatePair (strat : Template.Strategy) (ty : String) :
    PassStep Emits (generatePair strat ty) := by
  intro r s p
  unfold generatePair
  cases strat.generate p with
  | error e => exact ⟨[], by simp, Emits.refl s⟩
  | ok body =>
    by_cases h : s.hasPut ty body = true
    · exact ⟨[], by simp [h], by simpa [h] using Emits.refl s⟩
    · refine ⟨[⟨ty, body, p⟩], by simp [h], ?_⟩
      simp only [h]
      exact {
        fresh := by simpa using h
        unique := by simp
        recorded := by simp [Store.hasPut_recordPut_self]
        keeps := fun _ _ hk => Store.hasPut_run hk (.recordPut ty body) }

/-- A pass over one type emits through the gate. -/
theorem emits_generateForType (strat : Template.Strategy) (s : Store) (ty : String) :
    Emits s (generateForType strat s ty).1.emitted (generateForType strat s ty).2 :=
  generateForType_rel Emits.composes (emitStep_generatePair strat) s ty

/-- A pass with any number of workers emits through the gate. -/
theorem emits_generateAll (strat : Template.Strategy) (workers : Nat) (token : Token)
    (s : Store) (types : List String) :
    Emits s (generateAll strat workers token s types).1.emitted
      (generateAll strat workers token s types).2 :=
  generateAll_rel Emits.composes (emits_generateForType strat) workers token s types

/-! ### Interleavings of calls -/

/-- A call on the store and its generator: a register, a mark, a pass over one type, a pass over
a list of types with some workers, or one pair's turn of a pass. Every call names its own
strategy. -/
inductive GenCall where
  /-- Register a pair. -/
  | register (p : Pair)
  /-- Mark a pair covered. -/
  | markCovered (p : Pair)
  /-- A pass over one type. -/
  | forType (strat : Template.Strategy) (ty : String)
  /-- A pass over a list of types. -/
  | all (strat : Template.Strategy) (workers : Nat) (token : Token) (types : List String)
  /-- One pair's turn of a pass over a type. -/
  | turn (strat : Template.Strategy) (ty : String) (p : Pair)

namespace GenCall

/-- Runs a call: the stubs it emits, and the store after. -/
def run (s : Store) : GenCall → List PutRecord × Store
  | .register p => ([], (s.register p).2)
  | .markCovered p => ([], (s.markCovered p).2)
  | .forType strat ty =>
    let (r, s) := generateForType strat s ty
    (r.emitted, s)
  | .all strat workers token types =>
    let (r, s) := generateAll strat workers token s types
    (r.emitted, s)
  | .turn strat ty p =>
    let (r, s) := generatePair strat ty ({}, s) p
    (r.emitted, s)

/-- Runs calls in order: every stub emitted, in order, and the store after. -/
def runAll (s : Store) : List GenCall → List PutRecord × Store
  | [] => ([], s)
  | c :: cs =>
    let (out₁, s₁) := run s c
    let (out₂, s₂) := runAll s₁ cs
    (out₁ ++ out₂, s₂)

/-- Every call emits through the gate. -/
theorem emits_run (s : Store) : ∀ c : GenCall, Emits s (run s c).1 (run s c).2
  | .register p => Emits.update s (.register p)
  | .markCovered p => Emits.update s (.markCovered p)
  | .forType strat ty => emits_generateForType strat s ty
  | .all strat workers token types => emits_generateAll strat workers token s types
  | .turn strat ty p => by
    obtain ⟨out, he, hg⟩ := emitStep_generatePair strat ty {} s p
    have hnil : ({} : GenerationReport).emitted = [] := rfl
    simp only [run]
    rw [he, hnil, List.nil_append]
    exact hg

/-- Calls in order emit through the gate. -/
theorem emits_runAll (s : Store) : ∀ cs : List GenCall, Emits s (runAll s cs).1 (runAll s cs).2
  | [] => Emits.refl s
  | c :: cs => (emits_run s c).trans (emits_runAll (run s c).2 cs)

/-- Running a history in two pieces. -/
theorem runAll_append (s : Store) : ∀ cs ds : List GenCall,
    runAll s (cs ++ ds) =
      ((runAll s cs).1 ++ (runAll (runAll s cs).2 ds).1, (runAll (runAll s cs).2 ds).2)
  | [], ds => by simp [runAll]
  | c :: cs, ds => by
    simp only [List.cons_append, runAll, runAll_append (run s c).2 cs ds, List.append_assoc]

end GenCall

open GenCall in
/-- **No stub is emitted twice.** From any store, over any interleaving of generation passes
(with any strategies, workers, type lists and cancellation tokens), single turns of passes, registers
and marks: no two stubs emitted over the whole history share a type and a body; no call emits a
body that was recorded for its type when the call began; and once a call has emitted a stub, its
body is recorded for its type after that call and after every later one, marks included. -/
theorem generation_never_repeats (s : Store) (calls : List GenCall) :
    ((runAll s calls).1.map PutRecord.key).Nodup ∧
    (∀ pre c post, calls = pre ++ c :: post →
      ∀ r ∈ (run (runAll s pre).2 c).1, (runAll s pre).2.hasPut r.declaringType r.body = false) ∧
    (∀ n m, n ≤ m → ∀ r ∈ (runAll s (calls.take n)).1,
      (runAll s (calls.take m)).2.hasPut r.declaringType r.body = true) := by
  refine ⟨(emits_runAll s calls).unique, ?_, ?_⟩
  · intro pre c post _ r hr
    exact (emits_run _ c).fresh r hr
  · intro n m hnm r hr
    -- the first `n` calls are a first piece of the first `m`
    have hsplit : calls.take m = calls.take n ++ (calls.take m).drop n := by
      conv_lhs => rw [← List.take_append_drop n (calls.take m)]
      rw [List.take_take, Nat.min_eq_left hnm]
    rw [hsplit, runAll_append]
    exact (emits_runAll _ _).keeps _ _ ((emits_runAll s _).recorded r hr)

end DefUseCoverage
