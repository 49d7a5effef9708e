import DefUseCoverage.Proofs.ParallelGeneration
/-! # One type's generation pass

  A pass over one type visits the type's uncovered pairs in registration order. Each pair's turn
  fails when the strategy fails, skips a body already recorded for the type, and otherwise records
  the body and emits the stub.

  - Which pairs emit is said without the store's running state (`freshRecords`): a pair emits the
    strategy's body for it when that body was recorded for the type neither before the pass nor
    for a pair earlier in the pass (`freshBody`). What a turn records is what it emits
    (`turnOn_fresh`), and a turn after others sees as recorded what was recorded before the pass
    and the bodies of the earlier pairs (`freshBody_cons`).
  - Every turn ends in one of the three outcomes, so the report counts each pair once
    (`foldl_turnOn_counted`).
  - The pass changes the store only in its own type's bodies (`Confined`): every other type's
    partition and every pair's status stay, and a pass that emits nothing leaves the store as it
    was, creating no partition (`confined_generatePair`, then `PassStep.run`).

  Main statement: `type_pass_emits_fresh_bodies`.
-/

namespace DefUseCoverage

open Coverage

/-! ### Which pairs emit -/

section Fresh

variable (strat : Template.Strategy)

/-- The body a pair emits in a pass, given the bodies recorded for the type before the pass and
the pairs earlier in the pass: the strategy's body for it, unless that body is recorded or is the
strategy's body for an earlier pair. -/
def freshBody (recorded : List String) (earlier : List Pair) (p : Pair) : Option String :=
  match strat.generate p with
  | .ok b => if b ∉ recorded ∧ ∀ q ∈ earlier, strat.generate q ≠ .ok b then some b else none
  | .error _ => none

/-- The stub a pair emits in a pass over type `ty`, given the pairs earlier in the pass. -/
def freshRecord (ty : String) (recorded : List String) (earlier : List Pair) (p : Pair) :
    Option PutRecord :=
  (freshBody strat recorded earlier p).map fun b => ⟨ty, b, p⟩

/-- The stubs a pass over type `ty` emits, pair by pair in order, each pair given the pairs
before it. -/
def freshRecords (ty : String) (recorded : List String) (ps : List Pair) : List PutRecord :=
  (List.zipWith (freshRecord strat ty recorded) ps.inits ps).reduceOption

/-- After a pair's turn the type has recorded, besides what it had, the strategy's body for the
pair, if any: a body the turn skipped was recorded already. -/
theorem mem_recorded_after (recorded : List String) (p : Pair) (c : String) :
    c ∈ recorded ++ (freshBody strat recorded [] p).toList ↔
      c ∈ recorded ∨ strat.generate p = .ok c := by
  unfold freshBody
  cases strat.generate p with
  | error e => simp
  | ok b =>
    by_cases hb : b ∈ recorded
    · simp only [hb, not_true_eq_false, false_and, if_false, Option.toList_none, List.append_nil,
        Except.ok.injEq]
      constructor
      · exact .inl
      · rintro (hc | rfl)
        · exact hc
        · exact hb
    · simp [hb, eq_comm]

/-- What is recorded and what came before decide a fresh body only through the bodies they rule
out. -/
theorem freshBody_congr {recorded recorded' : List String} {earlier earlier' : List Pair}
    (h : ∀ c, (c ∉ recorded ∧ ∀ q ∈ earlier, strat.generate q ≠ .ok c) ↔
      (c ∉ recorded' ∧ ∀ q ∈ earlier', strat.generate q ≠ .ok c)) (p : Pair) :
    freshBody strat recorded earlier p = freshBody strat recorded' earlier' p := by
  unfold freshBody
  cases strat.generate p with
  | error e => rfl
  | ok c => simp only [h c]

/-- A later pair sees as recorded what was recorded before the pass and the bodies of the pairs
before it. -/
theorem freshBody_cons (recorded : List String) (p : Pair) (earlier : List Pair) (q : Pair) :
    freshBody strat recorded (p :: earlier) q =
      freshBody strat (recorded ++ (freshBody strat recorded [] p).toList) earlier q := by
  refine freshBody_congr strat (fun c => ?_) q
  rw [mem_recorded_after, List.forall_mem_cons, not_or]
  tauto

theorem freshRecord_cons (ty : String) (recorded : List String) (p : Pair) (earlier : List Pair)
    (q : Pair) :
    freshRecord strat ty recorded (p :: earlier) q =
      freshRecord strat ty (recorded ++ (freshBody strat recorded [] p).toList) earlier q := by
  rw [freshRecord, freshBody_cons, freshRecord]

@[simp] theorem freshRecords_nil (ty : String) (recorded : List String) :
    freshRecords strat ty recorded [] = [] := rfl

/-- A pass's stubs are the first pair's, then those of the rest against what the first
recorded. -/
theorem freshRecords_cons (ty : String) (recorded : List String) (p : Pair) (ps : List Pair) :
    freshRecords strat ty recorded (p :: ps) =
      (freshRecord strat ty recorded [] p).toList ++
        freshRecords strat ty (recorded ++ (freshBody strat recorded [] p).toList) ps := by
  unfold freshRecords
  rw [List.inits_cons, List.zipWith_cons_cons, List.zipWith_map_left]
  simp only [freshRecord_cons]
  cases freshRecord strat ty recorded [] p with
  | none => rw [List.reduceOption_cons_of_none, Option.toList_none, List.nil_append]
  | some r => rw [List.reduceOption_cons_of_some, Option.toList_some, List.singleton_append]

end Fresh

/-! ### A pass on the contents of its type -/

section Turns

variable (strat : Template.Strategy) (ty : String)

/-- A turn emits the pair's fresh stub and records its body, and nothing else. -/
theorem turnOn_fresh (r : GenerationReport) (part : Partition) (p : Pair) :
    (turnOn strat ty (r, part) p).1.emitted =
        r.emitted ++ (freshRecord strat ty part.puts [] p).toList ∧
      (turnOn strat ty (r, part) p).2 =
        { part with puts := part.puts ++ (freshBody strat part.puts [] p).toList } := by
  unfold turnOn freshRecord freshBody
  cases strat.generate p with
  | error e => simp
  | ok b =>
    by_cases hb : b ∈ part.puts
    · simp [hb]
    · simp [hb]

/-- A turn ends in exactly one outcome: emitted, skipped as a duplicate, or failed. -/
theorem turnOn_counted (r : GenerationReport) (part : Partition) (p : Pair) :
    (turnOn strat ty (r, part) p).1.emitted.length +
        (turnOn strat ty (r, part) p).1.skippedDuplicates + (turnOn strat ty (r, part) p).1.failures =
      r.emitted.length + r.skippedDuplicates + r.failures + 1 := by
  unfold turnOn
  cases strat.generate p with
  | error e => simp only; omega
  | ok b =>
    by_cases hb : b ∈ part.puts
    · simp only [hb, if_true]; omega
    · simp only [hb, if_false, List.length_append, List.length_singleton]; omega

/-- The turns of a pass emit the fresh stubs of their pairs, in order, and record their bodies
after those recorded before. -/
theorem foldl_turnOn (ps : List Pair) (r : GenerationReport) (part : Partition) :
    (ps.foldl (turnOn strat ty) (r, part)).1.emitted = r.emitted ++ freshRecords strat ty part.puts ps ∧
      (ps.foldl (turnOn strat ty) (r, part)).2.puts =
        part.puts ++ (freshRecords strat ty part.puts ps).map (·.body) := by
  induction ps generalizing r part with
  | nil => simp
  | cons p ps ih =>
    obtain ⟨hemitted, hpart⟩ := turnOn_fresh strat ty r part p
    rw [List.foldl_cons]
    -- name what the turn leaves, then go on from it
    generalize hturn : turnOn strat ty (r, part) p = after at hemitted hpart
    obtain ⟨r', part'⟩ := after
    dsimp only at hemitted hpart
    subst hpart
    obtain ⟨ih₁, ih₂⟩ := ih r' { part with puts := part.puts ++ (freshBody strat part.puts [] p).toList }
    refine ⟨?_, ?_⟩
    · rw [ih₁, hemitted, freshRecords_cons, List.append_assoc]
    · rw [ih₂, freshRecords_cons, List.map_append, freshRecord]
      cases freshBody strat part.puts [] p <;> simp

/-- A pass counts each of its pairs once. -/
theorem foldl_turnOn_counted (ps : List Pair) (r : GenerationReport) (part : Partition) :
    (ps.foldl (turnOn strat ty) (r, part)).1.emitted.length +
        (ps.foldl (turnOn strat ty) (r, part)).1.skippedDuplicates +
        (ps.foldl (turnOn strat ty) (r, part)).1.failures =
      r.emitted.length + r.skippedDuplicates + r.failures + ps.length := by
  induction ps generalizing r part with
  | nil => rfl
  | cons p ps ih =>
    rw [List.foldl_cons, ← Prod.mk.eta (p := turnOn strat ty (r, part) p), ih,
      turnOn_counted, List.length_cons]
    omega

end Turns

/-! ### A pass stays within its type -/

/-- Work on type `ty` from store `s` to store `s'`, emitting `out`, that leaves everything but
the type's bodies: every other type's partition and every pair's status stay, and work that
emits nothing leaves the store as it was. -/
structure Confined (ty : String) (s : Store) (out : List PutRecord) (s' : Store) : Prop where
  /-- Every other type's partition stays as it was. -/
  others : ∀ ty', ty' ≠ ty → s'.partition? ty' = s.partition? ty'
  /-- Every pair keeps its status. -/
  statuses : ∀ q, s'.statusOf q = s.statusOf q
  /-- Emitting nothing changes nothing; in particular no partition is created. -/
  idle : out = [] → s' = s

theorem Confined.composes (ty : String) : Composes (Confined ty) where
  refl s := ⟨fun _ _ => rfl, fun _ => rfl, fun _ => rfl⟩
  trans h₁ h₂ := {
    others := fun ty' hne => (h₂.others ty' hne).trans (h₁.others ty' hne)
    statuses := fun q => (h₂.statuses q).trans (h₁.statuses q)
    idle := fun hnil => by
      obtain ⟨hnil₁, hnil₂⟩ := List.append_eq_nil_iff.mp hnil
      rw [h₂.idle hnil₂, h₁.idle hnil₁] }

/-- Recording a body for a type leaves every other type's partition. -/
theorem Coverage.Store.partition?_recordPut (s : Store) {ty ty' : String} (hne : ty' ≠ ty)
    (body : String) : (s.recordPut ty body).2.partition? ty' = s.partition? ty' := by
  unfold Store.recordPut
  dsimp only
  split <;> rw [Store.partition?_setPartition, if_neg hne]

/-- A pair's turn stays within its type: only an emitting turn changes the store, by recording
its body. -/
theorem confined_generatePair (strat : Template.Strategy) (ty : String) :
    PassStep (Confined ty) (generatePair strat ty) := by
  intro r s p
  unfold generatePair
  cases strat.generate p with
  | error e => exact ⟨[], by simp, (Confined.composes ty).refl s⟩
  | ok body =>
    by_cases h : s.hasPut ty body = true
    · exact ⟨[], by simp [h], by simpa [h] using (Confined.composes ty).refl s⟩
    · refine ⟨[⟨ty, body, p⟩], by simp [h], ?_⟩
      simp only [h]
      exact {
        others := fun ty' hne => s.partition?_recordPut hne body
        statuses := Store.statusOf_recordPut s ty body
        idle := fun hnil => absurd hnil (List.cons_ne_nil _ _) }

/-! ### The pass -/

/-- **A type's pass emits exactly the fresh stubs.** Over the uncovered pairs of the type, in
order, a pair emits the stub of the strategy's body for it exactly when the strategy gives one
and that body was recorded for the type neither before the pass nor for an earlier pair of the
pass; each pair is counted once as emitted, skipped or failed; the type's bodies afterwards are
those before followed by the emitted ones; and the pass leaves every pair's status and every
other type's partition, and with nothing emitted the whole store. -/
theorem type_pass_emits_fresh_bodies (strat : Template.Strategy) (s : Store) (ty : String) :
    (generateForType strat s ty).1.emitted = freshRecords strat ty (s.putsFor ty) (s.uncovered ty) ∧
      (generateForType strat s ty).1.emitted.length +
          (generateForType strat s ty).1.skippedDuplicates +
          (generateForType strat s ty).1.failures = (s.uncovered ty).length ∧
      (generateForType strat s ty).2.putsFor ty =
        s.putsFor ty ++ (generateForType strat s ty).1.emitted.map (·.body) ∧
      Confined ty s (generateForType strat s ty).1.emitted (generateForType strat s ty).2 := by
  -- the pass reads and changes only the contents of its type, where the turns do the work
  obtain ⟨hreport, hview⟩ := foldl_generatePair_view strat ty (s.uncovered ty) {} s
  obtain ⟨hemitted, hputs⟩ := foldl_turnOn strat ty (s.uncovered ty) {} (s.view ty)
  have hrecorded : (s.view ty).puts = s.putsFor ty := (Store.putsFor_eq_view s ty).symm
  have hpass : generateForType strat s ty = (s.uncovered ty).foldl (generatePair strat ty) ({}, s) :=
    rfl
  have hfresh : (generateForType strat s ty).1.emitted =
      freshRecords strat ty (s.putsFor ty) (s.uncovered ty) := by
    rw [hpass, hreport, hemitted, hrecorded]
    rfl
  refine ⟨hfresh, ?_, ?_, (confined_generatePair strat ty).run (Confined.composes ty) _ s⟩
  · rw [hpass, hreport, foldl_turnOn_counted]
    simp
  · rw [Store.putsFor_eq_view, hpass, hview, Function.update_self, hputs, hrecorded, ← hpass,
      hfresh]

end DefUseCoverage
