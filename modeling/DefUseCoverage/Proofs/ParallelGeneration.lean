import Mathlib
import DefUseCoverage.Proofs.CycleEffects
/-! # Generating with several workers is generating in sequence

  With several workers a generation pass cuts its list of types into contiguous chunks of
  `⌈n / workers⌉` types, runs each chunk in order, and joins the chunks' reports in chunk order.

  - Reports form a monoid under `merge`, with the empty report as unit. A pass over two lists is
    the pass over the first, then the pass over the second with the token as the first pass's
    reads left it (`generateSequential_append`), the reads of the token being numbered as if one
    pass went over the whole list. The chunks read the list (`flatten_chunks`), so joining their
    passes in order is the pass over the whole list, for any number of workers and wherever the
    token stops it (`generateAll_eq_generateSequential`).
    With a positive count of workers no chunk is empty and there is at most one per worker
    (`chunks_length_le`).
  - The workers run at once on one store, and a type's pass reads and changes only the contents
    of its own type (`generateForType_view`, through `passOn`, the pass on one type's contents).
    So passes of different types commute (`jobView_comm`): run in any order they leave the same
    store (`runJobs_perm`), and over distinct types each reports what it reports from the
    start (`report_in_schedule`), which is what the sequential pass merges
    (`generateSequential_distinct`).

  Main statement: `parallel_generation_matches_sequential`. The loop's pass being the sequential
  one, a whole run does not depend on the number of workers (`Loop.run_workers`).
-/

namespace DefUseCoverage

open Coverage

/-! ### Reports form a monoid -/

namespace GenerationReport

theorem merge_assoc (a b c : GenerationReport) : (a.merge b).merge c = a.merge (b.merge c) := by
  simp only [merge, List.append_assoc, Nat.add_assoc, Bool.or_assoc]

@[simp] theorem empty_merge (a : GenerationReport) : ({} : GenerationReport).merge a = a := by
  obtain ⟨e, k, f, c⟩ := a
  simp [merge]

@[simp] theorem merge_empty (a : GenerationReport) : a.merge {} = a := by
  obtain ⟨e, k, f, c⟩ := a
  simp [merge]

end GenerationReport

/-- Reports merged in one after the other from a report put that report in front of those
merged from the empty one. -/
theorem foldl_merge {α : Type} (g : α → GenerationReport) :
    ∀ (xs : List α) (r : GenerationReport),
      xs.foldl (fun r a => r.merge (g a)) r = r.merge (xs.foldl (fun r a => r.merge (g a)) {})
  | [], r => by simp
  | a :: rest, r => by
    rw [List.foldl_cons, List.foldl_cons, foldl_merge g rest (r.merge (g a)),
      foldl_merge g rest (({} : GenerationReport).merge (g a)), GenerationReport.empty_merge,
      GenerationReport.merge_assoc]

/-! ### A pass over a list is the passes over its parts -/

variable (strat : Template.Strategy)

/-- **A pass over two lists is the pass over the first, then the pass over the second with the
token its reads left.** -/
theorem generateSequential_append : ∀ (token : Token) (s : Store) (xs ys : List String),
    generateSequential strat token s (xs ++ ys) =
      ((generateSequential strat token s xs).1.merge (generateSequential strat
          (token.afterPass xs.length) (generateSequential strat token s xs).2 ys).1,
        (generateSequential strat (token.afterPass xs.length)
          (generateSequential strat token s xs).2 ys).2)
  | token, s, [], ys => by simp [generateSequential, Token.afterPass]
  | token, s, x :: xs, ys => by
    cases hset : token.isSet
    · -- the first type is visited, and the rest of both lists from the token after its read
      rw [List.cons_append, generateSequential_cons hset, generateSequential_cons hset,
        List.length_cons, Token.afterPass, if_neg (by simp [hset]),
        generateSequential_append token.read.2 _ xs ys, GenerationReport.merge_assoc]
    · -- a set token ends both sides at once
      rw [Token.afterPass_of_isSet token hset, generateSequential_of_isSet hset,
        generateSequential_of_isSet hset, generateSequential_of_isSet hset]
      by_cases hys : ys = [] <;> simp [hys, GenerationReport.merge]

/-- The passes over pieces of a list, joined in order, are the pass over the pieces together. -/
theorem generateChunks_eq_generateSequential : ∀ (token : Token) (s : Store)
    (pieces : List (List String)),
    generateChunks strat token s pieces = generateSequential strat token s pieces.flatten
  | _, _, [] => rfl
  | token, s, chunk :: rest => by
    rw [generateChunks, List.flatten_cons, generateSequential_append,
      generateChunks_eq_generateSequential]

/-- **Chunks join into the sequential pass.** Joining in order the passes over the chunks of a
list is the pass over the list, for any number of workers and wherever the token stops it. -/
theorem generateAll_eq_generateSequential (workers : Nat) (token : Token) (s : Store)
    (types : List String) :
    generateAll strat workers token s types = generateSequential strat token s types := by
  unfold generateAll
  split
  · rfl
  · rw [generateChunks_eq_generateSequential, flatten_chunks]

/-! ### The chunks -/

section Chunks

variable {α : Type}

/-- Pieces of a positive size are not empty. -/
theorem ne_nil_of_mem_chunks {n : Nat} (hn : 0 < n) {xs c : List α} (hc : c ∈ chunks n xs) :
    c ≠ [] := by
  fun_induction chunks n xs with
  | case1 xs hzero => omega
  | case2 xs _ hempty => simp at hc
  | case3 xs _ hempty ih =>
    rcases List.mem_cons.mp hc with rfl | hrest
    · simpa [List.isEmpty_iff, hn.ne'] using hempty
    · exact ih hrest

/-- A list of `m` items cut into pieces of `n` gives `⌈m / n⌉` pieces. -/
theorem length_chunks {n : Nat} (hn : 0 < n) (xs : List α) :
    (chunks n xs).length = (xs.length + n - 1) / n := by
  fun_induction chunks n xs with
  | case1 xs hzero => omega
  | case2 xs _ hempty =>
    simp only [List.isEmpty_iff] at hempty
    simp [hempty, Nat.div_eq_of_lt (show n - 1 < n by omega)]
  | case3 xs _ hempty ih =>
    have hlen : 0 < xs.length := by
      simpa [List.isEmpty_iff, List.length_pos_iff] using hempty
    rw [List.length_cons, ih, List.length_drop]
    by_cases hbig : n ≤ xs.length
    · -- one piece of `n`, and the rest of the list
      have hsplit : xs.length + n - 1 = (xs.length - n + n - 1) + n := by omega
      rw [hsplit, Nat.add_div_right _ hn]
    · -- the whole list is one piece
      have hrest : (xs.length - n + n - 1) / n = 0 := Nat.div_eq_of_lt (by omega)
      have hone : (xs.length + n - 1) / n = 1 :=
        Nat.div_eq_of_lt_le (by omega) (by omega)
      rw [hrest, hone]

/-- Pieces of `⌈m / w⌉` items are at most `w`: one per worker. -/
theorem chunks_length_le (xs : List α) {w : Nat} (hw : 0 < w) (hne : xs ≠ []) :
    (chunks ((xs.length + w - 1) / w) xs).length ≤ w := by
  have hlen : 0 < xs.length := List.length_pos_iff.mpr hne
  -- the size `⌈m / w⌉` is positive and `w` pieces of it hold the list
  have hsize : 0 < (xs.length + w - 1) / w := Nat.div_pos (by omega) hw
  have hcover : xs.length ≤ (xs.length + w - 1) / w * w := by
    have := Nat.lt_div_mul_add (a := xs.length + w - 1) hw
    omega
  rw [length_chunks hsize, Nat.div_le_iff_le_mul_add_pred hsize]
  omega

end Chunks

/-! ### A type's pass touches only its type -/

/-- One pair's turn on the contents of its type: fail, skip a recorded body, or record and emit
a new one. -/
def turnOn (ty : String) (acc : GenerationReport × Partition) (p : Pair) :
    GenerationReport × Partition :=
  match strat.generate p with
  | .error _ => ({ acc.1 with failures := acc.1.failures + 1 }, acc.2)
  | .ok body =>
    if body ∈ acc.2.puts then
      ({ acc.1 with skippedDuplicates := acc.1.skippedDuplicates + 1 }, acc.2)
    else ({ acc.1 with emitted := acc.1.emitted ++ [⟨ty, body, p⟩] },
      { acc.2 with puts := acc.2.puts ++ [body] })

/-- A type's pass on the contents of the type: the turn of each uncovered pair, in order. -/
def passOn (ty : String) (part : Partition) : GenerationReport × Partition :=
  ((part.pairs.filter (·.2 = .uncovered)).map (·.1)).foldl (turnOn strat ty) ({}, part)

/-- A turn reads the contents of its type, and changes them as `turnOn` does. -/
theorem generatePair_view (ty : String) (r : GenerationReport) (t : Store) (p : Pair) :
    (generatePair strat ty (r, t) p).1 = (turnOn strat ty (r, t.view ty) p).1 ∧
      (generatePair strat ty (r, t) p).2.view =
        Function.update t.view ty (turnOn strat ty (r, t.view ty) p).2 := by
  unfold generatePair turnOn
  cases strat.generate p with
  | error e => simp
  | ok body =>
    by_cases h : body ∈ (t.view ty).puts
    · have hput : t.hasPut ty body = true := by
        rw [Store.hasPut_eq_view]
        simpa using h
      simp [hput, h]
    · have hput : t.hasPut ty body = false := by
        rw [Store.hasPut_eq_view]
        simpa using h
      -- a new body is appended to its type's bodies
      have hview : (t.recordPut ty body).2.view =
          Function.update t.view ty { t.view ty with puts := (t.view ty).puts ++ [body] } := by
        have hrec := (Store.run_recordPut t ty body).2
        simp only [Store.run] at hrec
        rw [hrec, Contents.update_of_accepts (by simp [Contents.accepts, h])]
        rfl
      simp [hput, h, hview]

/-- A type's turns read and change only the contents of the type. -/
theorem foldl_generatePair_view (ty : String) :
    ∀ (ps : List Pair) (r : GenerationReport) (t : Store),
      (ps.foldl (generatePair strat ty) (r, t)).1 = (ps.foldl (turnOn strat ty) (r, t.view ty)).1 ∧
        (ps.foldl (generatePair strat ty) (r, t)).2.view =
          Function.update t.view ty (ps.foldl (turnOn strat ty) (r, t.view ty)).2
  | [], r, t => by simp
  | p :: rest, r, t => by
    obtain ⟨hr, hv⟩ := generatePair_view strat ty r t p
    rw [List.foldl_cons, List.foldl_cons]
    -- name the report and store after the turn, and what the turn leaves of the type
    generalize generatePair strat ty (r, t) p = g at hr hv ⊢
    generalize turnOn strat ty (r, t.view ty) p = q at hr hv ⊢
    obtain ⟨r₁, t₁⟩ := g
    obtain ⟨r₂, part⟩ := q
    dsimp only at hr hv
    subst hr
    have hty : t₁.view ty = part := by
      rw [hv]
      exact Function.update_self ty part t.view
    obtain ⟨ihr, ihv⟩ := foldl_generatePair_view ty rest r₁ t₁
    rw [hty] at ihr ihv
    rw [hv, Function.update_idem] at ihv
    exact ⟨ihr, ihv⟩

/-- **A type's pass is local to its type.** Its report is read off the contents of the type, and
it changes the contents of that type only. -/
theorem generateForType_view (t : Store) (ty : String) :
    (generateForType strat t ty).1 = (passOn strat ty (t.view ty)).1 ∧
      (generateForType strat t ty).2.view =
        Function.update t.view ty (passOn strat ty (t.view ty)).2 := by
  unfold generateForType
  rw [Store.uncovered_eq_view]
  exact foldl_generatePair_view strat ty _ {} t

/-- A type's pass reports the same from two stores that agree on the type. -/
theorem generateForType_report_eq {s t : Store} {ty : String} (h : t.view ty = s.view ty) :
    (generateForType strat t ty).1 = (generateForType strat s ty).1 := by
  rw [(generateForType_view strat t ty).1, (generateForType_view strat s ty).1, h]

/-! ### Passes of different types commute -/

/-- A type's pass on whole contents: the type's contents replaced by what its pass leaves. -/
def jobView (c : Contents) (ty : String) : Contents :=
  Function.update c ty (passOn strat ty (c ty)).2

theorem jobView_comm (c : Contents) {x y : String} (hxy : x ≠ y) :
    jobView strat (jobView strat c x) y = jobView strat (jobView strat c y) x := by
  simp only [jobView, Function.update_of_ne hxy, Function.update_of_ne (Ne.symm hxy)]
  exact Function.update_comm hxy _ _ c

/-- The store after the passes of some types, one after another in the given order. -/
def runJobs (s : Store) (order : List String) : Store :=
  order.foldl (fun t ty => (generateForType strat t ty).2) s

theorem runJobs_view : ∀ (order : List String) (s : Store),
    (runJobs strat s order).view = order.foldl (jobView strat) s.view
  | [], _ => rfl
  | ty :: rest, s => by
    rw [runJobs, List.foldl_cons, ← runJobs, runJobs_view rest, (generateForType_view strat s ty).2]
    rfl

/-- Passes of other types leave a type's contents. -/
theorem runJobs_view_of_not_mem {ty : String} :
    ∀ (pre : List String) (s : Store), ty ∉ pre → (runJobs strat s pre).view ty = s.view ty
  | [], _, _ => rfl
  | ty' :: rest, s, h => by
    have hne : ty ≠ ty' := fun heq => h (heq ▸ List.mem_cons_self)
    rw [runJobs, List.foldl_cons, ← runJobs,
      runJobs_view_of_not_mem rest _ fun hm => h (List.mem_cons_of_mem ty' hm),
      (generateForType_view strat s ty').2, Function.update_of_ne hne]

/-- Passes keep a store well formed. -/
theorem wf_runJobs {s : Store} (hs : s.WF) : ∀ order : List String, (runJobs strat s order).WF
  | [] => hs
  | ty :: rest => wf_runJobs
      ((generateForType_rel Records.composes (recordStep_generatePair strat) s ty).steps.wf hs) rest

/-- **Any schedule leaves the same store.** The passes of a list of types, run in any order,
leave the same well-formed store. -/
theorem runJobs_perm {s : Store} (hs : s.WF) {order types : List String}
    (hperm : order.Perm types) : runJobs strat s order = runJobs strat s types := by
  refine (wf_runJobs strat hs order).eq_of_view_eq (wf_runJobs strat hs types) ?_
  rw [runJobs_view, runJobs_view]
  refine hperm.foldl_eq' (fun x _ y _ c => ?_) s.view
  by_cases hxy : x = y
  · subst hxy
    rfl
  · exact jobView_comm strat c hxy

/-- In any schedule, a type's pass that has not run yet reports what it reports from the start. -/
theorem report_in_schedule (s : Store) {pre : List String} {ty : String} (h : ty ∉ pre) :
    (generateForType strat (runJobs strat s pre) ty).1 = (generateForType strat s ty).1 :=
  generateForType_report_eq strat (runJobs_view_of_not_mem strat pre s h)

/-- Over distinct types, with a token never set, the sequential pass merges, in order, the
report each type's pass gives from the start, and leaves the store the passes leave. -/
theorem generateSequential_distinct_from (s : Store) :
    ∀ (token : Token) (xs : List String) (t : Store), token.setFrom = none → xs.Nodup →
      (∀ ty ∈ xs, t.view ty = s.view ty) →
      generateSequential strat token t xs =
        (xs.foldl (fun r ty => r.merge (generateForType strat s ty).1) {}, runJobs strat t xs)
  | _, [], _, _, _, _ => rfl
  | token, ty :: rest, t, hnever, hnd, hsame => by
    obtain ⟨hnot, hrest⟩ := List.nodup_cons.mp hnd
    -- this type's pass sees the type as it was at the start
    have hreport : (generateForType strat t ty).1 = (generateForType strat s ty).1 :=
      generateForType_report_eq strat (hsame ty List.mem_cons_self)
    have hsame' : ∀ ty' ∈ rest, (generateForType strat t ty).2.view ty' = s.view ty' := by
      intro ty' hty'
      have hne : ty' ≠ ty := fun heq => hnot (heq ▸ hty')
      rw [(generateForType_view strat t ty).2, Function.update_of_ne hne]
      exact hsame ty' (List.mem_cons_of_mem ty hty')
    rw [generateSequential_cons (token.isSet_of_setFrom_none hnever), generateSequential_distinct_from s token.read.2 rest _ (by rw [Token.read_setFrom, hnever])
        hrest hsame', hreport, List.foldl_cons, foldl_merge _ rest (({} : GenerationReport).merge _),
      GenerationReport.empty_merge]
    rfl

theorem generateSequential_distinct (s : Store) {types : List String} (hnd : types.Nodup) :
    generateSequential strat {} s types =
      (types.foldl (fun r ty => r.merge (generateForType strat s ty).1) {}, runJobs strat s types) :=
  generateSequential_distinct_from strat s {} types s rfl hnd fun _ _ => rfl

/-! ### Whole runs -/

namespace Loop

variable {σ : Type} (setup : Setup) (engine : Engine.Run σ) (w : Nat)

/-- The loop passes its store's types with an uncovered pair, which are distinct. -/
theorem typesWithUncovered_nodup {s : Store} (hs : s.WF) : s.typesWithUncovered.Nodup :=
  hs.typesWithUncovered_sorted.imp fun h => ne_of_lt h

/-- The generating phase does not read the number of workers. -/
theorem generatePhase_workers (st : State σ) :
    generatePhase { setup with workers := w } st = generatePhase setup st := by
  simp only [generatePhase, generateAll_eq_generateSequential]

theorem cycle_workers (st : State σ) :
    cycle { setup with workers := w } engine st = cycle setup engine st := by
  unfold cycle
  simp only [generatePhase_workers]
  rfl

theorem runFrom_workers (fuel : Nat) (st : State σ) (done : List CycleSummary) :
    runFrom { setup with workers := w } engine fuel st done = runFrom setup engine fuel st done := by
  induction fuel generalizing st done with
  | zero =>
    rw [runFrom.eq_def setup engine, runFrom.eq_def { setup with workers := w } engine]
  | succ n ih =>
    rw [runFrom.eq_def setup engine, runFrom.eq_def { setup with workers := w } engine]
    simp only [cycle_workers, ih]

/-- **Runs do not depend on the number of workers.** -/
theorem run_workers (st : State σ) :
    run { setup with workers := w } engine st = run setup engine st := by
  unfold run
  rw [runFrom_workers]

end Loop

/-! ### The main statement -/

/-- What a pass with `t` workers over a list of types shares with the sequential pass, and with
the types' passes run at once in any order. -/
structure Parallel (t : Nat) (s : Store) (types : List String) : Prop where
  /-- The pass is the sequential one. -/
  sequential : generateAll strat t {} s types = generateSequential strat {} s types
  /-- It reports no cancellation. -/
  not_cancelled : (generateAll strat t {} s types).1.cancelled = false
  /-- Its chunks join back into the list, each type once and in order. -/
  chunks_cover : (chunks ((types.length + t - 1) / t) types).flatten = types
  /-- Over a nonempty list no chunk is empty, and there is at most one per worker. -/
  chunks_fit : types ≠ [] → (∀ c ∈ chunks ((types.length + t - 1) / t) types, c ≠ []) ∧
    (chunks ((types.length + t - 1) / t) types).length ≤ t
  /-- Its report merges, in list order, what each type's pass reports from the start. -/
  report : (generateAll strat t {} s types).1 =
    types.foldl (fun r ty => r.merge (generateForType strat s ty).1) {}
  /-- In whatever order the types' passes run, they leave the pass's store, and each reports
  what it reports from the start. -/
  schedule : ∀ order : List String, order.Perm types →
    runJobs strat s order = (generateAll strat t {} s types).2 ∧
      ∀ pre ty post, order = pre ++ ty :: post →
        (generateForType strat (runJobs strat s pre) ty).1 = (generateForType strat s ty).1

/-- **Parallel generation is sequential generation.** With one worker or more and no
cancellation, a pass over distinct types on a well-formed store is the sequential pass, in its
report and in the store it leaves, and so is any order of running the types' passes at once.
The loop passes distinct types, and a whole run does not depend on the number of workers. -/
theorem parallel_generation_matches_sequential (s : Store) (hs : s.WF) (types : List String)
    (hnd : types.Nodup) (t : Nat) (ht : 0 < t) :
    Parallel strat t s types ∧ s.typesWithUncovered.Nodup ∧
      ∀ {σ : Type} (setup : Loop.Setup) (engine : Engine.Run σ) (st : Loop.State σ),
        Loop.run { setup with workers := t } engine st = Loop.run setup engine st := by
  have hall := generateAll_eq_generateSequential strat t {} s types
  have hseq := generateSequential_distinct strat s hnd
  refine ⟨⟨hall, generateAll_cancelled t rfl s types, flatten_chunks _ types, fun hne => ?_,
    by rw [hall, hseq], fun order hperm => ⟨?_, ?_⟩⟩, Loop.typesWithUncovered_nodup hs,
    fun setup engine st => Loop.run_workers setup engine t st⟩
  case refine_1 =>
    -- chunks of `⌈n / t⌉ > 0` types
    have hsize : 0 < (types.length + t - 1) / t :=
      Nat.div_pos (by have := List.length_pos_iff.mpr hne; omega) ht
    exact ⟨fun c hc => ne_nil_of_mem_chunks hsize hc, chunks_length_le types ht hne⟩
  case refine_2 =>
    rw [hall, hseq]
    exact runJobs_perm strat hs hperm
  case refine_3 =>
    rintro pre ty post rfl
    -- the schedule lists each type once, so `ty` has not run before its turn
    have hnot : ty ∉ pre := fun hmem =>
      (List.nodup_append.mp (hperm.nodup_iff.mpr hnd)).2.2 ty hmem ty List.mem_cons_self rfl
    exact report_in_schedule strat s hnot

/-- Two workers on two types, one of them unknown to the store. -/
theorem parallel_generation_two_workers :
    let s := (({} : Store).run (.register ⟨"A", "A.F", "A.Set", "A.Get"⟩)).2
    s.WF ∧ ["A", "B"].Nodup ∧ 0 < 2 ∧
      (Parallel ⟨[], 0, 2⟩ 2 s ["A", "B"] ∧ s.typesWithUncovered.Nodup ∧
        ∀ {σ : Type} (setup : Loop.Setup) (engine : Engine.Run σ) (st : Loop.State σ),
          Loop.run { setup with workers := 2 } engine st = Loop.run setup engine st) := by
  intro s
  have hs : s.WF := Store.wf_empty.run _
  have hnd : ["A", "B"].Nodup := by decide
  exact ⟨hs, hnd, by decide,
    parallel_generation_matches_sequential ⟨[], 0, 2⟩ s hs ["A", "B"] hnd 2 (by decide)⟩

end DefUseCoverage
