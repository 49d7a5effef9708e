import Mathlib
import DefUseCoverage.Proofs.ResumeFixpoint
import DefUseCoverage.Proofs.ParallelGeneration
/-! # A run's summary accounts for its store

  The store counts, in its summary, its pairs, its covered pairs and its bodies; a run counts,
  cycle by cycle, the pairs new to the store, the pairs newly covered and the stubs emitted. The
  two agree: over a run, what the cycles count is what the store's totals grew by
  (`run_accounting_matches_store`).

  - On a well-formed store the totals count exactly the updates that succeed (`WF.totals_run`):
    an update changes the contents of one type, and each total moves by that type's change.
  - `Gains s t s'`: work from `s` to `s'` that keeps a well-formed store well formed and adds `t`
    to its totals. Gains compose, and a fold whose every step gains what it counts gains its count
    (`gains_foldl`).
  - Extraction gains the pairs it counts as new and counts every candidate as accepted or
    rejected; generation gains the stubs it emits and, unless cancelled, gives every uncovered
    pair of its types one turn; taking in a report gains the pairs and the coverage it counts.
  - A cycle gains what its summary counts (`cycle_gains`), and so does a chain of cycles, and a
    run (`run_gains`).
-/

namespace DefUseCoverage

open Coverage Metadata

namespace Coverage

/-! ### Counts added up -/

namespace Tally

/-- Counts added counter by counter. -/
def plus (a b : Tally) : Tally := ⟨a.pairs + b.pairs, a.covered + b.covered, a.puts + b.puts⟩

@[simp] theorem plus_pairs (a b : Tally) : (a.plus b).pairs = a.pairs + b.pairs := rfl
@[simp] theorem plus_covered (a b : Tally) : (a.plus b).covered = a.covered + b.covered := rfl
@[simp] theorem plus_puts (a b : Tally) : (a.plus b).puts = a.puts + b.puts := rfl

theorem ext {a b : Tally} (hp : a.pairs = b.pairs) (hc : a.covered = b.covered)
    (hb : a.puts = b.puts) : a = b := by
  cases a
  cases b
  simp_all

@[simp] theorem plus_empty (a : Tally) : a.plus {} = a := ext rfl rfl rfl

@[simp] theorem empty_plus (a : Tally) : ({} : Tally).plus a = a :=
  ext (Nat.zero_add _) (Nat.zero_add _) (Nat.zero_add _)

theorem plus_assoc (a b c : Tally) : (a.plus b).plus c = a.plus (b.plus c) :=
  ext (Nat.add_assoc _ _ _) (Nat.add_assoc _ _ _) (Nat.add_assoc _ _ _)

end Tally

/-- The counts of one successful update: a register adds a pair, a mark a covered pair, a record
a body. -/
def Update.tally (u : Update) : Tally := ({} : Tally).add u

/-- The counts of one type's contents: its pairs, its covered pairs, its bodies. -/
def Partition.counts (part : Partition) : Tally :=
  ⟨part.pairs.length, (part.pairs.filter (·.2 == .covered)).length, part.puts.length⟩

@[simp] theorem Partition.counts_empty : ({} : Partition).counts = {} := rfl

namespace Store

/-- The sum of a count over the contents of the known types. -/
def total (k : Partition → Nat) (s : Store) : Nat := (s.types.map fun ty => k (s.view ty)).sum

/-- The totals of a store's summary: registered pairs, covered pairs, recorded bodies. -/
def totals (s : Store) : Tally :=
  ⟨totalPairs s.summary, totalCovered s.summary, totalPuts s.summary⟩

/-- A well-formed store's totals sum the counts of its types' contents. -/
theorem WF.totals_eq {s : Store} (hs : s.WF) :
    s.totals = ⟨s.total (·.counts.pairs), s.total (·.counts.covered), s.total (·.counts.puts)⟩ := by
  simp only [totals, hs.summary_eq, totalPairs, totalCovered, totalPuts, List.map_map,
    ← List.sum_eq_foldl_nat]
  rfl

/-- A type that is not known has no contents. -/
theorem WF.view_eq_empty {s : Store} (hs : s.WF) {ty : String} (hty : ty ∉ s.types) :
    s.view ty = {} := by
  have hnone : (s.view ty).pairs = [] ∧ (s.view ty).puts = [] := by
    simpa [not_or] using (hs.mem_types ty).not.mp hty
  cases hv : s.view ty
  simp_all

/-- The total of a count that is zero on no contents is its sum over any set of types holding
the known ones. -/
theorem WF.total_eq_sum {s : Store} (hs : s.WF) {k : Partition → Nat} (hk : k {} = 0)
    {S : Finset String} (hS : ∀ ty ∈ s.types, ty ∈ S) : s.total k = ∑ ty ∈ S, k (s.view ty) := by
  rw [total, ← List.sum_toFinset _ (hs.sorted.imp ne_of_lt)]
  refine Finset.sum_subset (fun ty hty => hS ty (List.mem_toFinset.mp hty)) fun ty _ hty => ?_
  rw [hs.view_eq_empty fun h => hty (List.mem_toFinset.mpr h), hk]

/-- Changing the contents of one type moves the total of a count by that type's change. -/
theorem WF.total_update {s s' : Store} (hs : s.WF) (hs' : s'.WF) {ty : String} {q : Partition}
    (hv : s'.view = Function.update s.view ty q) {k : Partition → Nat} (hk : k {} = 0) :
    s'.total k + k (s.view ty) = s.total k + k q := by
  -- both totals are sums over the known types of `s` and `ty`
  let S := insert ty s.types.toFinset
  have hty : ty ∈ S := Finset.mem_insert_self ty _
  have hS : ∀ t ∈ s.types, t ∈ S := fun t ht => Finset.mem_insert_of_mem (List.mem_toFinset.mpr ht)
  have hS' : ∀ t ∈ s'.types, t ∈ S := by
    intro t ht
    by_cases htq : t = ty
    · exact htq ▸ hty
    · have hsame : s'.view t = s.view t := by rw [hv, Function.update_of_ne htq]
      refine Finset.mem_insert_of_mem (List.mem_toFinset.mpr ((hs.mem_types t).mpr ?_))
      rw [← hsame]
      exact (hs'.mem_types t).mp ht
  -- away from `ty` the two stores agree
  have hrest : ∑ t ∈ S.erase ty, k (s'.view t) = ∑ t ∈ S.erase ty, k (s.view t) :=
    Finset.sum_congr rfl fun t ht => by rw [hv, Function.update_of_ne (Finset.ne_of_mem_erase ht)]
  rw [hs.total_eq_sum hk hS, hs'.total_eq_sum hk hS', ← Finset.add_sum_erase S _ hty,
    ← Finset.add_sum_erase S (fun t => k (s.view t)) hty, hrest, hv, Function.update_self]
  omega

/-- An accepted update adds one of its kind to the counts of its type. -/
theorem counts_change {c : Contents} {u : Update} (hd : ((c u.type).pairs.map (·.1)).Nodup)
    (hacc : c.accepts u = true) : (u.change (c u.type)).counts = (c u.type).counts.plus u.tally := by
  cases u with
  | register p =>
    simp [Update.change, Update.type, Update.tally, Partition.counts, Tally.add, Tally.plus]
  | markCovered p =>
    -- the marked pair is there once, uncovered
    have hd' : ((c p.declaringType).pairs.map (·.1)).Nodup := hd
    have hmem := mem_of_accepts_markCovered hd' hacc
    simp [Update.change, Update.type, Update.tally, Partition.counts, Tally.add, Tally.plus,
      covered_count_cover hd' hmem]
  | recordPut ty body =>
    simp [Update.change, Update.type, Update.tally, Partition.counts, Tally.add, Tally.plus]

/-- On a well-formed store, the totals count exactly the updates that succeed. -/
theorem WF.totals_run {s : Store} (hs : s.WF) (u : Update) :
    (s.run u).2.totals = if (s.run u).1 then s.totals.plus u.tally else s.totals := by
  cases hacc : s.view.accepts u
  · rw [hs.run_of_refused hacc]
    rfl
  · obtain ⟨hanswer, hview⟩ := hs.run_view u
    have hv : (s.run u).2.view = Function.update s.view u.type (u.change (s.view u.type)) := by
      rw [hview, Contents.update, hacc, if_pos rfl]
    have hs' := hs.run u
    have hcounts := counts_change (hs.pairs_nodup u.type) hacc
    -- each counter of the totals moves by the change of the update's type
    have hp := hs.total_update hs' hv (k := (·.counts.pairs)) rfl
    have hc := hs.total_update hs' hv (k := (·.counts.covered)) rfl
    have hb := hs.total_update hs' hv (k := (·.counts.puts)) rfl
    simp only [hcounts, Tally.plus_pairs, Tally.plus_covered, Tally.plus_puts] at hp hc hb
    rw [hanswer, hacc, if_pos rfl, hs.totals_eq, hs'.totals_eq]
    exact Tally.ext (by simp only [Tally.plus_pairs]; omega)
      (by simp only [Tally.plus_covered]; omega) (by simp only [Tally.plus_puts]; omega)

/-- Recording a body leaves the uncovered pairs of every type. -/
theorem uncovered_recordPut (s : Store) (ty body ty' : String) :
    (s.recordPut ty body).2.uncovered ty' = s.uncovered ty' := by
  rw [uncovered_eq_view, uncovered_eq_view]
  change (s.run (.recordPut ty body)).2.view.uncovered ty' = _
  rw [(run_recordPut s ty body).2]
  unfold Contents.update
  split
  · by_cases h : ty' = ty
    · subst h
      simp [Contents.uncovered, Update.type, Update.change]
    · simp [Contents.uncovered, Update.type, Function.update_of_ne h]
  · rfl

/-! ### Work that adds to the totals -/

/-- `s'` is `s` after work that keeps a well-formed store well formed and adds `t` to its
totals. -/
def Gains (s : Store) (t : Tally) (s' : Store) : Prop :=
  s.WF → s'.WF ∧ s'.totals = s.totals.plus t

theorem Gains.refl (s : Store) : Gains s {} s :=
  fun hs => ⟨hs, (Tally.plus_empty _).symm⟩

theorem Gains.trans {s s₁ s₂ : Store} {t₁ t₂ : Tally} (h₁ : Gains s t₁ s₁) (h₂ : Gains s₁ t₂ s₂) :
    Gains s (t₁.plus t₂) s₂ := fun hs => by
  obtain ⟨hs₁, ht₁⟩ := h₁ hs
  obtain ⟨hs₂, ht₂⟩ := h₂ hs₁
  exact ⟨hs₂, by rw [ht₂, ht₁, Tally.plus_assoc]⟩

/-- Gains are read as equal tallies. -/
theorem Gains.congr {s s' : Store} {t t' : Tally} (h : Gains s t s') (ht : t = t') :
    Gains s t' s' := ht ▸ h

/-- An update gains one of its kind when it succeeds, and nothing otherwise. -/
theorem gains_run (s : Store) (u : Update) :
    Gains s (if (s.run u).1 then u.tally else {}) (s.run u).2 := fun hs => by
  refine ⟨hs.run u, ?_⟩
  rw [hs.totals_run u]
  split
  · rfl
  · exact (Tally.plus_empty _).symm

theorem gains_register (s : Store) (p : Pair) :
    Gains s ⟨if (s.register p).1 then 1 else 0, 0, 0⟩ (s.register p).2 :=
  (gains_run s (.register p)).congr <| by
    change (if (s.register p).1 then _ else ({} : Tally)) = _
    cases (s.register p).1 <;> rfl

theorem gains_markCovered (s : Store) (p : Pair) :
    Gains s ⟨0, if (s.markCovered p).1 then 1 else 0, 0⟩ (s.markCovered p).2 :=
  (gains_run s (.markCovered p)).congr <| by
    change (if (s.markCovered p).1 then _ else ({} : Tally)) = _
    cases (s.markCovered p).1 <;> rfl

/-- Recording a body not recorded yet gains one body. -/
theorem gains_recordPut {s : Store} {ty body : String} (h : s.hasPut ty body = false) :
    Gains s ⟨0, 0, 1⟩ (s.recordPut ty body).2 := by
  have hnew : (s.run (.recordPut ty body)).1 = true := by
    rw [(run_recordPut s ty body).1, Contents.accepts, ← hasPut_eq_view, h]
    rfl
  refine (gains_run s (.recordPut ty body)).congr ?_
  rw [hnew, if_pos rfl]
  rfl

/-- A fold whose every step adds to a count what it gains in the store gains, over the whole
fold, what it adds to the count. -/
theorem gains_foldl_plus {α β : Type} (f : β × Store → α → β × Store) (k : β → Tally)
    (hf : ∀ b s a, ∃ t, k (f (b, s) a).1 = (k b).plus t ∧ Gains s t (f (b, s) a).2) :
    ∀ (l : List α) (b : β) (s : Store),
      ∃ t, k (l.foldl f (b, s)).1 = (k b).plus t ∧ Gains s t (l.foldl f (b, s)).2
  | [], b, s => ⟨{}, (Tally.plus_empty _).symm, Gains.refl s⟩
  | a :: rest, b, s => by
    obtain ⟨t₁, hk₁, hg₁⟩ := hf b s a
    obtain ⟨t₂, hk₂, hg₂⟩ := gains_foldl_plus f k hf rest (f (b, s) a).1 (f (b, s) a).2
    simp only [Prod.mk.eta] at hk₂ hg₂
    refine ⟨t₁.plus t₂, ?_, hg₁.trans hg₂⟩
    rw [List.foldl_cons, hk₂, hk₁, Tally.plus_assoc]

/-- A fold from an empty count that gains step by step what it counts gains its count. -/
theorem gains_foldl {α β : Type} (f : β × Store → α → β × Store) (k : β → Tally)
    (hf : ∀ b s a, ∃ t, k (f (b, s) a).1 = (k b).plus t ∧ Gains s t (f (b, s) a).2)
    (l : List α) {b : β} (hb : k b = {}) (s : Store) :
    Gains s (k (l.foldl f (b, s)).1) (l.foldl f (b, s)).2 := by
  obtain ⟨t, hk, hg⟩ := gains_foldl_plus f k hf l b s
  rw [hb, Tally.empty_plus] at hk
  exact hg.congr hk.symm

end Store

end Coverage

/-! ### Generation gains what it emits and gives every uncovered pair one turn -/

open Coverage.Store (Gains Steps)

section Generation

variable {strat : Template.Strategy}

/-- One pair's turn gains, in bodies, what it emits. -/
theorem gainsStep_generatePair (ty : String) :
    PassStep (fun s out s' => Gains s ⟨0, 0, out.length⟩ s') (generatePair strat ty) := by
  intro r s p
  unfold generatePair
  cases strat.generate p with
  | error e => exact ⟨[], by simp, Gains.refl s⟩
  | ok body =>
    by_cases h : s.hasPut ty body = true
    · exact ⟨[], by simp [h], by simpa [h] using Gains.refl s⟩
    · refine ⟨[⟨ty, body, p⟩], by simp [h], ?_⟩
      simpa [h] using Coverage.Store.gains_recordPut (Bool.eq_false_iff.mpr h)

/-- Gaining what is emitted composes. -/
theorem gainsPuts_composes : Composes (fun s out s' => Gains s ⟨0, 0, out.length⟩ s') where
  refl s := Gains.refl s
  trans h₁ h₂ := (h₁.trans h₂).congr (Coverage.Tally.ext rfl rfl (List.length_append ..).symm)

/-- A pass with any number of workers gains, in bodies, exactly the stubs it emits. -/
theorem generateAll_gains (workers : Nat) (token : Token) (s : Store) (types : List String) :
    Gains s ⟨0, 0, (generateAll strat workers token s types).1.emitted.length⟩
      (generateAll strat workers token s types).2 :=
  generateAll_rel gainsPuts_composes
    (generateForType_rel gainsPuts_composes gainsStep_generatePair) workers token s types

/-- Pairs a report has given their turn: a stub emitted, a duplicate skipped, or a failure. -/
def GenerationReport.turns (r : GenerationReport) : Nat :=
  r.emitted.length + r.skippedDuplicates + r.failures

@[simp] theorem GenerationReport.turns_empty : ({} : GenerationReport).turns = 0 := rfl

theorem GenerationReport.turns_merge (a b : GenerationReport) :
    (a.merge b).turns = a.turns + b.turns := by
  simp only [turns, merge, List.length_append]
  omega

/-- One pair's turn is one more turn. -/
theorem generatePair_turns (ty : String) (acc : GenerationReport × Store) (p : Pair) :
    (generatePair strat ty acc p).1.turns = acc.1.turns + 1 := by
  obtain ⟨r, s⟩ := acc
  unfold generatePair GenerationReport.turns
  cases strat.generate p with
  | error e => simp only; omega
  | ok body =>
    dsimp only
    split
    · simp only; omega
    · simp only [List.length_append, List.length_singleton]; omega

theorem foldl_generatePair_turns (ty : String) :
    ∀ (ps : List Pair) (acc : GenerationReport × Store),
      (ps.foldl (generatePair strat ty) acc).1.turns = acc.1.turns + ps.length
  | [], _ => rfl
  | p :: rest, acc => by
    rw [List.foldl_cons, foldl_generatePair_turns ty rest, generatePair_turns, List.length_cons]
    omega

/-- A pass over a type gives each of its uncovered pairs one turn. -/
theorem generateForType_turns (s : Store) (ty : String) :
    (generateForType strat s ty).1.turns = (s.uncovered ty).length :=
  (foldl_generatePair_turns ty _ _).trans (Nat.zero_add _)

/-- Recording keeps the uncovered pairs of every type. -/
theorem Records.uncovered {s s' : Store} {out : List PutRecord} (h : Records s out s') :
    s'.uncovered = s.uncovered := by
  have hsteps : Steps (fun u => ∃ r : PutRecord, u = r.record) s s' :=
    ⟨out.map PutRecord.record, by simp, h⟩
  refine Steps.keep (I := fun t => t.uncovered = s.uncovered) ?_ hsteps rfl
  rintro t _ ⟨r, rfl⟩ ht
  exact (funext (Coverage.Store.uncovered_recordPut t r.declaringType r.body)).trans ht

/-- A pass over a type keeps the uncovered pairs of every type. -/
theorem generateForType_uncovered (s : Store) (ty : String) :
    (generateForType strat s ty).2.uncovered = s.uncovered :=
  (generateForType_rel Records.composes (recordStep_generatePair strat) s ty).uncovered

/-- A pass over a list of types that is not cancelled gives every uncovered pair of those types
one turn: it visited every type, each from a store with the uncovered pairs it started with. -/
theorem generateSequential_turns : ∀ (token : Token) (s : Store) (types : List String),
    (generateSequential strat token s types).1.cancelled = false →
      (generateSequential strat token s types).1.turns =
        (types.map fun ty => (s.uncovered ty).length).sum
  | _, _, [], _ => rfl
  | token, s, ty :: rest, hc => by
    obtain ⟨hset, hrest⟩ := generateSequential_cons_uncancelled hc
    rw [generateSequential_cons hset, GenerationReport.turns_merge, generateForType_turns,
      generateSequential_turns token.read.2 _ rest hrest, generateForType_uncovered,
      List.map_cons, List.sum_cons]

/-- A pass with any number of workers that is not cancelled gives every uncovered pair of its
types one turn. -/
theorem generateAll_turns (workers : Nat) (token : Token) (s : Store) (types : List String)
    (hc : (generateAll strat workers token s types).1.cancelled = false) :
    (generateAll strat workers token s types).1.turns =
      (types.map fun ty => (s.uncovered ty).length).sum := by
  rw [generateAll_eq_generateSequential] at hc ⊢
  exact generateSequential_turns token s types hc

end Generation

namespace Loop

/-! ### Extraction counts every candidate once and gains the pairs it counts as new -/

/-- A candidate's turn counts it as accepted or rejected, and leaves the count of candidates. -/
theorem extractStep_counted (views : Views) (acc : Extraction × Store) (c : Candidate) :
    (extractStep views acc c).1.candidates = acc.1.candidates ∧
      (extractStep views acc c).1.accepted + (extractStep views acc c).1.rejected =
        acc.1.accepted + acc.1.rejected + 1 := by
  obtain ⟨e, s⟩ := acc
  unfold extractStep
  cases views.extract c with
  | ok p =>
    dsimp only
    exact ⟨rfl, by omega⟩
  | error err =>
    dsimp only
    exact ⟨rfl, by omega⟩

theorem foldl_extractStep_counted (views : Views) :
    ∀ (cs : List Candidate) (acc : Extraction × Store),
      (cs.foldl (extractStep views) acc).1.candidates = acc.1.candidates ∧
        (cs.foldl (extractStep views) acc).1.accepted + (cs.foldl (extractStep views) acc).1.rejected =
          acc.1.accepted + acc.1.rejected + cs.length
  | [], _ => ⟨rfl, rfl⟩
  | c :: rest, acc => by
    obtain ⟨hc, hn⟩ := foldl_extractStep_counted views rest (extractStep views acc c)
    obtain ⟨hc₁, hn₁⟩ := extractStep_counted views acc c
    rw [List.foldl_cons, hc, hc₁, hn, hn₁, List.length_cons]
    exact ⟨rfl, by omega⟩

/-- Every candidate listed is accepted or rejected. -/
theorem extractAll_counted (views : Views) (store : Store) (cs : List Candidate) :
    (extractAll views store cs).1.candidates =
      (extractAll views store cs).1.accepted + (extractAll views store cs).1.rejected := by
  obtain ⟨hc, hn⟩ := foldl_extractStep_counted views cs ({ candidates := cs.length }, store)
  rw [extractAll_eq_foldl, hc, hn]
  exact (Nat.zero_add _).symm

/-- Extraction gains, in pairs, exactly those it counts as new. -/
theorem extractAll_gains (views : Views) (store : Store) (cs : List Candidate) :
    Gains store ⟨(extractAll views store cs).1.newPairs, 0, 0⟩ (extractAll views store cs).2 := by
  rw [extractAll_eq_foldl]
  refine Coverage.Store.gains_foldl _ (fun e : Extraction => ⟨e.newPairs, 0, 0⟩) ?_ cs rfl store
  intro e s c
  unfold extractStep
  cases views.extract c with
  | ok p =>
    exact ⟨_, rfl, Coverage.Store.gains_register s p⟩
  | error err => exact ⟨{}, rfl, Gains.refl s⟩

/-- Taking in a report gains exactly the pairs and the coverage it counts. -/
theorem ingest_gains (views : Views) (store : Store) (report : Report) :
    Gains store ⟨(ingest views store report).1.newPairs, (ingest views store report).1.newlyCovered, 0⟩
      (ingest views store report).2.2 := by
  unfold ingest
  dsimp only
  refine Coverage.Store.gains_foldl _ (fun n : Intake => ⟨n.newPairs, n.newlyCovered, 0⟩) ?_ _ rfl
    store
  intro n s c
  dsimp only
  split
  · next p _ =>
    -- the pair is registered, then marked
    exact ⟨_, Coverage.Tally.ext rfl (by simp) rfl, (Coverage.Store.gains_register s p).trans
      (Coverage.Store.gains_markCovered (s.register p).2 p)⟩
  · exact ⟨{}, rfl, Gains.refl s⟩

variable {σ : Type}

/-! ### A cycle gains what its summary counts -/

section Deliver

variable (setup : Setup) (engine : Engine.Run σ) (batch : List PutRecord)
  (summary : CycleSummary) (st : State σ)

/-- Delivering changes the summary only in what taking in a report counts and in the engine's
outcome; from a summary with no coverage yet, it gains in the store the pairs it adds to the
summary and the coverage it counts. -/
theorem deliver_gains (hz : summary.newlyCovered = 0) :
    ∃ n c r o, (deliver setup engine batch summary st).1 =
        { summary with newPairs := summary.newPairs + n, newlyCovered := c, reportRejected := r,
                       engine := o } ∧
      Gains st.store ⟨n, c, 0⟩ (deliver setup engine batch summary st).2.store := by
  rcases deliver_cases setup engine batch summary st with
    ⟨-, h⟩ | ⟨_, report, -, -, h⟩ | ⟨_, f, -, -, h⟩ <;> rw [h]
  · exact ⟨0, _, _, _, rfl, (Gains.refl _).congr (by rw [hz])⟩
  · exact ⟨_, _, _, _, rfl, ingest_gains _ _ _⟩
  · exact ⟨0, _, _, _, rfl, (Gains.refl _).congr (by rw [hz])⟩

end Deliver

section Cycle

variable (setup : Setup) (engine : Engine.Run σ) (st : State σ)

theorem extracted_gains :
    Gains st.store ⟨(extractPhase setup st).1.newPairs, 0, 0⟩ (extractPhase setup st).2.store :=
  extractAll_gains _ _ _

theorem generated_gains :
    Gains (extractPhase setup st).2.store ⟨0, 0, (emittedIn setup st).length⟩
      (generated setup st).2.store :=
  generateAll_gains _ _ _ _

/-- A cycle's summary is the one it had before delivering, with what delivering counts. -/
theorem cycle_summary_eq : ∃ n c r o, (cycle setup engine st).1 =
    { summaryIn setup st with newPairs := (summaryIn setup st).newPairs + n, newlyCovered := c,
                              reportRejected := r, engine := o } ∧
      Gains (generated setup st).2.store ⟨n, c, 0⟩ (cycle setup engine st).2.store := by
  obtain ⟨n, c, r, o, hsum, hdel⟩ :=
    deliver_gains setup engine (batchIn setup st) (summaryIn setup st) (awaiting setup st) rfl
  refine ⟨n, c, r, o, ?_, ?_⟩
  · rw [(cycle_cases setup engine st).1, hsum]
  · rw [(cycle_delivers setup engine st).1]
    exact hdel

/-- A cycle gains in the store the pairs its summary counts as new, the pairs it counts as newly
covered and the stubs it counts as emitted. -/
theorem cycle_gains :
    Gains st.store ⟨(cycle setup engine st).1.newPairs, (cycle setup engine st).1.newlyCovered,
      (cycle setup engine st).1.putsEmitted⟩ (cycle setup engine st).2.store := by
  obtain ⟨n, c, r, o, hsum, hdel⟩ := cycle_summary_eq setup engine st
  rw [hsum]
  refine (((extracted_gains setup st).trans (generated_gains setup st)).trans hdel).congr ?_
  exact Coverage.Tally.ext (by simp [summaryIn]) (by simp) (by simp [summaryIn])

/-- Every candidate a cycle lists is accepted or rejected. -/
theorem cycle_candidates :
    (cycle setup engine st).1.candidates =
      (cycle setup engine st).1.accepted + (cycle setup engine st).1.rejected := by
  obtain ⟨n, c, r, o, hsum, -⟩ := cycle_summary_eq setup engine st
  rw [hsum]
  exact extractAll_counted _ _ _

/-- A cycle whose generation is not cancelled gives every uncovered pair of the store it
generates from one turn: a stub emitted, a duplicate skipped, or a failure. -/
theorem cycle_turns (hc : (generated setup st).1.cancelled = false) :
    (cycle setup engine st).1.putsEmitted + (cycle setup engine st).1.putsSkipped +
        (cycle setup engine st).1.generationFailures =
      ((extractPhase setup st).2.store.typesWithUncovered.map fun ty =>
        ((extractPhase setup st).2.store.uncovered ty).length).sum := by
  obtain ⟨n, c, r, o, hsum, -⟩ := cycle_summary_eq setup engine st
  rw [hsum]
  exact generateAll_turns _ _ _ _ hc

end Cycle

/-! ### A run gains what its cycles count -/

/-- What a list of cycles counted in all: pairs new to the store, pairs newly covered, stubs
emitted. -/
def counted (cs : List CycleSummary) : Coverage.Tally :=
  ⟨(cs.map (·.newPairs)).sum, (cs.map (·.newlyCovered)).sum, (cs.map (·.putsEmitted)).sum⟩

@[simp] theorem counted_nil : counted [] = {} := rfl

theorem counted_cons (c : CycleSummary) (cs : List CycleSummary) :
    counted (c :: cs) = Coverage.Tally.plus ⟨c.newPairs, c.newlyCovered, c.putsEmitted⟩ (counted cs) :=
  rfl

section Chain

variable (setup : Setup) (engine : Engine.Run σ)

/-- Along a chain of cycles, the store gains what the cycles count. -/
theorem chain_gains : ∀ {st : State σ} {starts : List (State σ)} {s : State σ},
    CycleChain setup engine st starts → starts.getLast? = some s →
      Gains st.store (counted (starts.map fun s => (cycle setup engine s).1))
        (cycle setup engine s).2.store
  | _, [], _, _, hlast => by simp at hlast
  | st, s₀ :: rest, s, ⟨_, hs₀, hchain⟩, hlast => by
    subst hs₀
    rw [List.map_cons, counted_cons]
    -- the cycle starts once the token is read, which leaves the store
    cases rest with
    | nil =>
      obtain rfl : st.afterRead = s := by simpa using hlast
      rw [List.map_nil, counted_nil, Coverage.Tally.plus_empty]
      exact cycle_gains setup engine st.afterRead
    | cons s₁ more =>
      exact (cycle_gains setup engine st.afterRead).trans (chain_gains hchain (by simpa using hlast))

/-- A run gains in the store what its cycles count, the cycles starting from a chain of states
from the loop it starts from. -/
theorem run_gains (st : State σ) :
    ∃ starts : List (State σ), CycleChain setup engine st starts ∧
      (run setup engine st).1.cycles = starts.map (fun s => (cycle setup engine s).1) ∧
      Gains st.store (counted (run setup engine st).1.cycles) (run setup engine st).2.store := by
  cases ht : st.termination with
  | some r =>
    -- a loop that has stopped runs no cycle and keeps its store
    have hrun := runFrom_of_termination setup engine ht (setup.settings.maxCycles - st.cyclesRun) []
    refine ⟨[], trivial, by rw [run_cycles, hrun]; rfl, ?_⟩
    rw [run_cycles, run_snd, hrun]
    exact Gains.refl _
  | none =>
    obtain ⟨starts, hchain, hout, -, hend⟩ :=
      runFrom_trace setup engine (setup.settings.maxCycles - st.cyclesRun) st [] ht (by omega)
    have hcycles : (run setup engine st).1.cycles = starts.map fun s => (cycle setup engine s).1 := by
      rw [run_cycles, hout, List.nil_append]
    refine ⟨starts, hchain, hcycles, ?_⟩
    rw [hcycles, run_snd]
    rcases hend with ⟨rfl, -, hfinal⟩ | ⟨pre, s, rfl, -, ⟨r, -, hfinal⟩ | ⟨-, -, hfinal⟩⟩
    · rw [hfinal, State.terminate_store, State.afterRead_store]
      exact Gains.refl _
    · rw [hfinal, State.terminate_store, saved_store, ← (cycle_delivers setup engine s).1]
      exact chain_gains setup engine hchain (by simp)
    · rw [hfinal, State.terminate_store, State.afterRead_store]
      exact chain_gains setup engine hchain (by simp)

end Chain

/-- **A run's summary accounts for its store.** For every loop whose store is well formed, every
engine and all settings: over the cycles of a run, the pairs counted as new, the stubs counted as
emitted and the pairs counted as newly covered add up to what the store's totals of pairs, bodies
and covered pairs grew by; the cycles start from a chain of states from the loop, and in each of
them every candidate listed is accepted or rejected, and, unless its generation was cancelled,
the stubs emitted, the duplicates skipped and the failures of the strategy add up to the
uncovered pairs of the types with one, in the store generation starts from. -/
theorem run_accounting_matches_store (setup : Setup) (engine : Engine.Run σ) (st : State σ)
    (hs : st.store.WF) :
    let r := (run setup engine st).1
    totalPairs r.store = totalPairs st.store.summary + (r.cycles.map (·.newPairs)).sum ∧
      totalPuts r.store = totalPuts st.store.summary + (r.cycles.map (·.putsEmitted)).sum ∧
      totalCovered r.store = totalCovered st.store.summary + (r.cycles.map (·.newlyCovered)).sum ∧
      ∃ starts : List (State σ), CycleChain setup engine st starts ∧
        r.cycles = starts.map (fun s => (cycle setup engine s).1) ∧
        ∀ s ∈ starts,
          (cycle setup engine s).1.candidates =
            (cycle setup engine s).1.accepted + (cycle setup engine s).1.rejected ∧
          ((generated setup s).1.cancelled = false →
            (cycle setup engine s).1.putsEmitted + (cycle setup engine s).1.putsSkipped +
                (cycle setup engine s).1.generationFailures =
              ((extractPhase setup s).2.store.typesWithUncovered.map fun ty =>
                ((extractPhase setup s).2.store.uncovered ty).length).sum) := by
  intro r
  obtain ⟨starts, hchain, hcycles, hgains⟩ := run_gains setup engine st
  obtain ⟨-, htotals⟩ := hgains hs
  refine ⟨congrArg Coverage.Tally.pairs htotals, congrArg Coverage.Tally.puts htotals,
    congrArg Coverage.Tally.covered htotals, starts, hchain, hcycles, fun s _ => ?_⟩
  exact ⟨cycle_candidates setup engine s, cycle_turns setup engine s⟩

/-- A loop over a store with one uncovered pair, whose engine reports nothing: its run accounts
for its store. -/
theorem one_pair_run_accounts_for_store :
    let setup : Setup := { settings := { maxCycles := 1000 }, strategy := ⟨[], 0, 2⟩ }
    let engine : Engine.Run Unit := fun _ _ _ ws => ⟨.ok {}, (), ws, false⟩
    let st := State.new (({} : Store).register ⟨"T", "T.F", "T.Set", "T.Get"⟩).2 ⟨{}, {}, .static⟩
      Workspace.initial ()
    let r := (run setup engine st).1
    st.store.WF ∧
      totalPairs r.store = totalPairs st.store.summary + (r.cycles.map (·.newPairs)).sum ∧
      totalPuts r.store = totalPuts st.store.summary + (r.cycles.map (·.putsEmitted)).sum ∧
      totalCovered r.store = totalCovered st.store.summary + (r.cycles.map (·.newlyCovered)).sum ∧
      ∃ starts : List (State Unit), CycleChain setup engine st starts ∧
        r.cycles = starts.map (fun s => (cycle setup engine s).1) ∧
        ∀ s ∈ starts,
          (cycle setup engine s).1.candidates =
            (cycle setup engine s).1.accepted + (cycle setup engine s).1.rejected ∧
          ((generated setup s).1.cancelled = false →
            (cycle setup engine s).1.putsEmitted + (cycle setup engine s).1.putsSkipped +
                (cycle setup engine s).1.generationFailures =
              ((extractPhase setup s).2.store.typesWithUncovered.map fun ty =>
                ((extractPhase setup s).2.store.uncovered ty).length).sum) :=
  have hwf := Store.wf_empty.run (.register ⟨"T", "T.F", "T.Set", "T.Get"⟩)
  ⟨hwf, run_accounting_matches_store _ _ _ hwf⟩

end Loop

end DefUseCoverage
