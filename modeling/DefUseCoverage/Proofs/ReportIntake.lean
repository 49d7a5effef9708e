import DefUseCoverage.Proofs.CycleEffects
/-! # Taking in a coverage report

  A report from a successful engine run names the fields and methods it observed and the triples
  it saw covered. Taking it in first observes every entity into the dynamic view, and only then
  turns each covered triple into a pair under the views so extended: a triple that forms a pair
  has the pair registered if it was not and marked covered; any other triple is rejected.

  - A triple's turn (`intakeStep`) on a well-formed store covers its pair and leaves every other
    pair's status (`intakeStep_of_ok`), counting the pair as new when it was not registered and as
    newly covered when it was not covered.
  - Over the triples, the statuses after are covered for the pairs the triples form and as before
    for every other pair (`WF.foldl_intakeStep_statusOf`). A pair formed twice counts once: after
    its first turn it is registered and covered, so the counts are those of the distinct pairs
    (`card_filter_cons`); both counts are cases of one lemma (`WF.foldl_intakeStep_count`).

  Main statement: `ingest_covers_accepted`.
-/

namespace DefUseCoverage

open Coverage Metadata

/-! ### Counting distinct pairs -/

/-- Distinct pairs with a property, counted over a list with a first pair: the first counts when
it has the property, and the rest count under a property that drops the first pair and keeps
every other. -/
theorem card_filter_cons {P P' : Pair → Prop} [DecidablePred P] [DecidablePred P'] (p : Pair)
    (L : List Pair) (h : ∀ q, P' q ↔ P q ∧ q ≠ p) :
    ((p :: L).toFinset.filter P).card = (if P p then 1 else 0) + (L.toFinset.filter P').card := by
  have hrest : L.toFinset.filter P' = (L.toFinset.filter P).erase p := by
    ext q
    simp only [Finset.mem_filter, List.mem_toFinset, Finset.mem_erase, h]
    tauto
  rw [List.toFinset_cons, Finset.filter_insert, hrest]
  by_cases hp : P p
  · -- the first pair is counted once, whether or not it comes again
    rw [if_pos hp, if_pos hp, Finset.card_insert_eq_ite, Finset.card_erase_eq_ite]
    by_cases hm : p ∈ L.toFinset.filter P
    · have hpos : 0 < (L.toFinset.filter P).card := Finset.card_pos.mpr ⟨p, hm⟩
      rw [if_pos hm, if_pos hm]
      omega
    · rw [if_neg hm, if_neg hm]
      omega
  · have hm : p ∉ L.toFinset.filter P := fun hm => hp (Finset.mem_filter.mp hm).2
    rw [if_neg hp, if_neg hp, Finset.erase_eq_of_notMem hm, Nat.zero_add]

/-! ### The views a report is read against -/

/-- The views after observing entities, one after another, into the dynamic view. -/
def Metadata.Views.observing (views : Views) (os : List Observed) : Views :=
  { views with dynamic := os.foldl (fun db o => (db.observe o).2) views.dynamic }

namespace Loop

/-- The pairs that covered triples form under the views, in order, repeats kept. -/
def acceptedPairs (views : Views) (covered : List Candidate) : List Pair :=
  covered.filterMap fun c => (views.extract c).toOption

/-- The covered triples that form no pair under the views. -/
def rejectedTriples (views : Views) (covered : List Candidate) : List Candidate :=
  covered.filter fun c => (views.extract c).toOption.isNone

/-- One covered triple's turn of taking in a report: a triple that forms a pair has it registered
and marked covered; any other is counted as rejected. -/
def intakeStep (views : Views) : Intake × Store → Candidate → Intake × Store :=
  fun (n, s) c =>
    match views.extract c with
    | .ok p =>
      let (isNew, s) := s.register p
      let (nowCovered, s) := s.markCovered p
      ({ n with newPairs := n.newPairs + (if isNew then 1 else 0),
                newlyCovered := n.newlyCovered + (if nowCovered then 1 else 0) }, s)
    | .error _ => ({ n with rejected := n.rejected + 1 }, s)

/-- Taking in a report observes its entities, then folds the triples' turns against the views so
extended. -/
theorem ingest_eq (views : Views) (store : Store) (report : Report) :
    ingest views store report =
      ((report.covered.foldl (intakeStep (views.observing report.observed)) ({}, store)).1,
        views.observing report.observed,
        (report.covered.foldl (intakeStep (views.observing report.observed)) ({}, store)).2) :=
  rfl

/-! ### A triple's turn -/

section Step

variable {views : Views} {c : Candidate}

theorem intakeStep_of_error {err : Rejection} (h : views.extract c = .error err) (n : Intake)
    (s : Store) : intakeStep views (n, s) c = ({ n with rejected := n.rejected + 1 }, s) := by
  unfold intakeStep
  simp only [h]

/-- A triple that forms a pair covers it and leaves every other pair's status, and counts the
pair as new when it was not registered and as newly covered when it was not covered. -/
theorem intakeStep_of_ok {p : Pair} (h : views.extract c = .ok p) (n : Intake) {s : Store}
    (hs : s.WF) :
    (intakeStep views (n, s) c).1 =
        { n with newPairs := n.newPairs + (if s.statusOf p = none then 1 else 0),
                 newlyCovered := n.newlyCovered + (if s.statusOf p ≠ some .covered then 1 else 0) } ∧
      (intakeStep views (n, s) c).2.WF ∧
      ∀ q, (intakeStep views (n, s) c).2.statusOf q = if q = p then some .covered else s.statusOf q := by
  have hs₁ : (s.register p).2.WF := hs.run (.register p)
  -- registering answers whether the pair was unregistered
  have hnew : (s.register p).1 = decide (s.statusOf p = none) := by
    rw [show (s.register p).1 = (s.run (.register p)).1 from rfl, (hs.run_view _).1,
      Contents.accepts, ← Store.statusOf_eq_view]
    cases s.statusOf p <;> rfl
  -- marking answers whether the pair, registered now, was uncovered
  have hcovered : ((s.register p).2.markCovered p).1 = decide (s.statusOf p ≠ some .covered) := by
    rw [show ((s.register p).2.markCovered p).1 = ((s.register p).2.run (.markCovered p)).1 from rfl,
      (hs₁.run_view _).1, Contents.accepts, ← Store.statusOf_eq_view, hs.statusOf_register,
      if_pos rfl]
    rcases s.statusOf p with _ | _ | _ <;> rfl
  unfold intakeStep
  simp only [h]
  refine ⟨?_, hs₁.run (.markCovered p), hs.statusOf_register_markCovered p⟩
  rw [hnew, hcovered]
  simp only [decide_eq_true_eq]

theorem intakeStep_rejected (n : Intake) (s : Store) :
    (intakeStep views (n, s) c).1.rejected =
      n.rejected + (if (views.extract c).toOption.isNone then 1 else 0) := by
  unfold intakeStep
  cases views.extract c with
  | ok p => simp [Except.toOption]
  | error err => simp [Except.toOption]

end Step

theorem acceptedPairs_cons (views : Views) (c : Candidate) (cs : List Candidate) :
    acceptedPairs views (c :: cs) = (views.extract c).toOption.toList ++ acceptedPairs views cs := by
  unfold acceptedPairs
  rw [List.filterMap_cons]
  cases (views.extract c).toOption <;> rfl

/-! ### All the triples -/

/-- Over the triples of a report, a well-formed store stays well formed, the pairs the triples
form are covered, and every other pair keeps its status. -/
theorem WF.foldl_intakeStep_statusOf (views : Views) (cs : List Candidate) :
    ∀ (n : Intake) {s : Store}, s.WF →
      (cs.foldl (intakeStep views) (n, s)).2.WF ∧
        ∀ q, (cs.foldl (intakeStep views) (n, s)).2.statusOf q =
          if q ∈ acceptedPairs views cs then some .covered else s.statusOf q := by
  induction cs with
  | nil => exact fun n s hs => ⟨hs, fun q => by simp [acceptedPairs]⟩
  | cons c cs ih =>
    intro n s hs
    rw [List.foldl_cons, acceptedPairs_cons]
    cases h : views.extract c with
    | error err =>
      rw [intakeStep_of_error h, Except.toOption, Option.toList_none, List.nil_append]
      exact ih _ hs
    | ok p =>
      obtain ⟨-, hs₁, hstatus⟩ := intakeStep_of_ok h n hs
      obtain ⟨hwf, hrest⟩ := ih (intakeStep views (n, s) c).1 hs₁
      refine ⟨hwf, fun q => ?_⟩
      rw [hrest, hstatus]
      by_cases hq : q = p
      · simp [hq, Except.toOption]
      · simp [hq, Except.toOption]

/-- Over the triples of a report, the rejected count grows by the triples that form no pair. -/
theorem foldl_intakeStep_rejected (views : Views) (cs : List Candidate) :
    ∀ (n : Intake) (s : Store),
      (cs.foldl (intakeStep views) (n, s)).1.rejected = n.rejected + (rejectedTriples views cs).length := by
  induction cs with
  | nil => intro n s; rfl
  | cons c cs ih =>
    intro n s
    rw [List.foldl_cons, ← Prod.mk.eta (p := intakeStep views (n, s) c), ih, intakeStep_rejected]
    unfold rejectedTriples
    by_cases hc : (views.extract c).toOption.isNone = true
    · rw [if_pos hc, List.filter_cons_of_pos (p := fun c => (views.extract c).toOption.isNone) hc,
        List.length_cons]
      omega
    · rw [if_neg hc, List.filter_cons_of_neg (p := fun c => (views.extract c).toOption.isNone) hc]
      omega

/-- A count that a triple's turn raises by one exactly when the status its pair had before has a
property that covered pairs lack grows, over the triples of a well-formed store, by the distinct
pairs formed whose status before had the property: after its first turn a pair is covered, so it
counts no more. -/
theorem WF.foldl_intakeStep_count (views : Views) (count : Intake → Nat) (Q : Option Status → Prop)
    [DecidablePred Q] (hcovered : ¬Q (some .covered))
    (hok : ∀ n {s : Store} {c p}, s.WF → views.extract c = .ok p →
      count (intakeStep views (n, s) c).1 = count n + if Q (s.statusOf p) then 1 else 0)
    (herr : ∀ n, count { n with rejected := n.rejected + 1 } = count n) (cs : List Candidate) :
    ∀ (n : Intake) {s : Store}, s.WF →
      count (cs.foldl (intakeStep views) (n, s)).1 =
        count n + ((acceptedPairs views cs).toFinset.filter fun p => Q (s.statusOf p)).card := by
  induction cs with
  | nil => intro n s _; rfl
  | cons c cs ih =>
    intro n s hs
    rw [List.foldl_cons, acceptedPairs_cons]
    cases h : views.extract c with
    | error err =>
      rw [intakeStep_of_error h, Except.toOption, Option.toList_none, List.nil_append, ih _ hs,
        herr]
    | ok p =>
      obtain ⟨-, hs₁, hstatus⟩ := intakeStep_of_ok h n hs
      have hdrop : ∀ q, Q ((intakeStep views (n, s) c).2.statusOf q) ↔ Q (s.statusOf q) ∧ q ≠ p := by
        intro q
        rw [hstatus]
        by_cases hq : q = p
        · simp [hq, hcovered]
        · simp [hq]
      rw [← Prod.mk.eta (p := intakeStep views (n, s) c), ih _ hs₁, hok n hs h]
      simp only [Except.toOption, Option.toList_some, List.singleton_append]
      rw [card_filter_cons p _ hdrop]
      omega

/-- Over the triples of a well-formed store, the count of new pairs grows by the distinct pairs
the triples form that were not registered. -/
theorem WF.foldl_intakeStep_newPairs (views : Views) (cs : List Candidate) (n : Intake) {s : Store}
    (hs : s.WF) :
    (cs.foldl (intakeStep views) (n, s)).1.newPairs =
      n.newPairs + ((acceptedPairs views cs).toFinset.filter fun p => s.statusOf p = none).card :=
  WF.foldl_intakeStep_count views Intake.newPairs (· = none) (by simp)
    (fun n _ _ _ hs h => by rw [(intakeStep_of_ok h n hs).1]) (fun _ => rfl) cs n hs

/-- Over the triples of a well-formed store, the count of newly covered pairs grows by the
distinct pairs the triples form that were not covered. -/
theorem WF.foldl_intakeStep_newlyCovered (views : Views) (cs : List Candidate) (n : Intake)
    {s : Store} (hs : s.WF) :
    (cs.foldl (intakeStep views) (n, s)).1.newlyCovered =
      n.newlyCovered +
        ((acceptedPairs views cs).toFinset.filter fun p => s.statusOf p ≠ some .covered).card :=
  WF.foldl_intakeStep_count views Intake.newlyCovered (· ≠ some .covered) (by simp)
    (fun n _ _ _ hs h => by rw [(intakeStep_of_ok h n hs).1]) (fun _ => rfl) cs n hs

/-- **Taking in a report covers what it accepts.** The views become the given ones with the
report's entities observed into the dynamic view, and against these every covered triple is
taken: afterwards the pairs the triples form are covered and every other pair keeps its status;
the rejected count is the number of triples that form no pair, the newly covered count the number
of distinct pairs formed that were not covered, and the count of new pairs the number of distinct
pairs formed that were not registered. -/
theorem ingest_covers_accepted (views : Views) {store : Store} (hs : store.WF) (report : Report) :
    (ingest views store report).2.1 = views.observing report.observed ∧
      (∀ q, (ingest views store report).2.2.statusOf q =
        if q ∈ acceptedPairs (views.observing report.observed) report.covered then some .covered
        else store.statusOf q) ∧
      (ingest views store report).1.rejected =
        (rejectedTriples (views.observing report.observed) report.covered).length ∧
      (ingest views store report).1.newlyCovered =
        ((acceptedPairs (views.observing report.observed) report.covered).toFinset.filter
          fun p => store.statusOf p ≠ some .covered).card ∧
      (ingest views store report).1.newPairs =
        ((acceptedPairs (views.observing report.observed) report.covered).toFinset.filter
          fun p => store.statusOf p = none).card := by
  rw [ingest_eq]
  refine ⟨rfl, (WF.foldl_intakeStep_statusOf _ _ {} hs).2, ?_, ?_, ?_⟩
  · rw [foldl_intakeStep_rejected]
    exact Nat.zero_add _
  · rw [WF.foldl_intakeStep_newlyCovered _ _ {} hs]
    exact Nat.zero_add _
  · rw [WF.foldl_intakeStep_newPairs _ _ {} hs]
    exact Nat.zero_add _

/-- A report into an empty store whose first triple comes twice and whose use is known only
from the report's observed entities, and whose last triple names an unknown field. -/
theorem ingest_covers_repeated_observed_triple :
    let views : Views :=
      ⟨{ types := ["T"], fields := [("T.f", "T")], methods := [("T.set", ⟨"T", ["T.f"], []⟩)] },
        {}, .staticThenDynamic⟩
    let report : Report :=
      { covered := [⟨"T.f", "T.set", "T.get"⟩, ⟨"T.f", "T.set", "T.get"⟩, ⟨"T.g", "T.set", "T.get"⟩]
        observed := [⟨.method, "T.get", "T"⟩] }
    let store : Store := {}
    store.WF ∧
      (ingest views store report).2.1 = views.observing report.observed ∧
      (∀ q, (ingest views store report).2.2.statusOf q =
        if q ∈ acceptedPairs (views.observing report.observed) report.covered then some .covered
        else store.statusOf q) ∧
      (ingest views store report).1.rejected =
        (rejectedTriples (views.observing report.observed) report.covered).length ∧
      (ingest views store report).1.newlyCovered =
        ((acceptedPairs (views.observing report.observed) report.covered).toFinset.filter
          fun p => store.statusOf p ≠ some .covered).card ∧
      (ingest views store report).1.newPairs =
        ((acceptedPairs (views.observing report.observed) report.covered).toFinset.filter
          fun p => store.statusOf p = none).card :=
  ⟨Store.wf_empty, ingest_covers_accepted _ Store.wf_empty _⟩

end Loop

end DefUseCoverage
