import DefUseCoverage.Coverage.Store
/-!
# Snapshots

A snapshot is the store written out: its types sorted by name, each with its pairs in
registration order (three names and a covered flag) and its bodies in recording order.
`Store.restore` applies a snapshot to a store through `register`, `markCovered` and
`recordPut`, so it only adds: a covered pair stays covered, and a type with neither pairs nor
bodies in the snapshot is not made known.
-/

namespace DefUseCoverage.Coverage

/-- A pair as a snapshot holds it. -/
structure PairSnapshot where
  /-- The field. -/
  field : String
  /-- The writing method. -/
  defMethod : String
  /-- The reading method. -/
  useMethod : String
  /-- Whether it is covered. -/
  covered : Bool
deriving DecidableEq, Repr

/-- A type as a snapshot holds it. -/
structure TypeSnapshot where
  /-- The type. -/
  declaringType : String
  /-- Its pairs. -/
  pairs : List PairSnapshot
  /-- Its recorded bodies. -/
  puts : List String
deriving DecidableEq, Repr

/-- A snapshot of a whole store. -/
structure Snapshot where
  /-- The types. -/
  types : List TypeSnapshot := []
deriving DecidableEq, Repr, Inhabited

namespace Store

/-- The snapshot of a store. -/
def snapshot (s : Store) : Snapshot :=
  ⟨s.partitions.map fun (ty, part) =>
    ⟨ty, part.pairs.map (fun (p, st) => ⟨p.field, p.defMethod, p.useMethod, st == .covered⟩), part.puts⟩⟩

/-- Applies one pair entry of a type: register it, then mark it covered when flagged.
Counts a newly registered pair. -/
def restorePair (ty : String) (acc : Nat × Store) (e : PairSnapshot) : Nat × Store :=
  let p : Pair := ⟨ty, e.field, e.defMethod, e.useMethod⟩
  let (isNew, s) := acc.2.register p
  let s := if e.covered then (s.markCovered p).2 else s
  (if isNew then acc.1 + 1 else acc.1, s)

/-- Applies one type of a snapshot: its pairs, then its bodies. -/
def restoreType (acc : Nat × Store) (t : TypeSnapshot) : Nat × Store :=
  let (n, s) := t.pairs.foldl (restorePair t.declaringType) acc
  (n, t.puts.foldl (fun s b => (s.recordPut t.declaringType b).2) s)

/-- Applies a snapshot to a store: the number of newly registered pairs and the store. -/
def restore (s : Store) (snap : Snapshot) : Nat × Store := snap.types.foldl restoreType (0, s)

end Store

end DefUseCoverage.Coverage
