import DefUseCoverage.Pair
/-!
# The coverage store

The store holds, for each declaring type, the pairs registered for it with their coverage
status, in registration order, and the bodies of the stubs generated for it, in recording
order. A pair's status only moves from uncovered to covered. Types are kept sorted by name,
which is the order every listing shows.

* `register` adds a pair as uncovered and says whether it was new; `markCovered` moves a
  registered uncovered pair to covered and says whether it did.
* `recordPut` remembers a body for a type and says whether it was new.
* Only `register` and `recordPut` make a type known; queries never do.
-/

namespace DefUseCoverage.Coverage

/-- Whether a registered pair has been seen exercised. -/
inductive Status where
  /-- Not yet seen exercised. -/
  | uncovered
  /-- Seen exercised. -/
  | covered
deriving DecidableEq, Repr

/-- The name of a status. -/
def Status.name : Status → String
  | .uncovered => "Uncovered"
  | .covered => "Covered"

/-- What the store holds for one type. -/
structure Partition where
  /-- Registered pairs and their status, in registration order, each pair once. -/
  pairs : List (Pair × Status) := []
  /-- Recorded stub bodies, in recording order, each once. -/
  puts : List String := []
deriving Repr, Inhabited

/-- The coverage store: a partition per known type, sorted by type name. -/
structure Store where
  /-- Partitions by type, sorted by name, each type once. -/
  partitions : List (String × Partition) := []
deriving Repr, Inhabited

/-- Per-type counts. -/
structure TypeSummary where
  /-- The type. -/
  declaringType : String
  /-- Registered pairs. -/
  pairs : Nat
  /-- Covered pairs. -/
  covered : Nat
  /-- Recorded bodies. -/
  puts : Nat
deriving Repr

namespace Store

/-- The partition of a type, if the type is known. -/
def partition? (s : Store) (ty : String) : Option Partition :=
  (s.partitions.find? (·.1 == ty)).map (·.2)

/-- Inserts a new entry into a list sorted by key, keeping it sorted. -/
def insertSorted (ty : String) (p : Partition) : List (String × Partition) → List (String × Partition)
  | [] => [(ty, p)]
  | (k, q) :: rest => if ty < k then (ty, p) :: (k, q) :: rest else (k, q) :: insertSorted ty p rest

/-- The store with the partition of a type replaced, or added in its sorted place. -/
def setPartition (s : Store) (ty : String) (p : Partition) : Store :=
  if s.partitions.any (·.1 == ty) then
    ⟨s.partitions.map fun e => if e.1 == ty then (ty, p) else e⟩
  else ⟨insertSorted ty p s.partitions⟩

/-- The status of a pair, if it is registered. -/
def statusOf (s : Store) (p : Pair) : Option Status :=
  (s.partition? p.declaringType).bind fun part => (part.pairs.find? (·.1 == p)).map (·.2)

/-- Registers a pair as uncovered; `true` when it was not registered. -/
def register (s : Store) (p : Pair) : Bool × Store :=
  let part := (s.partition? p.declaringType).getD {}
  if part.pairs.any (·.1 == p) then (false, s.setPartition p.declaringType part)
  else (true, s.setPartition p.declaringType { part with pairs := part.pairs ++ [(p, .uncovered)] })

/-- Marks a registered uncovered pair as covered; `true` when its status changed. -/
def markCovered (s : Store) (p : Pair) : Bool × Store :=
  match s.partition? p.declaringType with
  | none => (false, s)
  | some part =>
    if part.pairs.any (· == (p, .uncovered)) then
      (true, s.setPartition p.declaringType
        { part with pairs := part.pairs.map fun e => if e.1 == p then (p, .covered) else e })
    else (false, s)

/-- The uncovered pairs of a type, in registration order. -/
def uncovered (s : Store) (ty : String) : List Pair :=
  match s.partition? ty with
  | none => []
  | some part => (part.pairs.filter (·.2 == .uncovered)).map (·.1)

/-- Whether a body is recorded for a type. -/
def hasPut (s : Store) (ty body : String) : Bool :=
  match s.partition? ty with
  | none => false
  | some part => part.puts.contains body

/-- Records a body for a type; `true` when it was not recorded. -/
def recordPut (s : Store) (ty body : String) : Bool × Store :=
  let part := (s.partition? ty).getD {}
  if part.puts.contains body then (false, s.setPartition ty part)
  else (true, s.setPartition ty { part with puts := part.puts ++ [body] })

/-- The bodies recorded for a type, in recording order. -/
def putsFor (s : Store) (ty : String) : List String :=
  ((s.partition? ty).map (·.puts)).getD []

/-- Every known type, sorted. -/
def types (s : Store) : List String := s.partitions.map (·.1)

/-- The types with an uncovered pair, sorted. -/
def typesWithUncovered (s : Store) : List String :=
  (s.partitions.filter fun (_, part) => part.pairs.any (·.2 == .uncovered)).map (·.1)

/-- The counts of every known type, sorted by type. -/
def summary (s : Store) : List TypeSummary :=
  s.partitions.map fun (ty, part) =>
    ⟨ty, part.pairs.length, (part.pairs.filter (·.2 == .covered)).length, part.puts.length⟩

end Store

/-- Registered pairs over all types. -/
def totalPairs (ts : List TypeSummary) : Nat := (ts.map (·.pairs)).foldl (· + ·) 0

/-- Covered pairs over all types. -/
def totalCovered (ts : List TypeSummary) : Nat := (ts.map (·.covered)).foldl (· + ·) 0

/-- Recorded bodies over all types. -/
def totalPuts (ts : List TypeSummary) : Nat := (ts.map (·.puts)).foldl (· + ·) 0

end DefUseCoverage.Coverage
