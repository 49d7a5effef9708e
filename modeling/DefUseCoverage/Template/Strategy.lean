import DefUseCoverage.Template.Seeded
/-!
# Stub strategies

A strategy makes the stub of a pair: a parsed template, and how many rows of seed arguments
(with how many values each) follow it. With no rows it is the plain template strategy.
-/

namespace DefUseCoverage.Template

/-- A parsed template and its seed rows. -/
structure Strategy where
  /-- The parsed template. -/
  segments : List Segment
  /-- Rows of seed arguments after the stub; none for the plain strategy. -/
  seedRows : Nat := 0
  /-- Values per seed row. -/
  seedArgs : Nat := 2
deriving Repr

/-- The strategy's name: `template`, or `seeded-template` when it adds seed rows. -/
def Strategy.name (s : Strategy) : String :=
  if s.seedRows = 0 then "template" else "seeded-template"

/-- The stub of a pair under the strategy. -/
def Strategy.generate (s : Strategy) (p : Pair) : Except GenerationError String :=
  generateSeeded s.segments s.seedRows s.seedArgs p

end DefUseCoverage.Template
