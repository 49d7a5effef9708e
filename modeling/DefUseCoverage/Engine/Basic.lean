import DefUseCoverage.Engine.Failure
import DefUseCoverage.Workspace.Basic
/-!
# Engines

An engine takes a batch of stubs and a timeout and answers with a coverage report or a
failure. It may keep state of its own between batches (a clock, threads it left running), it
may change the working directory (files it writes or removes), and it may ask the loop to stop
(cancellation). An engine is therefore a function from its state, the batch, the timeout in
milliseconds and the working directory to a `Reply`.
-/

namespace DefUseCoverage.Engine

/-- An engine's answer to one batch. -/
structure Reply (σ : Type) where
  /-- The report, or why there is none. -/
  result : Except Failure Report
  /-- The engine's state afterwards. -/
  state : σ
  /-- The working directory afterwards. -/
  ws : Workspace
  /-- Whether the engine asked the loop to stop. -/
  cancel : Bool := false

/-- An engine with state `σ`: state, batch, timeout in milliseconds and working directory to
its answer. -/
abbrev Run (σ : Type) := σ → List PutRecord → Nat → Workspace → Reply σ

end DefUseCoverage.Engine
