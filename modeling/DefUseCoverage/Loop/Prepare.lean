import DefUseCoverage.Loop.Run
import DefUseCoverage.Config.Basic
/-!
# Preparing a loop from a configuration

Everything a loop needs is built from the configuration in a fixed order, and the first
failure stops the preparation: the metadata views, the store (opened from its snapshot when a
place is configured, else empty), the strategy, the command engine's settings (only when the
command engine is selected) and the stub directory (made when one is configured).
-/

namespace DefUseCoverage.Loop

open Coverage Metadata

/-- Why a loop could not be prepared; the constructors follow the order of preparation. -/
inductive PrepareError where
  /-- A metadata view could not be loaded. -/
  | views (e : ConfigError)
  /-- The store could not be opened from the snapshot at a path. -/
  | store (path : String) (e : StoreError)
  /-- The strategy could not be built. -/
  | strategy (e : ConfigError)
  /-- The command engine's settings are unusable. -/
  | engine (e : ConfigError)
  /-- The stub directory could not be made. -/
  | stubDir (e : StubFileError)

/-- The text of a preparation error, as the command line reports it. -/
def PrepareError.message : PrepareError → String
  | .views e | .strategy e | .engine e => e.message
  | .store p e => (ConfigError.storeUnopenable p e.message).message
  | .stubDir e => e.message

/-- A loop ready to run, waiting for its engine. -/
structure Prepared where
  /-- What stays fixed while the loop runs. -/
  setup : Setup
  /-- The store to start from. -/
  store : Store
  /-- The metadata views. -/
  views : Views
  /-- The working directory after preparing. -/
  ws : Workspace
  /-- The command engine's settings, when the command engine is selected. -/
  command : Option CommandSettings

/-- The loop's settings in a configuration. -/
def settingsOf (l : LoopSettings) : Settings :=
  { maxCycles := l.maxCycles, maxEngineFailures := l.maxEngineFailures,
    engineTimeoutMs := l.engineTimeoutMs, typesOfInterest := l.typesOfInterest }

/-- Builds what a loop needs from a configuration, in order, stopping at the first failure. -/
def prepare (c : Config) (w : Workspace) (env : Option String) : Except PrepareError Prepared := do
  let views ← (c.metadata.loadViews w env c.loop.viewPolicy).mapError .views
  let store ← match c.store.persistPath with
    | some p => (Store.openAt w p c.store.format).mapError (.store p)
    | none => pure {}
  let strat ← (c.generation.strategy w).mapError .strategy
  let command ← match c.engine.kind with
    | .inProcess => pure none
    | .command => some <$> c.engine.commandConfig.mapError .engine
  let (writer, w) ← match c.putDir with
    | some d => do
      let (sw, w) ← (StubWriter.create w d).mapError .stubDir
      pure (some sw, w)
    | none => pure (none, w)
  pure { setup := { settings := settingsOf c.loop, strategy := strat, workers := c.loop.threads,
                    writer := writer, persistence := c.store.persistPath.map (·, c.store.format) },
         store := store, views := views, ws := w, command := command }

/-- The loop's first state, with an engine in its first state. -/
def Prepared.start {σ : Type} (p : Prepared) (engine : σ) : State σ :=
  State.new p.store p.views p.ws engine

end DefUseCoverage.Loop
