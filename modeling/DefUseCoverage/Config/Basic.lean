import DefUseCoverage.Config.Generation
import DefUseCoverage.Coverage.Persist
/-!
# The configuration file

A TOML file with six optional sections: `[orchestrator]`, `[engine]` (with
`[engine.command-settings]`), `[metadata]`, `[generation]`, `[store]` and `[output]`. Keys are
kebab-case; an unknown key anywhere is refused. Every
setting has a default: ten cycles, three engine failures in a row, a 30000 ms engine timeout,
one worker, the `static-then-dynamic` policy, the command engine, no seed rows, two seed
values per row and JSON snapshots.

A section (and the `file` delivery) may also be written as an array of its settings in order.
Items past the last setting are ignored; settings after the last item take their defaults,
but one without a default (the command, the working directory, the assembly, the paths, the
template) cannot be left out that way, although a table may leave the optional ones out. A
name (a policy, an engine type, a snapshot format, a delivery) may be written as a table
holding that name as its only key.
-/

namespace DefUseCoverage

open Metadata Coverage

/-- Settings of the feedback loop. -/
structure LoopSettings where
  /-- Cycles a run may take. -/
  maxCycles : Nat := 10
  /-- Engine failures in a row that end a run; zero never ends it. -/
  maxEngineFailures : Nat := 3
  /-- How long the engine may take, in milliseconds. -/
  engineTimeoutMs : Nat := 30000
  /-- Workers for generation. -/
  threads : Nat := 1
  /-- Types to extract pairs for; none means every known type. -/
  typesOfInterest : List String := []
  /-- How the metadata views are consulted. -/
  viewPolicy : Policy := .staticThenDynamic
deriving Repr

/-- Which engine runs the stubs. -/
inductive EngineKind where
  /-- A harness in the same program. -/
  | inProcess
  /-- An external command. -/
  | command
deriving DecidableEq, Repr

/-- The engine kind's name in configuration files. -/
def EngineKind.name : EngineKind → String
  | .inProcess => "in-process"
  | .command => "command"

/-- How a batch reaches an external engine. -/
inductive Delivery where
  /-- On the command's standard input. -/
  | stdin
  /-- In a temporary file whose path replaces `{}` in the template; the result, split at
  blanks, is appended to the command line. -/
  | file (template : String)
deriving DecidableEq, Repr

/-- The external engine's settings. -/
structure CommandSettings where
  /-- The program and its arguments. -/
  command : List String
  /-- How the batch is delivered. -/
  delivery : Delivery := .stdin
  /-- The directory the command runs in. -/
  workingDir : Option String := none
deriving Repr

/-- The `[engine]` section. -/
structure EngineSettings where
  /-- Which engine. -/
  kind : EngineKind := .command
  /-- The external engine's settings. -/
  commandSettings : Option CommandSettings := none
deriving Repr

/-- The `[metadata]` section. -/
structure MetadataSettings where
  /-- The assembly the metadata must describe. -/
  assembly : Option String := none
  /-- The static view's file. -/
  staticPath : Option String := none
  /-- The dynamic view's file. -/
  dynamicPath : Option String := none
deriving Repr

/-- The `[store]` section. -/
structure StoreSettings where
  /-- Where the store is kept between runs. -/
  persistPath : Option String := none
  /-- The snapshot format. -/
  format : Format := .json
deriving Repr

/-- A whole configuration. -/
structure Config where
  /-- The loop's settings. -/
  loop : LoopSettings := {}
  /-- The engine's settings. -/
  engine : EngineSettings := {}
  /-- Where metadata comes from. -/
  metadata : MetadataSettings := {}
  /-- How stubs are made. -/
  generation : GenerationSettings := {}
  /-- Where the store is kept. -/
  store : StoreSettings := {}
  /-- The directory stub files go to. -/
  putDir : Option String := none
deriving Repr

/-- The `[orchestrator]` section. -/
def LoopSettings.ofToml? (v : Toml) : Option LoopSettings := do
  match ← Toml.record ["max-cycles", "max-engine-failures", "engine-timeout-ms", "threads",
      "types-of-interest", "view-policy"] v with
  | [a, b, c, d, e, f] =>
    pure ⟨← Toml.field Toml.asNat? 10 a, ← Toml.field Toml.asNat? 3 b,
      ← Toml.field Toml.asNat? 30000 c, ← Toml.field Toml.asNat? 1 d,
      ← Toml.field Toml.asStrings? [] e,
      ← Toml.field (Toml.choice [("static", Policy.static), ("dynamic", .dynamic),
        ("static-then-dynamic", .staticThenDynamic)]) .staticThenDynamic f⟩
  | _ => none

/-- The `input-delivery` setting. -/
def Delivery.ofToml? : Toml → Option Delivery
  | .string "std-in" => some .stdin
  | .table [("std-in", .table [])] | .table [("std-in", .array [])] => some .stdin
  | .table [("file", inner)] => do
    match ← Toml.record ["template"] inner with
    | [t] => pure (.file (← Toml.needField Toml.asString? t))
    | _ => none
  | _ => none

/-- The `[engine.command-settings]` section. -/
def CommandSettings.ofToml? (v : Toml) : Option CommandSettings := do
  match ← Toml.record ["command", "input-delivery", "working-dir"] v with
  | [a, b, c] =>
    pure ⟨← Toml.needField Toml.asStrings? a, ← Toml.field Delivery.ofToml? .stdin b,
      ← Toml.optField Toml.asString? c⟩
  | _ => none

/-- The `[engine]` section. -/
def EngineSettings.ofToml? (v : Toml) : Option EngineSettings := do
  match ← Toml.record ["engine-type", "command-settings"] v with
  | [a, b] =>
    pure ⟨← Toml.field (Toml.choice [("in-process", EngineKind.inProcess), ("command", .command)]) .command a,
      ← Toml.field (fun v => (CommandSettings.ofToml? v).map some) none b⟩
  | _ => none

/-- The `[metadata]` section. -/
def MetadataSettings.ofToml? (v : Toml) : Option MetadataSettings := do
  match ← Toml.record ["assembly", "static-path", "dynamic-path"] v with
  | [a, b, c] => pure ⟨← Toml.optField Toml.asString? a, ← Toml.optField Toml.asString? b,
      ← Toml.optField Toml.asString? c⟩
  | _ => none

/-- The `[generation]` section. -/
def GenerationSettings.ofToml? (v : Toml) : Option GenerationSettings := do
  match ← Toml.record ["template", "template-path", "seed-rows", "seed-args"] v with
  | [a, b, c, d] => pure ⟨← Toml.optField Toml.asString? a, ← Toml.optField Toml.asString? b,
      ← Toml.field Toml.asNat? 0 c, ← Toml.field Toml.asNat? 2 d⟩
  | _ => none

/-- The `[store]` section. -/
def StoreSettings.ofToml? (v : Toml) : Option StoreSettings := do
  match ← Toml.record ["persist-path", "snapshot-format"] v with
  | [a, b] => pure ⟨← Toml.optField Toml.asString? a,
      ← Toml.field (Toml.choice [("json", Format.json), ("bincode", .bincode)]) .json b⟩
  | _ => none

/-- The `[output]` section. -/
def putDirOfToml? (v : Toml) : Option (Option String) := do
  match ← Toml.record ["put-dir"] v with
  | [a] => Toml.optField Toml.asString? a
  | _ => none

/-- A configuration from a TOML document. -/
def Config.ofToml? (v : Toml) : Option Config := do
  match ← Toml.record ["orchestrator", "engine", "metadata", "generation", "store", "output"] v with
  | [a, b, c, d, e, f] =>
    pure ⟨← Toml.field LoopSettings.ofToml? {} a, ← Toml.field EngineSettings.ofToml? {} b,
      ← Toml.field MetadataSettings.ofToml? {} c, ← Toml.field GenerationSettings.ofToml? {} d,
      ← Toml.field StoreSettings.ofToml? {} e, ← Toml.field putDirOfToml? none f⟩
  | _ => none

/-- The configuration in a file of the working directory. -/
def Config.load (w : Workspace) (path : String) : Except ConfigError Config := do
  let bytes ← match w.follow path >>= w.read with
    | .ok bs => pure bs
    | .error e => throw (.unreadable path e)
  let text ← match Utf8.decode? bytes with
    | some t => pure t
    | none => throw (.unreadable path .notText)
  match (Toml.parse? text).bind Config.ofToml? with
  | some c => pure c
  | none => throw (.malformed path)

/-- The external engine's settings, checked: present and with a program to run. -/
def EngineSettings.commandConfig (e : EngineSettings) : Except ConfigError CommandSettings :=
  match e.commandSettings with
  | none => .error .commandSettingsMissing
  | some s => if s.command.isEmpty then .error .commandEmpty else .ok s

/-- The assembly in force: the environment's value when it is not blank, else the
configured one. -/
def MetadataSettings.resolvedAssembly (m : MetadataSettings) (env : Option String) : Option String :=
  match env with
  | some e => if (Blank.trim e).isEmpty then m.assembly else some e
  | none => m.assembly

/-- One view: loaded from its file, or empty when it has none. -/
def loadView (w : Workspace) (which : String) (path : Option String) (assembly : Option String) :
    Except ConfigError Db :=
  match path with
  | none => .ok {}
  | some p =>
    match Db.load w p assembly with
    | .ok db => .ok db
    | .error e => .error (.viewUnloadable which p e)

/-- Both views under a policy, the static one loaded first. -/
def MetadataSettings.loadViews (m : MetadataSettings) (w : Workspace) (env : Option String)
    (policy : Policy) : Except ConfigError Views := do
  let assembly := m.resolvedAssembly env
  let s ← loadView w "static" m.staticPath assembly
  let d ← loadView w "dynamic" m.dynamicPath assembly
  pure ⟨s, d, policy⟩

end DefUseCoverage
