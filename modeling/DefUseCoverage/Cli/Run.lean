import DefUseCoverage.Cli.Options
import DefUseCoverage.Loop.Prepare
import DefUseCoverage.Engine.InProcess
import DefUseCoverage.Engine.Command
/-!
# The program

A run of the program reads its options, loads the configuration (the named file, else
`dugen.toml` when it exists, else the defaults), applies the options over it, prepares the
loop, runs it once with the engine the configuration selects, and prints a summary:

```
Run terminated: Fixpoint
  cycle   1: candidates 2, accepted 1, rejected 1, new pairs 1, PUTs 1 (+0 resent), newly covered 1, engine Reported { covered: 1, observed: 0 }
  T: 1/1 pairs covered, 1 PUTs
Total: 1/1 pairs covered, 1 PUTs generated
```

The in-process engine reports every stub's pair as covered. `--target-command` replaces the
command engine's program (or gives it one), and is ignored for the in-process engine. A
failure before the loop runs prints `Error: <message>` on standard error and ends with status
1; a usage error ends with status 2.
-/

namespace DefUseCoverage.Cli

open Loop

/-- What a run of the program printed, how it ended, and the directory it left. -/
structure Output where
  /-- The exit status. -/
  status : Nat
  /-- Standard output. -/
  stdout : String := ""
  /-- Standard error. -/
  stderr : String := ""
  /-- The working directory afterwards. -/
  ws : Workspace

/-- The text of an engine failure as the summary shows it. -/
def failureText : Engine.Failure → String
  | .timedOut ms => "TimedOut(" ++ Engine.durationText ms ++ ")"
  | .launch m => "Launch(" ++ Quoted.quote m ++ ")"
  | .crashed m => "Crashed(" ++ Quoted.quote m ++ ")"
  | .badReport m => "BadReport(" ++ Quoted.quote m ++ ")"
  | .io m => "Io(" ++ Quoted.quote m ++ ")"

/-- The text of what became of a batch, as the summary shows it. -/
def outcomeText : Engine.Outcome → String
  | .skipped => "Skipped"
  | .reported c o => "Reported \x7b covered: " ++ toString c ++ ", observed: " ++ toString o ++ " \x7d"
  | .unavailable f => "Unavailable(" ++ failureText f ++ ")"

/-- A number right-aligned in three columns. -/
def alignRight (n : Nat) : String :=
  let s := toString n
  String.ofList (List.replicate (3 - s.length) ' ') ++ s

/-- The summary line of a cycle. -/
def cycleLine (c : CycleSummary) : String :=
  "  cycle " ++ alignRight c.cycle ++ ": candidates " ++ toString c.candidates ++
  ", accepted " ++ toString c.accepted ++ ", rejected " ++ toString c.rejected ++
  ", new pairs " ++ toString c.newPairs ++ ", PUTs " ++ toString c.putsEmitted ++
  " (+" ++ toString c.putsResent ++ " resent), newly covered " ++ toString c.newlyCovered ++
  ", engine " ++ outcomeText c.engine ++ "\n"

/-- The summary of a run. -/
def summaryText (r : RunSummary) : String :=
  let types := r.store.map fun t =>
    "  " ++ t.declaringType ++ ": " ++ toString t.covered ++ "/" ++ toString t.pairs ++
    " pairs covered, " ++ toString t.puts ++ " PUTs\n"
  let total (f : Coverage.TypeSummary → Nat) := (r.store.map f).foldl (· + ·) 0
  "Run terminated: " ++ r.reason.name ++ "\n" ++ String.join (r.cycles.map cycleLine) ++
  String.join types ++
  "Total: " ++ toString (total (·.covered)) ++ "/" ++ toString (total (·.pairs)) ++
  " pairs covered, " ++ toString (total (·.puts)) ++ " PUTs generated\n"

/-- The name of the configuration file read when none is named. -/
def defaultConfigFile : String := "dugen.toml"

/-- The configuration of a run: the named file, else the default file when something is
there, else the defaults. -/
def loadConfig (o : Options) (ws : Workspace) : Except ConfigError Config :=
  match o.configFile with
  | some p => Config.load ws p
  | none =>
    match ws.resolve defaultConfigFile with
    | .ok p => if ws.pathExists p then Config.load ws defaultConfigFile else .ok {}
    | .error _ => .ok {}

/-- The configuration with the options applied over it. -/
def Options.applyTo (o : Options) (c : Config) : Config :=
  let c := match o.maxCycles with
    | some m => { c with loop := { c.loop with maxCycles := m } }
    | none => c
  let c := match o.assembly with
    | some a => { c with metadata := { c.metadata with assembly := some a } }
    | none => c
  match o.targetCommand, c.engine.kind with
  | some t, .command =>
    let cs := c.engine.commandSettings.getD { command := [] }
    let cmd := match cs.command with
      | [] => [t]
      | _ :: rest => t :: rest
    { c with engine := { c.engine with commandSettings := some { cs with command := cmd } } }
  | _, _ => c

/-- A run that failed before the loop. -/
def failed (msg : String) (ws : Workspace) : Output :=
  { status := 1, stderr := "Error: " ++ msg ++ "\n", ws := ws }

/-- Runs the program with options, the assembly from the environment, and a working
directory. -/
def execute (o : Options) (env : Option String) (ws : Workspace) : Output :=
  match loadConfig o ws with
  | .error e => failed e.message ws
  | .ok c =>
    match prepare (o.applyTo c) ws env with
    | .error e => failed e.message ws
    | .ok p =>
      match p.command with
      | none =>
        let (r, st) := Loop.run p.setup (Engine.InProcess.run Engine.echoHarness) (p.start { harness := () })
        { status := 0, stdout := summaryText r, ws := st.ws }
      | some cs =>
        let (r, st) := Loop.run p.setup (Engine.Command.run cs) (p.start ())
        { status := 0, stdout := summaryText r, ws := st.ws }

/-- Runs the program with its arguments, the assembly from the environment, and a working
directory. -/
def run (args : List String) (env : Option String) (ws : Workspace) : Output :=
  match parse args with
  | .run o => execute o env ws
  | .help => { status := 0, stdout := helpText, ws := ws }
  | .version => { status := 0, stdout := versionText, ws := ws }
  | .usageError => { status := 2, ws := ws }

end DefUseCoverage.Cli
