import DefUseCoverage.Engine.Basic
import DefUseCoverage.Engine.Batch
import DefUseCoverage.Engine.ReportReader
import DefUseCoverage.Config.Basic
import DefUseCoverage.Shell.Spawn
import DefUseCoverage.Text.Blank
import DefUseCoverage.Text.Quoted
/-!
# The external engine

The external engine is a command run once per batch. The batch document reaches it on its
standard input, or in a temporary file whose path replaces `{}` in a template; the template,
split at blanks, is appended to the command line, and standard input is then empty. The file
is removed once the command has ended.

The command answers with a report on its standard output. What it can go wrong:

* it cannot be started: a launch failure quoting the command line and the system's error;
* it is still running when the timeout has passed: a timeout;
* it exits with a status other than zero, or is killed: a crash, described as
  `Exited with code N` or `Terminated by signal S`, followed by the end of its standard error
  (the last 512 bytes, trimmed) when there is any; standard error that a process left in the
  background holds open past the timeout counts as empty;
* it succeeds, but a process it left in the background holds its standard output open past
  the timeout: a timeout;
* its output is not a report: an unreadable report, saying what is wrong with it and where.
-/

namespace DefUseCoverage.Engine

/-- Where the batch file is written. -/
def batchFile : String := "/tmp/.tmpq3Xv8b"

/-- The longest end of standard error quoted in a crash. -/
def excerptBytes : Nat := 512

/-- How a process ended, as a crash describes it. -/
def exitText : Shell.Exit → String
  | .code c => "Exited with code " ++ toString c
  | .signal s => "Terminated by signal " ++ toString s
  | .never => "Exited abnormally"

/-- A crash's description: how the process ended and the end of its standard error. -/
def crashText (exit : Shell.Exit) (err : List UInt8) : String :=
  let excerpt := Blank.trim (String.ofList (Utf8.decodeLossy (err.drop (err.length - excerptBytes))))
  if excerpt.isEmpty then exitText exit else exitText exit ++ ": " ++ excerpt

/-- The result of a process that ended, judged against the timeout. -/
def judge (timeout : Nat) (p : Shell.Process) : Except Failure Report :=
  if p.exit == .never || timeout ≤ p.clock then .error (.timedOut timeout)
  else if p.exit != .code 0 then
    .error (.crashed (crashText p.exit (if timeout ≤ p.holdErr then [] else p.err)))
  else if timeout ≤ p.holdOut then .error (.timedOut timeout)
  else match ReportReader.read p.out with
    | .ok r => .ok r
    | .error why => .error (.badReport why)

/-- The command line, standard input and working directory for a batch, by delivery. -/
def deliver (c : CommandSettings) (args : List String) (document : List UInt8) (ws : Workspace) :
    List String × List UInt8 × Workspace :=
  match c.delivery with
  | .stdin => (args, document, ws)
  | .file template =>
    let path := (ws.resolve batchFile).toOption.getD ["tmp"]
    let ws := (ws.write path document).toOption.getD ws
    let extra := ((template.replace "\x7b\x7d" batchFile).split Blank.isBlank).toList.map (·.toString)
    (args ++ extra.filter (!·.isEmpty), [], ws)

/-- The working directory after a batch: the batch file removed and the caller's directory
kept. -/
def cleanUp (c : CommandSettings) (before after : Workspace) : Workspace :=
  let after := { after with cwd := before.cwd }
  match c.delivery with
  | .stdin => after
  | .file _ =>
    match after.resolve batchFile with
    | .ok p => (after.remove p).toOption.getD after
    | .error _ => after

/-- The external engine's answer to a batch. -/
def runCommand (c : CommandSettings) (batch : List PutRecord) (timeout : Nat) (ws : Workspace) :
    Except Failure Report × Workspace :=
  match c.command with
  | [] => (.error (.launch "engine command is empty"), ws)
  | program :: args =>
    let (args, input, staged) := deliver c args (Utf8.encode (encodeBatch batch)) ws
    match Shell.spawn program args c.workingDir input staged timeout with
    | .error e =>
      (.error (.launch ("Failed to spawn command \x27" ++ Quoted.quoteList c.command ++ "\x27: " ++
        e.message)), cleanUp c ws staged)
    | .ok p => (judge timeout p, cleanUp c ws p.ws)

/-- The external engine, which keeps no state between batches. -/
def Command.run (c : CommandSettings) : Run Unit := fun _ batch timeout ws =>
  let (result, ws) := runCommand c batch timeout ws
  { result := result, state := (), ws := ws }

end DefUseCoverage.Engine
