import DefUseCoverage.Shell.Run
/-!
# Starting programs

A program is started by name, with arguments, a working directory and its standard input. It
is found as the system finds it: a name with a slash is a path from the working directory, any
other name is looked up on the search path. Starting fails with the system's error when the
working directory is not a directory, when nothing is at the path (or a directory on the way
is missing), or when what is there cannot be run (a directory, or a file that is not one of
the installed programs).

A started program runs on its own clock from zero until it ends or its deadline passes.
-/

namespace DefUseCoverage.Shell

/-- The environment programs start with. -/
def environment : List (String × String) := [("PATH", ":".intercalate searchPath)]

/-- Fuel for a started shell: it bounds the nesting of commands and the rounds of loops. -/
def shellFuel : Nat := 100000

/-- The installed program a command names, or why it cannot be run. -/
def locate (ws : Workspace) (program : String) : Except IoError String :=
  if program.contains '/' then
    match ws.resolve program with
    | .error e => .error e
    | .ok p =>
      match programAt p with
      | some prog => .ok prog
      | none =>
        match ws.parentsOk p with
        | .error e => .error e
        | .ok () => if (ws.node? p).isSome then .error .permissionDenied else .error .notFound
  else if programs.contains program then .ok program
  else .error .notFound

/-- The working directory a program starts in: the given one, which must be a directory, or
the caller's. -/
def startDir (ws : Workspace) : Option String → Except IoError Workspace
  | none => .ok ws
  | some d => do
    let p ← ws.target d
    ws.isDirPath p
    pure { ws with cwd := p }

/-- Starts a program and runs it until it ends or the deadline passes; an error when it
cannot be started. -/
def spawn (program : String) (args : List String) (dir : Option String) (input : List UInt8)
    (ws : Workspace) (deadline : Nat) : Except IoError Process := do
  let ws ← startDir ws dir
  let prog ← locate ws program
  if prog == "sh" || prog == "dash" then
    pure (shellMain shellFuel program args environment input ws 0 deadline 1000)
  else
    let r := Tool.run prog program args input none ws
    pure { out := r.out, err := r.err, exit := if r.forever then .never else .code r.status,
           ws := r.ws, clock := r.delayMs, inputLeft := if r.readsInput then [] else input }

end DefUseCoverage.Shell
