import DefUseCoverage.Shell.Syntax
import DefUseCoverage.Shell.Tools
import DefUseCoverage.Shell.Pathname
/-!
# The state of a running shell

A shell runs with its variables, positional parameters, functions, descriptors and options, in
a file tree, on a clock in milliseconds. Its descriptors lead to its own standard output and
error (logged with the time of each write, so that writes of background jobs fall in place),
to the null device, to files, to capture buffers (command substitution and pipes) or from
input streams (its standard input, here-documents, files and pipes).

After a command, control goes on normally, or leaves through `exit`, `return`, `break` or
`continue`, or the shell is killed by a signal, or the command never ends.
-/

namespace DefUseCoverage.Shell

/-- Where a descriptor leads. -/
inductive Target where
  /-- The shell's standard output. -/
  | out
  /-- The shell's standard error. -/
  | err
  /-- The null device. -/
  | null
  /-- A file, written at its end. -/
  | file (p : AbsPath)
  /-- A capture buffer, by number. -/
  | capture (k : Nat)
  /-- An input stream, by number. -/
  | input (k : Nat)
  /-- Nothing: the descriptor is closed. -/
  | closed
deriving DecidableEq, Repr

/-- How control leaves a command. -/
inductive Flow where
  /-- On to the next command. -/
  | normal
  /-- `exit`: the shell (or subshell) ends. -/
  | exit
  /-- An error: the shell (or subshell) ends as for `exit`, unless the error happened in a
  builtin that `command` runs, which then only fails. -/
  | abort
  /-- `return` from a function. -/
  | ret
  /-- `break` out of this many loops. -/
  | brk (n : Nat)
  /-- `continue` this many loops out. -/
  | cont (n : Nat)
  /-- The shell is killed by a signal. -/
  | killed (sig : Nat)
  /-- The command never ends. -/
  | hang
deriving DecidableEq, Repr

/-- A background job. -/
structure Job where
  /-- Its process number. -/
  pid : Nat
  /-- When it ends. -/
  ends : Nat
  /-- Its exit status. -/
  status : Nat
  /-- Whether it keeps the shell's standard output open. -/
  holdsOut : Bool := false
  /-- Whether it keeps the shell's standard error open. -/
  holdsErr : Bool := false

/-- A running shell. -/
structure Sh where
  /-- The file tree, with the working directory. -/
  ws : Workspace
  /-- Variables, each once. -/
  vars : List (String × String) := []
  /-- Names of exported variables. -/
  exported : List String := []
  /-- Positional parameters. -/
  params : List String := []
  /-- The shell's name, `$0`, which starts its messages. -/
  arg0 : String := "sh"
  /-- The last status, `$?`. -/
  status : Nat := 0
  /-- The time now. -/
  clock : Nat := 0
  /-- The time after which the run is abandoned. -/
  deadline : Nat := 0
  /-- The shell's process number, `$$`. -/
  pid : Nat := 1000
  /-- The next process number to give out. -/
  nextPid : Nat := 1001
  /-- The last background job, `$!`. -/
  lastJob : Option Nat := none
  /-- Background jobs started. -/
  jobs : List Job := []
  /-- Input streams; the first is the shell's standard input. -/
  streams : List (List UInt8) := []
  /-- Capture buffers. -/
  captures : List (List UInt8) := []
  /-- Writes to standard output, with their times, latest first. -/
  outLog : List (Nat × List UInt8) := []
  /-- Writes to standard error, with their times, latest first. -/
  errLog : List (Nat × List UInt8) := []
  /-- Until when background jobs keep standard output open. -/
  holdOut : Nat := 0
  /-- Until when background jobs keep standard error open. -/
  holdErr : Nat := 0
  /-- Functions. -/
  funcs : List (String × Cmd) := []
  /-- Open descriptors. -/
  fds : List (Nat × Target) := [(0, .input 0), (1, .out), (2, .err)]
  /-- The line of the command running. -/
  line : Nat := 0
  /-- `set -e`: exit when a command fails. -/
  errexit : Bool := false
  /-- `set -u`: an unset parameter is an error. -/
  nounset : Bool := false
  /-- The other options set, by letter: `x` (trace commands), `f` (no pathname expansion),
  `C` (no overwriting with `>`), `n` (read commands without running them), `a` (export every
  variable set), `v` and the letters kept without effect. -/
  flags : List Char := []
  /-- The status of the last command substitution of the command being expanded. -/
  substStatus : Option Nat := none
  /-- Actions set by `trap`, by signal number, `0` standing for the shell's exit; an empty
  action ignores the signal. -/
  traps : List (Nat × String) := []
  /-- The argument `getopts` reads next, counted from one. -/
  optIndex : Nat := 1
  /-- Where `getopts` stopped inside the argument before `optIndex`, if it did. -/
  optOffset : Option Nat := none
  /-- Names of read-only variables. -/
  readonly : List String := []
  /-- For each function running, the innermost first, the variables it made local with the
  values they had before (`none` when unset). -/
  frames : List (List (String × Option String)) := []
  /-- Programs the shell itself found on the search path by name, first found first, each
  with the path it found: it remembers where they are until `PATH` changes. -/
  hashed : List (String × String) := []
  /-- The permission bits new files are made without (`umask`). -/
  umask : Nat := 18
  /-- How many loops the command running is inside, counted in the function running (or the
script): `break` and `continue` leave at most that many. -/
  loops : Nat := 0
  /-- Whether output for standard output was lost since the last check, standard output
being closed (or open only for reading). -/
  lostOutput : Bool := false
  /-- The input streams read from regular files, with the files' sizes. -/
  regularStreams : List (Nat × Nat) := []
  /-- Aliases, by name, in the order they were first defined. -/
  aliases : List (String × String) := []
  /-- The command whose text is being run, named after the line number in messages: `eval`,
  or the file `.` reads; `none` at the top, and while a builtin runs (its own messages name
  it). -/
  context : Option String := none

namespace Sh

/-- A variable's value. -/
def var? (sh : Sh) (name : String) : Option String := (sh.vars.find? (·.1 == name)).map (·.2)

/-- The shell with a variable set, nothing else changed. -/
def putVar (sh : Sh) (name value : String) : Sh :=
  if sh.vars.any (·.1 == name) then { sh with vars := sh.vars.map fun e => if e.1 == name then (name, value) else e }
  else { sh with vars := sh.vars ++ [(name, value)] }

/-- The shell with a variable set by the script: setting `OPTIND` also restarts `getopts` at
that argument (the first, when the value is no positive number). -/
def setVar (sh : Sh) (name value : String) : Sh :=
  let sh := sh.putVar name value
  let sh := if sh.flags.contains 'a' && !sh.exported.contains name then { sh with exported := sh.exported ++ [name] } else sh
  if name == "OPTIND" then
    let n := if !value.isEmpty && value.toList.all Char.isDigit then
        value.toList.foldl (fun a c => a * 10 + (c.toNat - 48)) 0 else 0
    { sh with optIndex := if n == 0 then 1 else n, optOffset := none }
  else if name == "PATH" then { sh with hashed := [] }
  else sh

/-- The shell with a variable made local to the function running: its value now is kept to be
restored when the function returns (only the first time in a call). -/
def makeLocal (sh : Sh) (name : String) : Sh :=
  match sh.frames with
  | top :: more =>
    if top.any (·.1 == name) then sh else { sh with frames := ((name, sh.var? name) :: top) :: more }
  | [] => sh

/-- The shell after a function returns: its local variables have their values from before. -/
def dropFrame (sh : Sh) : Sh :=
  match sh.frames with
  | top :: more =>
    let sh := top.foldl (fun (sh : Sh) (k, v) =>
      match v with
      | some v => sh.putVar k v
      | none => { sh with vars := sh.vars.filter (·.1 != k) }) sh
    { sh with frames := more }
  | [] => sh

/-- The shell without a variable. -/
def unsetVar (sh : Sh) (name : String) : Sh :=
  { sh with vars := sh.vars.filter (·.1 != name), exported := sh.exported.filter (· != name),
            hashed := if name == "PATH" then [] else sh.hashed }

/-- The positional parameters joined by the first separator character: a space when `IFS` is
unset, nothing when it is empty (`"$*"`). -/
def joinedParams (sh : Sh) : String :=
  let sep := match sh.var? "IFS" with
    | none => " "
    | some s => (s.toList.head?.map Char.toString).getD ""
  sep.intercalate sh.params

/-- A parameter's value: special parameters, positions and variables; `none` when unset. -/
def param? (sh : Sh) (name : String) : Option String :=
  match name with
  | "?" => some (toString sh.status)
  | "$" => some (toString sh.pid)
  | "#" => some (toString sh.params.length)
  | "0" => some sh.arg0
  | "!" => sh.lastJob.map toString
  | "-" => some (String.ofList ("efImnsxvVECabu".toList.filter fun c =>
      if c == 'e' then sh.errexit else if c == 'u' then sh.nounset else sh.flags.contains c))
  | "@" | "*" => some sh.joinedParams
  | _ =>
    if !name.isEmpty && name.toList.all Char.isDigit then
      let i := name.toList.foldl (fun a c => a * 10 + (c.toNat - 48)) 0
      if i = 0 then some sh.arg0 else sh.params[i - 1]?
    else sh.var? name

/-- Where a descriptor leads. -/
def fd (sh : Sh) (k : Nat) : Target := ((sh.fds.find? (·.1 == k)).map (·.2)).getD .closed

/-- The shell with a descriptor led somewhere. -/
def setFd (sh : Sh) (k : Nat) (t : Target) : Sh :=
  { sh with fds := (sh.fds.filter (·.1 != k)) ++ [(k, t)] }

/-- Whether a descriptor is open for writing. -/
def writable (sh : Sh) (k : Nat) : Bool :=
  match sh.fd k with
  | .closed | .input _ => false
  | _ => true

/-- The shell after writing bytes to a target. -/
def write (sh : Sh) (t : Target) (bs : List UInt8) : Sh :=
  if bs.isEmpty then sh else
  match t with
  | .out => { sh with outLog := (sh.clock, bs) :: sh.outLog }
  | .err => { sh with errLog := (sh.clock, bs) :: sh.errLog }
  | .file p => { sh with ws := (sh.ws.append p bs).toOption.getD sh.ws }
  | .capture k => { sh with captures := sh.captures.modify k (· ++ bs) }
  | .null | .input _ | .closed => sh

/-- The shell after writing bytes to a descriptor. -/
def emit (sh : Sh) (k : Nat) (bs : List UInt8) : Sh :=
  let sh := if k == 1 && !bs.isEmpty && !sh.writable 1 then { sh with lostOutput := true } else sh
  sh.write (sh.fd k) bs

/-- The shell after writing a message line to standard error, starting with the shell's name,
the line and the command whose text is running, if any: `sh: 3: message`, `sh: 3: eval:
message`. -/
def complain (sh : Sh) (msg : String) : Sh :=
  let lead := match sh.context with
    | some c => c ++ ": "
    | none => ""
  sh.emit 2 (Utf8.encodeKeeping (sh.arg0 ++ ": " ++ toString sh.line ++ ": " ++ lead ++ msg ++ "\n"))

/-- A new input stream holding bytes, and its number. -/
def openStream (sh : Sh) (bs : List UInt8) : Sh × Nat :=
  ({ sh with streams := sh.streams ++ [bs] }, sh.streams.length)

/-- Everything left on standard input, and the shell after reading it (when it was read). -/
def input (sh : Sh) : List UInt8 :=
  match sh.fd 0 with
  | .input k => sh.streams.getD k []
  | _ => []

/-- The size of the regular file standard input reads, when it reads one. -/
def inputSize (sh : Sh) : Option Nat :=
  match sh.fd 0 with
  | .input k => (sh.regularStreams.find? (·.1 == k)).map (·.2)
  | _ => none

/-- The shell after standard input was read to its end. -/
def drainInput (sh : Sh) : Sh :=
  match sh.fd 0 with
  | .input k => { sh with streams := sh.streams.set k [] }
  | _ => sh

/-- The shell after standard input was read up to what is left. -/
def leaveInput (sh : Sh) (rest : List UInt8) : Sh :=
  match sh.fd 0 with
  | .input k => { sh with streams := sh.streams.set k rest }
  | _ => sh

/-- The shell back from a subshell: what the subshell changed in the world (files, time,
streams, output, jobs) stays, while its variables, parameters, functions, descriptors,
options and working directory are the parent's again. -/
def rejoin (parent child : Sh) : Sh :=
  { child with
    ws := { child.ws with cwd := parent.ws.cwd }
    vars := parent.vars, exported := parent.exported, params := parent.params,
    arg0 := parent.arg0, funcs := parent.funcs, fds := parent.fds, errexit := parent.errexit,
    nounset := parent.nounset, flags := parent.flags, line := parent.line, substStatus := parent.substStatus,
    traps := parent.traps, readonly := parent.readonly, frames := parent.frames,
    hashed := parent.hashed, umask := parent.umask, aliases := parent.aliases }

/-- The action set for a signal, if any. -/
def trapFor (sh : Sh) (s : Nat) : Option String := (sh.traps.find? (·.1 == s)).map (·.2)

/-- The shell with the action for a signal set, or reset with `none`. -/
def setTrap (sh : Sh) (s : Nat) (act : Option String) : Sh :=
  let rest := sh.traps.filter (·.1 != s)
  { sh with traps := match act with
    | some a => rest ++ [(s, a)]
    | none => rest }

/-- Until when background jobs and programs keep the shell's standard output and standard
error open. -/
def holds (sh : Sh) : Nat × Nat :=
  sh.jobs.foldl (fun (o, e) j =>
    (if j.holdsOut then max o j.ends else o, if j.holdsErr then max e j.ends else e))
    (sh.holdOut, sh.holdErr)

end Sh

/-- Fields being built from the pieces of a word, each character marked when quoting made it
literal. -/
structure Fields where
  /-- Finished fields. -/
  done : List Marked := []
  /-- The field being built. -/
  cur : Marked := []
  /-- Whether the field being built exists, even if empty. -/
  started : Bool := false
  /-- Inside a run of separators: `some true` while the run is white space only, `some false`
  once it holds another separator. -/
  run : Option Bool := none

namespace Fields

/-- Appends text that is not split; quoted text makes the field exist even when empty. -/
def lit (f : Fields) (s : String) (quoted : Bool) : Fields :=
  { f with cur := f.cur ++ s.toList.map (·, quoted), started := f.started || quoted || !s.isEmpty,
           run := if s.isEmpty then f.run else none }

/-- Whether a separator character is white space. -/
def isWhite (c : Char) : Bool := c == ' ' || c == '\t' || c == '\n'

/-- Appends text split at the separator characters. White space around at most one other
separator is one delimiter; white space at the start of a field is dropped; another separator
ends a field even when it is empty. -/
def split (f : Fields) (ifs : List Char) (s : String) : Fields :=
  s.toList.foldl (fun f c =>
    if ifs.contains c then
      if isWhite c then
        if f.run.isSome then f
        else if f.started then { done := f.done ++ [f.cur], cur := [], started := false, run := some true }
        else f
      else if f.run == some true then { f with run := some false }
      else { done := f.done ++ [f.cur], cur := [], started := false, run := some false }
    else { f with cur := f.cur ++ [(c, false)], started := true, run := none }) f

/-- Appends several quoted values as separate fields (`"$@"`). -/
def many (f : Fields) (xs : List String) : Fields :=
  let quoted (x : String) : Marked := x.toList.map (·, true)
  match xs with
  | [] => f
  | x :: rest =>
    rest.foldl (fun f y => { done := f.done ++ [f.cur], cur := quoted y, started := true })
      { f with cur := f.cur ++ quoted x, started := true, run := none }

/-- The fields. -/
def finish (f : Fields) : List Marked := if f.started then f.done ++ [f.cur] else f.done

/-- The texts of the fields built so far, the unfinished one included. -/
def texts (f : Fields) : List String := (f.done ++ [f.cur]).map Pathname.text

end Fields

/-- The named signals by number, without the `SIG` prefix. -/
def signals : List (String × Nat) :=
  [("HUP", 1), ("INT", 2), ("QUIT", 3), ("ILL", 4), ("TRAP", 5), ("ABRT", 6), ("BUS", 7),
   ("FPE", 8), ("KILL", 9), ("USR1", 10), ("SEGV", 11), ("USR2", 12), ("PIPE", 13),
   ("ALRM", 14), ("TERM", 15), ("CHLD", 17), ("CONT", 18), ("STOP", 19),
   ("TSTP", 20), ("TTIN", 21), ("TTOU", 22), ("URG", 23), ("XCPU", 24), ("XFSZ", 25),
   ("VTALRM", 26), ("PROF", 27), ("WINCH", 28), ("IO", 29), ("PWR", 30), ("SYS", 31)]

/-- The number of signals: they run from 1 to 64. -/
def signalCount : Nat := 65

/-- A signal's name: its name in the table, the real-time ones counted from `RTMIN` up to
`RTMIN+15` and down from `RTMAX`, and the number itself for one without a name. -/
def signalName (n : Nat) : String :=
  match signals.find? (·.2 == n) with
  | some (name, _) => name
  | none =>
    if n == 34 then "RTMIN"
    else if 34 < n && n ≤ 49 then "RTMIN+" ++ toString (n - 34)
    else if 49 < n && n < 64 then "RTMAX-" ++ toString (64 - n)
    else if n == 64 then "RTMAX"
    else toString n

/-- A signal by number (below 65) or by name in any case, without the `SIG` prefix. -/
def signalOf (s : String) : Option Nat :=
  if !s.isEmpty && s.toList.all Char.isDigit then
    let v := s.toList.foldl (fun a c => a * 10 + (c.toNat - 48)) 0
    if v < signalCount then some v else none
  else
    let up := s.toUpper
    (List.range signalCount).find? fun k => k != 0 && signalName k == up

/-- A condition of `trap`: a signal, or `EXIT` (also `0`) for the shell's exit. -/
def conditionOf (s : String) : Option Nat :=
  if s.toUpper == "EXIT" then some 0 else signalOf s

/-- A condition's name as `trap` lists it. -/
def conditionName (n : Nat) : String :=
  if n == 0 then "EXIT" else signalName n

/-- Writes logged with their times, latest first, merged in time order (earlier first, ties in
the order they were written). -/
def mergeLog (log : List (Nat × List UInt8)) : List UInt8 :=
  (log.reverse.mergeSort (fun a b => decide (a.1 ≤ b.1))).flatMap (·.2)

end DefUseCoverage.Shell
