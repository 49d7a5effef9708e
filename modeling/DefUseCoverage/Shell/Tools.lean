import DefUseCoverage.Shell.Printf
import DefUseCoverage.Shell.Tool.Basic
import DefUseCoverage.Shell.Tool.Text
import DefUseCoverage.Shell.Tool.Listing
import DefUseCoverage.Shell.Tool.Copy
import DefUseCoverage.Shell.Tool.Remove
import DefUseCoverage.Shell.Tool.Create
import DefUseCoverage.Shell.Tool.Seq
import DefUseCoverage.Shell.Tool.Grep
import DefUseCoverage.Shell.Tool.Expr
import DefUseCoverage.Shell.Tool.Sed
import DefUseCoverage.Shell.Tool.Sort
import DefUseCoverage.Shell.Tool.Chars
import DefUseCoverage.Shell.Tool.Lines
import DefUseCoverage.Shell.Tool.Numbering
import DefUseCoverage.Shell.Tool.Portion
import DefUseCoverage.Shell.Tool.Columns
import DefUseCoverage.Shell.Tool.Repeats
import DefUseCoverage.Shell.Tool.Dump
import DefUseCoverage.Shell.Tool.Names
/-!
# Utilities

The programs a script can run besides the shell itself: `cat`, `grep`, `sleep`, `seq`, `cp`,
`mv`, `rm`, `rmdir`, `mkdir`, `touch`, `head`, `tail`, `wc`, `tee`, `ls`, `basename`, `dirname`,
`pwd`, `echo`, `printf`, `test`, `[`, `true`, `false`, `expr`, `sed`, `sort`, `uniq`, `tr`,
`cut`, `tac`, `rev`, `paste`, `nl` and `od`, found by name.
-/

namespace DefUseCoverage.Shell

namespace Tool

/-- One duration of `sleep` in milliseconds: a decimal number with an optional unit `s`, `m`,
`h` or `d`; `none` when malformed, and `forever` for `inf`. -/
def duration (s : String) : Option (Option Nat) :=
  if s == "inf" || s == "infinity" then some none
  else
    let cs := s.toList
    let (num, unit) := match cs.getLast? with
      | some 's' => (cs.dropLast, 1000)
      | some 'm' => (cs.dropLast, 60000)
      | some 'h' => (cs.dropLast, 3600000)
      | some 'd' => (cs.dropLast, 86400000)
      | _ => (cs, 1000)
    let whole := num.takeWhile Char.isDigit
    let rest := num.drop whole.length
    let frac := match rest with
      | '.' :: f => some f
      | [] => some []
      | _ => none
    match frac with
    | some f =>
      if (whole.isEmpty && f.isEmpty) || !f.all Char.isDigit then none
      else
        let w : Nat := whole.foldl (fun a c => a * 10 + (c.toNat - 48)) 0
        let fd := (f ++ List.replicate 9 '0').take 9
        let nanos : Nat := fd.foldl (fun a c => a * 10 + (c.toNat - 48)) 0
        some (some ((w * 1000000000 + nanos) * unit / 1000000000))
    | none => none

/-- `sleep`: the sum of its durations. -/
def sleep (cmd : String) (args : List String) (ws : Workspace) : ToolRun :=
  let hint := "Try " ++ quote (cmd ++ " --help") ++ " for more information.\n"
  if args.isEmpty then { ws := ws, err := bytes (cmd ++ ": missing operand\n" ++ hint), status := 1 }
  else
    let parsed := args.map fun a => (a, duration a)
    match parsed.find? (fun (_, d) => d.isNone) with
    | some (a, _) => { ws := ws, err := bytes (cmd ++ ": invalid time interval " ++ quoteArg a ++ "\n" ++ hint), status := 1 }
    | none =>
      let ds := parsed.filterMap (·.2)
      if ds.any Option.isNone then { ws := ws, forever := true }
      else { ws := ws, delayMs := (ds.filterMap id).foldl (· + ·) 0 }

/-- `echo` as a program: arguments joined by spaces and a newline; `-n` drops the newline and
`-e` reads backslash escapes. -/
def echo (args : List String) (ws : Workspace) : ToolRun :=
  let rec opts : List String → Bool → Bool → Bool × Bool × List String
    | a :: rest, n, e =>
      match a.toList with
      | '-' :: cs@(_ :: _) =>
        if cs.all (fun c => c == 'n' || c == 'e' || c == 'E') then
          opts rest (n || cs.contains 'n') (if cs.contains 'E' then false else e || cs.contains 'e')
        else (n, e, a :: rest)
      | _ => (n, e, a :: rest)
    | [], n, e => (n, e, [])
  let (noNewline, escapes, words) := opts args false false
  let body := " ".intercalate words
  let (bs, stop) := if escapes then Format.echoEscapes body.toList else (bytes body, false)
  { ws := ws, out := bs ++ (if noNewline || stop then [] else [10]) }

/-- The names of the utilities. -/
def names : List String :=
  ["cat", "grep", "sleep", "seq", "cp", "mv", "rm", "rmdir", "mkdir", "touch", "head", "tail", "wc", "tee",
   "ls", "basename", "dirname", "pwd", "echo", "printf", "test", "[", "true", "false", "expr", "sed",
   "sort", "uniq", "tr", "cut", "tac", "rev", "paste", "nl", "od"]

/-- Runs a utility by name; `cmd` is the name it was started by, as its messages print it. -/
def run (name cmd : String) (args : List String) (input : List UInt8) (inputSize : Option Nat)
    (ws : Workspace) : ToolRun :=
  match name with
  | "cat" => cat cmd args input ws
  | "grep" => grep cmd args input ws
  | "expr" => expr cmd args ws
  | "sed" => sed cmd args input ws
  | "sort" => sort cmd args input ws
  | "uniq" => uniq cmd args input ws
  | "tr" => tr cmd args input ws
  | "cut" => cut cmd args input ws
  | "tac" => tac cmd args input ws
  | "rev" => rev cmd args input ws
  | "paste" => paste cmd args input ws
  | "nl" => nl cmd args input ws
  | "od" => od cmd args input ws
  | "sleep" => sleep cmd args ws
  | "seq" => seq cmd args ws
  | "cp" => transfer false cmd args input ws
  | "mv" => transfer true cmd args input ws
  | "rm" => rm cmd args input ws
  | "rmdir" => rmdir cmd args ws
  | "mkdir" => mkdir cmd args ws
  | "touch" => touch cmd args ws
  | "head" => head cmd args input inputSize ws
  | "tail" => tail cmd args input inputSize ws
  | "wc" => wc cmd args input inputSize ws
  | "tee" => tee cmd args input ws
  | "ls" => ls cmd args ws
  | "basename" => basename cmd args ws
  | "dirname" => dirname cmd args ws
  | "pwd" => { ws := ws, out := bytes ("/" ++ "/".intercalate ws.cwd ++ "\n") }
  | "echo" => echo args ws
  | "printf" =>
    match args with
    | fmt :: rest =>
      let o := Format.printf fmt rest
      { ws := ws, out := o.out, err := (o.errors.map fun e => errLine cmd e).flatten, status := min o.status 1 }
    | [] => { ws := ws, err := bytes (cmd ++ ": missing operand\n"), status := 1 }
  | "test" | "[" =>
    let (status, msg) := Condition.programStatus (fileView ws) (name == "[") args
    { ws := ws, status := status, err := match msg with
      | some m => errLine cmd m
      | none => [] }
  | "true" => { ws := ws }
  | "false" => { ws := ws, status := 1 }
  | _ => { ws := ws, err := errLine cmd "not found", status := 127 }

end Tool

end DefUseCoverage.Shell
