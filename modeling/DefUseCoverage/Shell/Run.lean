import DefUseCoverage.Shell.State
import DefUseCoverage.Shell.Parse
import DefUseCoverage.Shell.Arith
import DefUseCoverage.Shell.Getopts
/-!
# Running shell scripts

The shell reads a script one complete command at a time and runs it:

* *Expansion.* Parameters, command substitutions and arithmetic are expanded in each word; the
  results of unquoted expansions are split into fields at the separator characters (`IFS`,
  by default space, tab and newline); quoted text is kept whole.
* *Redirections* are applied after the words are expanded; a redirection that fails is
  reported (`cannot create x: Directory nonexistent`, `cannot open x: No such file`) and the
  command does not run, with status 2.
* *Commands* are, in order, functions, the shell's own commands and programs on the search
  path. A program that is not found is reported as `sh: LINE: name: not found` with status
  127; a file that is there but cannot be run as `Permission denied` with status 126.
* *Pipelines, subshells and command substitutions* run in a copy of the shell: what they do
  to files, time and output stays, their variables and directory do not. Background jobs run
  from the time they are started without making the shell wait, and keep the shell's output
  open until they end. Stages of a pipeline all start together.
* *Status and control.* `exit`, `return`, `break` and `continue` leave commands; with `set -e`
  a failing command outside a condition ends the shell; `kill` of the shell's own process
  ends it by a signal.

Every message starts with the shell's name and the line of the command, as in
`sh: 1: foo: not found`. The fuel bounds the depth of nesting and the number of loop rounds;
a run without fuel, or past its deadline, never ends.
-/

namespace DefUseCoverage.Shell

/-- How a program ended. -/
inductive Exit where
  /-- It exited with a status. -/
  | code (n : Nat)
  /-- A signal killed it. -/
  | signal (s : Nat)
  /-- It never ends. -/
  | never
deriving DecidableEq, Repr

/-- What running a program did. -/
structure Process where
  /-- Its standard output. -/
  out : List UInt8
  /-- Its standard error. -/
  err : List UInt8
  /-- How it ended. -/
  exit : Exit
  /-- The file tree afterwards. -/
  ws : Workspace
  /-- When it ended. -/
  clock : Nat
  /-- When its standard output was closed by the last job holding it. -/
  holdOut : Nat := 0
  /-- When its standard error was closed by the last job holding it. -/
  holdErr : Nat := 0
  /-- Its standard input not read. -/
  inputLeft : List UInt8 := []

/-- The options of `cd` (`-L`, `-P`, up to `--` or the first word that is none): the first
letter that is no option, if any, and the words after them. -/
def cdOptions : List String → Option Char × List String
  | "--" :: rest => (none, rest)
  | a :: rest =>
    match a.toList with
    | '-' :: cs@(_ :: _) =>
      match cs.find? (fun c => c != 'L' && c != 'P') with
      | some c => (some c, rest)
      | none => cdOptions rest
    | _ => (none, a :: rest)
  | [] => (none, [])

/-- The shell's other own commands. -/
def regularBuiltins : List String :=
  ["echo", "printf", "test", "[", "true", "false", "cd", "chdir", "pwd", "read", "wait", "kill",
   "umask", "type", "command", "alias", "unalias", "getopts", "jobs", "hash", "ulimit", "bg", "fg"]

/-- Programs installed on the search path. -/
def programs : List String := "sh" :: "dash" :: Tool.names

/-- The directories of the search path. -/
def searchPath : List String :=
  ["/usr/local/sbin", "/usr/local/bin", "/usr/sbin", "/usr/bin", "/sbin", "/bin"]

/-- The program an absolute path names, when it is an installed one: the programs live in
`/usr/bin`, which `/bin` also names. -/
def programAt (p : AbsPath) : Option String :=
  match p.getLast? with
  | some name =>
    if programs.contains name && (p.dropLast == ["bin"] || p.dropLast == ["usr", "bin"]) then some name
    else none
  | none => none

/-- Whether a directory named in `PATH` is the one of the installed programs, however its
slashes and `.` parts are written. -/
def programDir (entry : String) : Bool :=
  let parts := (entry.splitOn "/").filter fun c => c != "" && c != "."
  entry.startsWith "/" && (parts == ["usr", "bin"] || parts == ["bin"])

/-- Where a program is found by name on a search path (the value of `PATH`, none when it is
unset): the first directory of the path that holds it, joined to the name as the shell joins
them. -/
def findOnPath (path : Option String) (name : String) : Option String :=
  if !programs.contains name then none
  else (path.bind fun p => (p.splitOn ":").find? programDir).map (· ++ "/" ++ name)

/-- The system's text for a failed open, as the shell words it. -/
def openText : IoError → String
  | .notFound => "No such file"
  | e => IoError.text e

/-- The system's text for a failed create, as the shell words it. -/
def createText : IoError → String
  | .notFound => "Directory nonexistent"
  | e => IoError.text e

namespace Sh

/-- The separator characters. -/
def ifs (sh : Sh) : List Char := ((sh.var? "IFS").getD " \t\n").toList

/-- Opens a file on a descriptor for a redirection, or the message why not. -/
def openFile (sh : Sh) (fd : Nat) (mode : RedirMode) (name : String) : Except String Sh :=
  match mode with
  | .read =>
    match Tool.nodeAt sh.ws name with
    | .ok (_, .file bs) =>
      let (sh, k) := sh.openStream bs
      .ok ({ sh with regularStreams := (k, bs.length) :: sh.regularStreams }.setFd fd (.input k))
    | .ok (_, .sink) => .ok (sh.setFd fd .null)
    | .ok (_, .dir) => let (sh, k) := sh.openStream []; .ok (sh.setFd fd (.input k))
    | .error e => .error ("cannot open " ++ name ++ ": " ++ openText e)
  | _ =>
    match sh.ws.creating name with
    | .error e => .error ("cannot create " ++ name ++ ": " ++ createText e)
    | .ok p =>
      match sh.ws.parentsOk p with
      | .error e => .error ("cannot create " ++ name ++ ": " ++ createText e)
      | .ok () =>
        match sh.ws.node? p with
        | some .dir => .error ("cannot create " ++ name ++ ": Is a directory")
        | some .sink => .ok (sh.setFd fd .null)
        | existing =>
          if !(p.dropLast.isEmpty || sh.ws.node? p.dropLast == some .dir) then
            .error ("cannot create " ++ name ++ ": Directory nonexistent")
          else if mode == .write && existing.isSome && sh.flags.contains 'C' then
            .error ("cannot create " ++ name ++ ": File exists")
          else
            let fresh := mode == .write || mode == .clobber || existing.isNone
            let ws := if fresh then (sh.ws.write p []).toOption.getD sh.ws else sh.ws
            .ok ({ sh with ws := ws }.setFd fd (.file p))

/-- The shell after a failed command reports and sets its status. -/
def fail (sh : Sh) (msg : String) (status : Nat) : Sh := { sh.complain msg with status := status }

/-- With `set -x`, a command about to run written to standard error after `PS4`: its
assignments and words as they expanded, apart by blanks. -/
def trace (sh : Sh) (vals : List (String × String)) (words : List String) : Sh :=
  if !sh.flags.contains 'x' then sh
  else
    let items := vals.map (fun (k, v) => k ++ "=" ++ v) ++ words
    sh.emit 2 (Utf8.encodeKeeping ((sh.var? "PS4").getD "" ++ " ".intercalate items ++ "\n"))

/-- Assignments, in order; assigning a read-only variable is an error that ends the shell,
given by `false`. -/
def assignAll (sh : Sh) (vals : List (String × String)) : Sh × Bool :=
  vals.foldl (fun (acc : Sh × Bool) (k, v) =>
    let (sh, ok) := acc
    if !ok then acc
    else if sh.readonly.contains k then (sh.fail (k ++ ": is read only") 2, false)
    else (sh.setVar k v, true)) (sh, true)

/-- How control goes on after a command: with `set -e`, a failure outside a condition ends
the shell. -/
def settle (sh : Sh) (cond : Bool) (f : Flow) : Sh × Flow :=
  if f == .normal && !cond && sh.errexit && sh.status != 0 then (sh, .exit) else (sh, f)

/-- A text that is a number (digits only), as the shell reads numbers. -/
def number? (s : String) : Option Nat :=
  let v := s.toList.foldl (fun a c => a * 10 + (c.toNat - 48)) 0
  if !s.isEmpty && s.toList.all Char.isDigit && v ≤ 2147483647 then some v
  else none

/-- The shell's text without trailing newlines. -/
def stripNewlines (s : String) : String :=
  String.ofList (s.toList.reverse.dropWhile (· == '\n')).reverse

/-- The shell after `wait` for every job: the clock moves to the last job's end. -/
def waitAll (sh : Sh) : Sh :=
  let last := sh.jobs.foldl (fun a j => max a j.ends) sh.clock
  { sh with clock := last, status := (sh.jobs.getLast?.map (·.status)).getD 0 }

/-- A background job by process number or as `%N`, the Nth job started. -/
def job? (sh : Sh) (p : String) : Option Job :=
  match p.toList with
  | '%' :: ds =>
    if ds == ['%'] || ds == ['+'] then sh.jobs.getLast?
    else (Sh.number? (String.ofList ds)).bind fun k => sh.jobs[k - 1]?
  | _ => sh.jobs.find? (fun j => toString j.pid == p)

/-- Signals whose default action is nothing. -/
def harmless (s : Nat) : Bool := s == 0 || s == 17 || s == 18 || s == 23 || s == 28

/-- A line read from standard input: the line without its newline, whether a newline ended
it, and the shell after reading it. -/
def readLine (sh : Sh) : List UInt8 × Bool × Sh :=
  let bs := sh.input
  let line := bs.takeWhile (· != 10)
  let rest := bs.drop line.length
  match rest with
  | [] => (line, false, sh.leaveInput [])
  | _ :: after => (line, true, sh.leaveInput after)

/-- Values for `read`'s variables from a line whose characters are marked when a backslash
escaped them: fields split as words are, escaped characters never separating, and the last
variable taking the rest of the line without the separator white space at its ends. Variables
beyond the fields get empty values. The fuel bounds the variables. -/
def readFields (ifs : List Char) (line : List (Char × Bool)) (names : List String) : List (String × String) :=
  let isSep (c : Char × Bool) : Bool := !c.2 && ifs.contains c.1
  let isWhiteSep (c : Char × Bool) : Bool := isSep c && Fields.isWhite c.1
  let text (cs : List (Char × Bool)) : String := String.ofList (cs.map (·.1))
  let rec go : List String → List (Char × Bool) → List (String × String)
    | [], _ => []
    | [v], cs =>
      let cs := cs.dropWhile isWhiteSep
      [(v, text (cs.reverse.dropWhile isWhiteSep).reverse)]
    | v :: more, cs =>
      let cs := cs.dropWhile isWhiteSep
      let w := cs.takeWhile (fun c => !isSep c)
      let rest := match cs.drop w.length with
        | [] => []
        | c :: r =>
          let r := r.dropWhile isWhiteSep
          if Fields.isWhite c.1 then
            match r with
            | d :: r' => if isSep d && !Fields.isWhite d.1 then r'.dropWhile isWhiteSep else r
            | [] => []
          else r
      (v, text w) :: go more rest
  go names line

end Sh

/-- The options a shell is started with. -/
structure ShellOptions where
  /-- `-c`: the script is the first operand. -/
  command : Bool := false
  /-- `-s`: the script is read from standard input. -/
  stdin : Bool := false
  /-- `-e`. -/
  errexit : Bool := false
  /-- `-u`. -/
  nounset : Bool := false
  /-- The other option letters set. -/
  flags : List Char := []
  /-- What follows the options. -/
  operands : List String := []

/-- The letters of the options by their long names. -/
def optionNames : List (String × Char) :=
  [("errexit", 'e'), ("noglob", 'f'), ("ignoreeof", 'I'), ("monitor", 'm'), ("noexec", 'n'),
   ("xtrace", 'x'), ("verbose", 'v'), ("vi", 'V'), ("emacs", 'E'), ("noclobber", 'C'),
   ("allexport", 'a'), ("notify", 'b'), ("nounset", 'u'), ("privileged", 'p')]

/-- The options as `set -o` lists them, each with whether it is on; `set +o` writes them
as the commands that would set them again. -/
def Sh.optionListing (sh : Sh) (asCommands : Bool) : String :=
  let flag (c : Char) : Bool := sh.flags.contains c
  let table : List (String × Bool) :=
    [("errexit", sh.errexit), ("noglob", flag 'f'), ("ignoreeof", flag 'I'), ("interactive", flag 'i'),
     ("monitor", flag 'm'), ("noexec", flag 'n'), ("stdin", flag 's'), ("xtrace", flag 'x'),
     ("verbose", flag 'v'), ("vi", flag 'V'), ("emacs", flag 'E'), ("noclobber", flag 'C'),
     ("allexport", flag 'a'), ("notify", flag 'b'), ("nounset", sh.nounset), ("privileged", flag 'p'),
     ("nolog", false), ("debug", false)]
  if asCommands then
    String.join (table.map fun (name, on) => "set " ++ (if on then "-o " else "+o ") ++ name ++ "\n")
  else
    "Current option settings\n" ++ String.join (table.map fun (name, on) =>
      name ++ String.ofList (List.replicate (16 - name.length) ' ') ++ (if on then "on" else "off") ++ "\n")

/-- The letters of one option argument of `read`: `-r` (backslashes are plain) and `-p PROMPT`
(the prompt, written only to a terminal, takes the rest of the argument or the next one);
whether `-r` was among them and the arguments left, or the message for a bad option. -/
def readLetters : List Char → List String → Except String (Bool × List String)
  | [], rest => .ok (false, rest)
  | 'r' :: cs, rest => (readLetters cs rest).map fun (_, r) => (true, r)
  | 'p' :: cs, rest =>
    if !cs.isEmpty then .ok (false, rest)
    else match rest with
      | _ :: r => .ok (false, r)
      | [] => .error "No arg for -p option"
  | c :: _, _ => .error ("Illegal option -" ++ c.toString)

/-- The options of `read` up to `--` or the first name: whether backslashes are plain, and the
names. The fuel bounds the arguments. -/
def readArgs : Nat → List String → Except String (Bool × List String)
  | 0, rest => .ok (false, rest)
  | _, [] => .ok (false, [])
  | k + 1, a :: rest =>
    if a == "--" then .ok (false, rest)
    else match a.toList with
      | '-' :: cs@(_ :: _) => do
        let (raw, rest) ← readLetters cs rest
        let (more, names) ← readArgs k rest
        pure (raw || more, names)
      | _ => .ok (false, a :: rest)

/-- A set of option letters with one set or cleared. -/
def withFlag (flags : List Char) (c : Char) (on : Bool) : List Char :=
  if on then (if flags.contains c then flags else flags ++ [c]) else flags.filter (· != c)

/-- The option letters a shell accepts. -/
def optionLetters : List Char :=
  ['a', 'b', 'C', 'c', 'E', 'e', 'f', 'h', 'I', 'i', 'l', 'm', 'n', 'p', 's', 'u', 'v', 'x']

/-- The options set or cleared by a bunch of letters, or the first letter that is not an
option. -/
def ShellOptions.letters (o : ShellOptions) (on : Bool) : List Char → Except Char ShellOptions
  | [] => .ok o
  | c :: cs =>
    if !optionLetters.contains c then .error c
    else
      let o := match c with
        | 'c' => { o with command := on || o.command }
        | 's' => { o with stdin := on || o.stdin }
        | 'e' => { o with errexit := on }
        | 'u' => { o with nounset := on }
        | _ => { o with flags := withFlag o.flags c on }
      o.letters on cs

/-- The options with one set or cleared by its long name. -/
def ShellOptions.named (o : ShellOptions) (name : String) (on : Bool) : ShellOptions :=
  match optionNames.find? (·.1 == name) with
  | some (_, c) => (o.letters on [c]).toOption.getD o
  | none => o

/-- Reads a shell's options from its arguments: bunches of letters after `-` (set) or `+`
(cleared), `-o name`, up to `--`, `-` or the first operand. -/
def readShellOptions : List String → ShellOptions → Except Char ShellOptions
  | [], o => .ok o
  | "--" :: rest, o | "-" :: rest, o => .ok { o with operands := rest }
  | "-o" :: name :: rest, o => readShellOptions rest (o.named name true)
  | "+o" :: name :: rest, o => readShellOptions rest (o.named name false)
  | a :: rest, o =>
    match a.toList with
    | '-' :: cs@(_ :: _) =>
      match o.letters true cs with
      | .ok o => readShellOptions rest o
      | .error c => .error c
    | '+' :: cs@(_ :: _) =>
      match o.letters false cs with
      | .ok o => readShellOptions rest o
      | .error c => .error c
    | _ => .ok { o with operands := a :: rest }

/-- A text quoted for the shell as `trap` lists actions: in single quotes, with runs of single
quotes in double quotes. -/
def singleQuote (s : String) : String :=
  let rec go : Nat → List Char → String
    | 0, _ => ""
    | k + 1, cs =>
      let (body, rest) := cs.span (· != '\x27')
      let head := "\x27" ++ String.ofList body ++ "\x27"
      if rest.isEmpty then head
      else
        let (qs, more) := rest.span (· == '\x27')
        let head := head ++ "\"" ++ String.ofList qs ++ "\""
        if more.isEmpty then head else head ++ go k more
  go (s.length + 1) s.toList

/-- The slot of a name in the shell's tables: its first byte times sixteen plus all its bytes.
Listings of commands and aliases go slot by slot, each slot first entered first. -/
def slotValue (name : String) : Nat :=
  let bs := Utf8.encodeKeeping name
  (bs.headD 0).toNat * 16 + bs.foldl (fun a b => a + b.toNat) 0

/-- The slot of a program among the 31 of the table of commands. -/
def commandSlot (name : String) : Nat := slotValue name % 32768 % 31

/-- The slot of an alias among the 39 of the table of aliases. -/
def aliasSlot (name : String) : Nat := slotValue name % 39

/-- Entries of a table in listing order: by slot, and in a slot first entered first. -/
def bySlot {α : Type} (slot : α → Nat) (xs : List α) : List α :=
  xs.mergeSort fun a b => slot a ≤ slot b

/-- What a command name stands for, as `type` and `command -v` tell it: the text `command -v`
prints and the sentence `type` writes, or none when nothing of that name can run. A program
the shell already ran by name is a tracked alias for its path. -/
def Sh.describe (sh : Sh) (k : String) : Option (String × String) :=
  if Read.keywords.contains k then some (k, k ++ " is a shell keyword")
  else match sh.aliases.find? (·.1 == k) with
  | some (_, v) => some ("alias " ++ k ++ "=" ++ singleQuote v, k ++ " is an alias for " ++ v)
  | none =>
    if k.contains '/' then
      let there := match sh.ws.resolve k with
        | .ok p => (programAt p).isSome || (sh.ws.node? p).isSome
        | .error _ => false
      if there then some (k, k ++ " is " ++ k) else none
    else if sh.funcs.any (·.1 == k) then some (k, k ++ " is a shell function")
    else if specialBuiltins.contains k then some (k, k ++ " is a special shell builtin")
    else if regularBuiltins.contains k then some (k, k ++ " is a shell builtin")
    else match sh.hashed.find? (·.1 == k) with
      | some (_, at_) => some (at_, k ++ " is a tracked alias for " ++ at_)
      | none => (findOnPath (sh.var? "PATH") k).map fun at_ => (at_, k ++ " is " ++ at_)

/-- Variables listed as `set`, `export -p` and `readonly -p` show them: sorted by name, each
as `name='value'` after the lead word, or the bare name when it has no value. -/
def Sh.listing (sh : Sh) (lead : String) (names : List String) : String :=
  let sorted := names.mergeSort fun a b => decide (compareOfLessAndEq (Utf8.encodeKeeping a) (Utf8.encodeKeeping b) != .gt)
  String.join (sorted.map fun k =>
    lead ++ k ++ (match sh.var? k with
      | some v => "=" ++ singleQuote v
      | none => "") ++ "\n")

/-- The permission bits a mask leaves, as `umask -S` shows them: `u=rwx,g=rx,o=rx`. -/
def maskText (mask : Nat) : String :=
  let allowed := 511 - mask % 512
  ",".intercalate ((List.range 3).map fun i =>
    "ugo".toList[i]!.toString ++ "=" ++ String.ofList ((List.range 3).filterMap fun j =>
      if allowed / Nat.pow 2 (8 - (3 * i + j)) % 2 == 1 then some ("rwx".toList[j]!) else none))

/-- A mask written in octal with four digits, as `umask` shows it. -/
def octal4 (m : Nat) : String :=
  let ds := Nat.toDigits 8 m
  String.ofList (List.replicate (4 - ds.length) '0' ++ ds)

/-- The mask a `umask` operand sets, from the one in force: an octal number, or clauses
like `u=rwx,g+w,o-x` that change the bits allowed; none when the operand is not a mode, and
the error text for a bad octal digit. -/
def newMask (mask : Nat) (arg : String) : Except String Nat :=
  let cs := arg.toList
  if cs.head?.map Char.isDigit == some true then
    if cs.all fun c => c.toNat ≥ 48 && c.toNat < 56 then
      .ok (cs.foldl (fun a c => a * 8 + (c.toNat - 48)) 0 % 512)
    else .error ("Illegal number: " ++ arg)
  else
    let allowed := 511 - mask % 512
    -- one clause after another: who, an operator, the bits
    let rec clauses : Nat → List Char → Nat → Nat → Option Nat
      | 0, _, m, _ => some m
      | _, [], m, _ => some m
      | k + 1, cs, m, pos =>
        let (who, cs) := cs.span fun c => "augo".toList.contains c
        let pos := who.foldl (fun p c =>
          if c == 'u' then p ||| 64 else if c == 'g' then p ||| 8 else if c == 'o' then p ||| 1 else p ||| 73) pos
        let pos := if pos == 0 then 73 else pos
        match cs with
        | op :: rest =>
          if !"=+-".toList.contains op then none
          else
            let (bits, rest) := rest.span fun c => "rwxugoXs".toList.contains c
            let v := bits.foldl (fun v c =>
              if c == 'r' then v ||| 4 else if c == 'w' then v ||| 2 else if c == 'x' then v ||| 1
              else if c == 'u' then v ||| (allowed / 64) else if c == 'g' then v ||| (allowed / 8)
              else if c == 'o' then v ||| allowed
              else if c == 'X' then (if allowed &&& 73 != 0 then v ||| 1 else v) else v) 0
            let v := (v &&& 7) * pos
            let m := if op == '-' then m &&& (511 - v)
              else if op == '=' then v ||| (m &&& (511 - pos * 7)) else m ||| v
            match rest with
            | ',' :: more => clauses k more m 0
            | [] => some m
            | c :: _ => if "=+-".toList.contains c then clauses k rest m pos else none
        | [] => none
    match clauses (cs.length + 1) cs allowed 0 with
    | some m => .ok (511 - m % 512)
    | none => .error ("Illegal mode: " ++ arg)

/-- The users of the system with their home directories. -/
def homes : List (String × String) :=
  [("root", "/root"), ("daemon", "/usr/sbin"), ("bin", "/bin"), ("sys", "/dev"), ("sync", "/bin"),
   ("games", "/usr/games"), ("man", "/var/cache/man"), ("lp", "/var/spool/lpd"), ("mail", "/var/mail"),
   ("news", "/var/spool/news"), ("uucp", "/var/spool/uucp"), ("proxy", "/bin"), ("www-data", "/var/www"),
   ("backup", "/var/backups"), ("list", "/var/list"), ("irc", "/run/ircd"), ("_apt", "/nonexistent"),
   ("nobody", "/nonexistent")]

/-- The home directory a tilde prefix names: the shell's `HOME` for `~` alone, a user's home
for `~user`; none when there is none, and the prefix then stays. -/
def Sh.homeOf (sh : Sh) (name : String) : Option String :=
  if name.isEmpty then sh.var? "HOME"
  else (homes.find? (·.1 == name)).map (·.2)

/-- A word with its tilde prefixes expanded: an unquoted `~` or `~name` at its start, up to the
first `/` (in an assignment also `:`) or the end of the word, becomes the home directory,
quoted; in an assignment so does each one after an unquoted `:` of the first literal piece. -/
def Sh.tilde (sh : Sh) (assign : Bool) (w : List Part) : List Part :=
  match w with
  | .text s false :: rest =>
    let stop (c : Char) : Bool := c == '/' || (assign && c == ':')
    let home (cs : List Char) : Option (String × List Char) :=
      match cs with
      | '~' :: more =>
        let name := more.takeWhile (!stop ·)
        let after := more.drop name.length
        if after.isEmpty && !rest.isEmpty then none
        else (sh.homeOf (String.ofList name)).map (·, after)
      | _ => none
    let rec pieces : Nat → List Char → List Part
      | 0, cs => [.text (String.ofList cs) false]
      | k + 1, cs =>
        let (h, cs) := match home cs with
          | some (h, after) => ([Part.text h true], after)
          | none => ([], cs)
        if !assign then h ++ [.text (String.ofList cs) false]
        else
          let (lit, more) := cs.span (· != ':')
          match more with
          | ':' :: after => h ++ [.text (String.ofList (lit ++ [':'])) false] ++ pieces k after
          | _ => h ++ [.text (String.ofList lit) false]
    pieces (s.length + 1) s.toList ++ rest
  | _ => w

/-- Text from bytes, each byte of an invalid sequence kept as its stand-in character. -/
def textOf (bs : List UInt8) : String := String.ofList (Utf8.decodeKeeping bs)

/-- The value a `${name#pattern}` form leaves: the shortest or longest matching prefix (or
suffix) removed, byte by byte. -/
def trimmed (v : String) (pat : List GlobItem) (suffix longest : Bool) : String :=
  let cs := byteChars v
  let cuts := List.range (cs.length + 1)
  let cuts := if longest then cuts.reverse else cuts
  let hit := cuts.find? fun i =>
    if suffix then globMatch pat (cs.drop (cs.length - i)) else globMatch pat (cs.take i)
  match hit with
  | some i => String.ofList (Utf8.rejoin (if suffix then cs.take (cs.length - i) else cs.drop i))
  | none => v

mutual

/-- Runs a command; `cond` marks a condition, where `set -e` does not apply. -/
def execCmd : Nat → Cmd → Bool → Sh → Sh × Flow
  | 0, _, _, sh => (sh, .hang)
  | n + 1, cmd, cond, sh =>
    if sh.deadline < sh.clock then (sh, .hang) else
    -- under `set -n` commands are read and not run
    if sh.flags.contains 'n' then (sh, .normal) else
    match cmd with
    | .empty => (sh, .normal)
    | .simple line as ws rs => runSimple n line as ws rs cond sh
    | .seq a b =>
      let (sh, f) := execCmd n a cond sh
      if f != .normal then (sh, f) else execCmd n b cond sh
    | .background c => runBackground n c sh
    | .andThen a b =>
      let (sh, f) := execCmd n a true sh
      if f != .normal then (sh, f) else if sh.status == 0 then execCmd n b cond sh else (sh, .normal)
    | .orElse a b =>
      let (sh, f) := execCmd n a true sh
      if f != .normal then (sh, f) else if sh.status != 0 then execCmd n b cond sh else (sh, .normal)
    | .pipeline stages =>
      let (sh, f) := runPipeline n stages none sh.clock sh.clock sh
      sh.settle cond f
    | .negate c =>
      let (sh, f) := execCmd n c true sh
      if f == .normal then ({ sh with status := if sh.status == 0 then 1 else 0 }, .normal) else (sh, f)
    | .ifThen c t e =>
      let (sh, f) := execCmd n c true sh
      if f != .normal then (sh, f)
      else if sh.status == 0 then execCmd n t cond sh
      else match e with
        | .empty => ({ sh with status := 0 }, .normal)
        | _ => execCmd n e cond sh
    | .loop u c b =>
      let depth := sh.loops
      let (sh, f) := runLoop n u c b cond { sh with loops := depth + 1 } 0
      ({ sh with loops := depth }, f)
    | .forEach line v items b =>
      let sh := { sh with line }
      let depth := sh.loops
      let (sh, r) : Sh × Except Flow (List String) := match items with
        | none => (sh, .ok sh.params)
        | some ws => expandWords n ws sh []
      match r with
      | .ok xs =>
        let (sh, f) := runFor n v xs b cond { sh with loops := depth + 1 } 0
        ({ sh with loops := depth }, f)
      | .error f => (sh, f)
    | .caseOf line subject arms =>
      let (sh, r) := expandText n (sh.tilde false subject) { sh with line }
      match r with
      | .ok s => runCase n s arms cond sh
      | .error f => (sh, f)
    | .group line body rs =>
      let saved := sh.fds
      let (sh, r) := applyRedirs n rs { sh with line }
      match r with
      | .error f => (sh, f)
      | .ok false => ({ sh with fds := saved, status := 2 }, .normal)
      | .ok true =>
        let (sh, f) := execCmd n body cond sh
        ({ sh with fds := saved }, f)
    | .subshell line body rs =>
      let parent := sh
      let (sh, r) := applyRedirs n rs { sh with line }
      match r with
      | .error f => (sh, f)
      | .ok false => ({ Sh.rejoin parent sh with status := 2 }, .normal)
      | .ok true =>
        let (child, f) := execCmd n body false { sh with traps := sh.traps.filter (·.2.isEmpty) }
        let (child, f) := runExitTrap n child f
        match f with
        | .killed s => (Sh.rejoin parent child, .killed s)
        | .hang => (Sh.rejoin parent child, .hang)
        | _ => ({ Sh.rejoin parent child with status := child.status % 256 }.settle cond .normal)
    | .function name body =>
      ({ sh with funcs := (name, body) :: sh.funcs.filter (·.1 != name), status := 0 }, .normal)

/-- Rounds of a `while` (or `until`) loop; `last` is the status of the last round's body. -/
def runLoop : Nat → Bool → Cmd → Cmd → Bool → Sh → Nat → Sh × Flow
  | 0, _, _, _, _, sh, _ => (sh, .hang)
  | n + 1, u, c, b, cond, sh, last =>
    let (sh, f) := execCmd n c true sh
    if f != .normal then (sh, f)
    else if (sh.status == 0) == u then ({ sh with status := last }, .normal)
    else
      let (sh, f) := execCmd n b cond sh
      match f with
      | .normal | .cont 1 => runLoop n u c b cond sh sh.status
      | .brk 1 => ({ sh with status := 0 }, .normal)
      | .brk (k + 2) => (sh, .brk (k + 1))
      | .cont (k + 2) => (sh, .cont (k + 1))
      | f => (sh, f)

/-- Rounds of a `for` loop over the values left. -/
def runFor : Nat → String → List String → Cmd → Bool → Sh → Nat → Sh × Flow
  | 0, _, _, _, _, sh, _ => (sh, .hang)
  | _ + 1, _, [], _, _, sh, last => ({ sh with status := last }, .normal)
  | n + 1, v, x :: xs, b, cond, sh, _ =>
    let (sh, f) := execCmd n b cond (sh.setVar v x)
    match f with
    | .normal | .cont 1 => runFor n v xs b cond sh sh.status
    | .brk 1 => ({ sh with status := 0 }, .normal)
    | .brk (k + 2) => (sh, .brk (k + 1))
    | .cont (k + 2) => (sh, .cont (k + 1))
    | f => (sh, f)

/-- The arms of a `case`: the first whose pattern matches runs. -/
def runCase : Nat → String → List (List (List Part) × Cmd) → Bool → Sh → Sh × Flow
  | 0, _, _, _, sh => (sh, .hang)
  | _ + 1, _, [], _, sh => ({ sh with status := 0 }, .normal)
  | n + 1, s, (pats, body) :: rest, cond, sh =>
    let (sh, r) := anyPattern n pats s sh
    match r with
    | .error f => (sh, f)
    | .ok true => execCmd n body cond sh
    | .ok false => runCase n s rest cond sh

/-- Whether a text matches one of some patterns. -/
def anyPattern : Nat → List (List Part) → String → Sh → Sh × Except Flow Bool
  | 0, _, _, sh => (sh, .error .hang)
  | _ + 1, [], _, sh => (sh, .ok false)
  | n + 1, p :: ps, s, sh =>
    let (sh, r) := expandPattern n (sh.tilde false p) sh []
    match r with
    | .error f => (sh, .error f)
    | .ok chars => if matchesBytes chars s then (sh, .ok true) else anyPattern n ps s sh

/-- The stages of a pipeline, each in a copy of the shell, all starting at `start`; the
output of each is the input of the next. -/
def runPipeline : Nat → List Cmd → Option Nat → Nat → Nat → Sh → Sh × Flow
  | 0, _, _, _, _, sh => (sh, .hang)
  | _ + 1, [], _, _, _, sh => (sh, .normal)
  | n + 1, [last], prev, start, ends, sh =>
    let child := match prev with
      | some m => { sh.setFd 0 (.input m) with clock := start }
      | none => { sh with clock := start }
    let (child, f) := execCmd n last false child
    match f with
    | .killed s => (Sh.rejoin sh child, .killed s)
    | .hang => (Sh.rejoin sh child, .hang)
    | _ => ({ Sh.rejoin sh child with clock := max ends child.clock, status := child.status % 256 }, .normal)
  | n + 1, stage :: more, prev, start, ends, sh =>
    let k := sh.captures.length
    let child := match prev with
      | some m => sh.setFd 0 (.input m)
      | none => sh
    let child := { child.setFd 1 (.capture k) with clock := start, captures := sh.captures ++ [[]] }
    let (child, f) := execCmd n stage false child
    match f with
    | .killed s => (Sh.rejoin sh child, .killed s)
    | .hang => (Sh.rejoin sh child, .hang)
    | _ =>
      let bytes := child.captures.getD k []
      let back := { Sh.rejoin sh child with captures := child.captures.take k }
      let (back, m) := back.openStream bytes
      runPipeline n more (some m) start (max ends child.clock) back

/-- A background job: it runs from now in a copy of the shell with standard input from the
null device; the shell does not wait, and the job keeps the shell's output open until it
ends. -/
def runBackground : Nat → Cmd → Sh → Sh × Flow
  | 0, _, sh => (sh, .hang)
  | n + 1, c, sh =>
    let pid := sh.nextPid
    let child := { (sh.setFd 0 .null) with nextPid := pid + 1 }
    let (child, f) := execCmd n c false child
    match f with
    | .killed s => (Sh.rejoin sh child, .killed s)
    | _ =>
      let ends := if f == .hang then sh.deadline + 1000000000 else child.clock
      let back := Sh.rejoin sh child
      let holds := [sh.fd 1, sh.fd 2]
      let job : Job := {
        pid := pid, ends := ends, status := child.status % 256,
        holdsOut := holds.contains .out, holdsErr := holds.contains .err }
      ({ back with clock := sh.clock, lastJob := some pid, status := 0, jobs := back.jobs ++ [job] },
        .normal)

/-- A simple command: words expanded, then redirections, then the command with its
assignments. -/
def runSimple : Nat → Nat → List (String × List Part) → List (List Part) → List Redir → Bool → Sh → Sh × Flow
  | 0, _, _, _, _, _, sh => (sh, .hang)
  | n + 1, line, as, words, rs, cond, sh =>
    let sh := { sh with line := line, substStatus := none }
    let (sh, r) := expandWords n words sh []
    match r with
    | .error f => (sh, f)
    | .ok [] =>
      let saved := sh.fds
      let (sh, rr) := applyRedirs n rs sh
      match rr with
      | .error f => (sh, f)
      | .ok false => { sh with fds := saved, status := 2 }.settle cond .normal
      | .ok true =>
        let sh := { sh with fds := saved }
        let (sh, ra) := expandAssigns n as sh []
        match ra with
        | .error f => (sh, f)
        | .ok vals =>
          let (sh, ok) := (sh.trace vals []).assignAll vals
          if !ok then (sh, .abort)
          else { sh with status := sh.substStatus.getD 0 }.settle cond .normal
    | .ok (name :: args) =>
      let (sh, ra) := expandAssigns n as sh []
      match ra with
      | .error f => (sh, f)
      | .ok vals =>
        let sh := sh.trace vals (name :: args)
        let (sh, ok) := if specialBuiltins.contains name then sh.assignAll vals else (sh, true)
        if !ok then (sh, .abort)
        else if name == "exec" && args.isEmpty then
          let (sh, rr) := applyRedirs n rs sh
          match rr with
          | .error f => (sh, f)
          | .ok false => ({ sh with status := 2 }, .abort)
          | .ok true => ({ sh with status := 0 }, .normal)
        else
          let saved := sh.fds
          let (sh, rr) := applyRedirs n rs sh
          match rr with
          | .error f => (sh, f)
          | .ok false =>
            -- a redirection that fails is an error for the shell's special commands
            if specialBuiltins.contains name then ({ sh with fds := saved, status := 2 }, .abort)
            else { sh with fds := saved, status := 2 }.settle cond .normal
          | .ok true =>
            let (sh, f) := runCommand n name args vals true cond sh
            ({ sh with fds := saved }.settle cond f)

/-- A command by name: a function (when `functions` allows), one of the shell's own, or a
program. -/
def runCommand : Nat → String → List String → List (String × String) → Bool → Bool → Sh → Sh × Flow
  | 0, _, _, _, _, _, sh => (sh, .hang)
  | n + 1, name, args, env, functions, cond, sh =>
    -- assignments before a function or a regular builtin hold while it runs
    let temporary := !specialBuiltins.contains name && !env.isEmpty &&
      ((functions && sh.funcs.any (·.1 == name)) || regularBuiltins.contains name)
    let before := env.map fun (k, _) => (k, sh.var? k)
    let (sh, ok) := if temporary then sh.assignAll env else (sh, true)
    if !ok then (sh, .abort)
    else
    let restore (sh : Sh) : Sh :=
      if temporary then before.foldl (fun (sh : Sh) (k, v) =>
        match v with
        | some v => sh.putVar k v
        | none => { sh with vars := sh.vars.filter (·.1 != k) }) sh
      else sh
    match (if functions then sh.funcs.find? (·.1 == name) else none) with
    | some (_, body) =>
      let saved := sh
      let (sh, f) := execCmd n body cond
        { sh with params := args, optIndex := 1, optOffset := none, frames := [] :: sh.frames, loops := 0 }
      let back := sh.dropFrame
      let sh := restore { back with params := saved.params, optIndex := saved.optIndex, optOffset := saved.optOffset,
                                    loops := saved.loops }
      match f with
      | .ret => (sh, .normal)
      | f => (sh, f)
    | none =>
      if specialBuiltins.contains name || regularBuiltins.contains name then
        -- a builtin's messages name the builtin itself
        let (sh', f) := runBuiltin n name args cond { sh with lostOutput := false, context := none }
        let sh' := if sh'.lostOutput then { sh'.complain (name ++ ": " ++ name ++ ": I/O error") with status := 1 } else sh'
        (restore { sh' with lostOutput := false, context := sh.context }, f)
      else runExternal n name args env false sh

/-- The arguments of `kill`: whether `-l` lists signals, the signal named (by `-SIG`, `-N` or
`-s SIG`), and the operands; the error text for a bad option. -/
def killArgs (args : List String) : Except String (Bool × Option Nat × List String) :=
  match args with
  | first :: rest =>
    match first.toList with
    | '-' :: cs@(_ :: _) =>
      match signalOf (String.ofList cs) with
      | some s => .ok (false, some s, rest)
      | none => killOptions (args.length + 1) args false none
    | _ => .ok (false, none, args)
  | [] => .ok (false, none, [])
where
  /-- The options `-l` and `-s SIG`, up to the first operand or `--`. -/
  killOptions : Nat → List String → Bool → Option Nat → Except String (Bool × Option Nat × List String)
    | 0, rest, l, s => .ok (l, s, rest)
    | _, "--" :: rest, l, s => .ok (l, s, rest)
    | k + 1, a :: rest, l, s =>
      match a.toList with
      | '-' :: cs@(_ :: _) =>
        match cs with
        | 'l' :: more => if more.isEmpty then killOptions k rest true s else killOptions k (("-" ++ String.ofList more) :: rest) true s
        | 's' :: more =>
          let (v, rest) := if more.isEmpty then (rest.head?, rest.drop 1) else (some (String.ofList more), rest)
          match v with
          | none => .error "No arg for -s option"
          | some v =>
            match signalOf v with
            | some sig => killOptions k rest l (some sig)
            | none => .error ("invalid signal number or name: " ++ v)
        | c :: _ => .error ("Illegal option -" ++ c.toString)
        | [] => .ok (l, s, a :: rest)
      | _ => .ok (l, s, a :: rest)
    | _, [], l, s => .ok (l, s, [])

/-- The shell's own commands. -/
def runBuiltin : Nat → String → List String → Bool → Sh → Sh × Flow
  | 0, _, _, _, sh => (sh, .hang)
  | n + 1, name, args, cond, sh =>
    match name with
    | ":" | "true" => ({ sh with status := 0 }, .normal)
    | "false" => ({ sh with status := 1 }, .normal)
    | "echo" => ({ sh.emit 1 (Format.echo args) with status := 0 }, .normal)
    | "printf" =>
      let (ended, args) := match args with
        | "--" :: rest => (true, rest)
        | rest => (false, rest)
      match args with
      | [] => (sh.fail "printf: usage: printf format [arg ...]" 2, .normal)
      | fmt :: rest =>
        match fmt.toList with
        | '-' :: c :: _ =>
          if ended then
            let o := Format.printf fmt rest
            let sh := o.errors.foldl (fun sh e => sh.complain ("printf: " ++ e)) sh
            ({ sh.emit 1 o.out with status := o.status }, .normal)
          else (sh.fail ("printf: Illegal option -" ++ c.toString) 2, .normal)
        | _ =>
          let o := Format.printf fmt rest
          let sh := o.errors.foldl (fun sh e => sh.complain ("printf: " ++ e)) sh
          ({ sh.emit 1 o.out with status := o.status }, .normal)
    | "test" | "[" =>
      let (status, msg) := Condition.status (Tool.fileView sh.ws) (name == "[") args
      let sh := match msg with
        | some m => sh.complain (name ++ ": " ++ m)
        | none => sh
      ({ sh with status := status }, .normal)
    | "exit" =>
      match args with
      | [] => (sh, .exit)
      | a :: _ =>
        match Sh.number? a with
        | some v => ({ sh with status := v % 256 }, .exit)
        | none => (sh.fail ("exit: Illegal number: " ++ a) 2, .abort)
    | "return" =>
      match args with
      | [] => (sh, .ret)
      | a :: _ =>
        match Sh.number? a with
        | some v => ({ sh with status := v }, .ret)
        | none => (sh.fail ("return: Illegal number: " ++ a) 2, .abort)
    | "break" | "continue" =>
      let k := match args with
        | a :: _ => Sh.number? a
        | [] => some 1
      match k with
      | none | some 0 => (sh.fail (name ++ ": Illegal number: " ++ args.headD "") 2, .abort)
      | some k =>
        if sh.loops == 0 then ({ sh with status := 0 }, .normal)
        else
          let k := min k sh.loops
          ({ sh with status := 0 }, if name == "break" then .brk k else .cont k)
    | "cd" =>
      let (bad, rest) := cdOptions args
      match bad with
      | some c => (sh.fail ("cd: Illegal option -" ++ c.toString) 2, .normal)
      | none =>
      let orDot (s : Option String) : String := match s with
        | some v => if v.isEmpty then "." else v
        | none => "."
      let (target, announce) := match rest with
        | "-" :: _ => (orDot (sh.var? "OLDPWD"), true)
        | a :: _ => (orDot (some a), false)
        | [] => (orDot (sh.var? "HOME"), false)
      let searched := !target.startsWith "/" && !(target == "." || target == ".." ||
        target.startsWith "./" || target.startsWith "../")
      let tries : List (String × Bool) := match sh.var? "CDPATH" with
        | some path =>
          if searched then (path.splitOn ":").map fun e => if e.isEmpty then (target, false) else (Tool.joinName e target, true)
          else [(target, false)]
        | none => [(target, false)]
      let found := tries.find? fun (t, _) => match Tool.nodeAt sh.ws t with
        | .ok (_, .dir) => true
        | _ => false
      match found with
      | some (t, viaPath) =>
        match Tool.nodeAt sh.ws t with
        | .ok (p, _) =>
          let old := "/" ++ "/".intercalate sh.ws.cwd
          let new := "/" ++ "/".intercalate p
          let sh := ({ sh with ws := { sh.ws with cwd := p }, status := 0 }.putVar "OLDPWD" old).putVar "PWD" new
          ((if announce || viaPath then sh.emit 1 (Utf8.encodeKeeping (new ++ "\n")) else sh), .normal)
        | .error _ => (sh.fail ("cd: can\x27t cd to " ++ target) 2, .normal)
      | none => (sh.fail ("cd: can\x27t cd to " ++ target) 2, .normal)
    | "pwd" => ({ sh.emit 1 (Utf8.encodeKeeping ("/" ++ "/".intercalate sh.ws.cwd ++ "\n")) with status := 0 }, .normal)
    | "export" | "readonly" | "local" =>
      match args.find? fun a => a.startsWith "-" && a != "-p" with
      | some a => (sh.fail (name ++ ": Illegal option " ++ (a.take 2).toString) 2, .abort)
      | none =>
      if name == "local" && sh.frames.isEmpty then (sh.fail "local: not in a function" 2, .abort)
      else if name != "local" && (args.isEmpty || args.contains "-p") then
        let names := if name == "export" then sh.exported else sh.readonly
        ({ sh.emit 1 (Utf8.encodeKeeping (sh.listing (name ++ " ") names)) with status := 0 }, .normal)
      else
      let r := (args.filter (· != "-p")).foldl (fun (acc : Sh × Bool) a =>
        let (sh, ok) := acc
        if !ok then acc
        else
          let (k, v) := match a.splitOn "=" with
            | k :: v :: vs => (k, some ("=".intercalate (v :: vs)))
            | _ => (a, none)
          if !Read.isName k then (sh.fail (name ++ ": " ++ k ++ ": bad variable name") 2, false)
          else
          let sh := if name == "local" then sh.makeLocal k else sh
          if v.isSome && sh.readonly.contains k then (sh.fail (name ++ ": " ++ k ++ ": is read only") 2, false)
          else
            let sh := match v with
              | some v => sh.setVar k v
              | none => sh
            let sh := if name == "export" && !sh.exported.contains k then { sh with exported := sh.exported ++ [k] }
              else if name == "readonly" && !sh.readonly.contains k then { sh with readonly := sh.readonly ++ [k] }
              else sh
            (sh, true)) (sh, true)
      match r with
      | (sh, true) => ({ sh with status := 0 }, .normal)
      | (sh, false) => (sh, .abort)
    | "unset" =>
      let (fs, names) := match args with
        | "-f" :: rest => (true, rest)
        | "-v" :: rest => (false, rest)
        | rest => (false, rest)
      match names.find? (fun k => !fs && sh.readonly.contains k) with
      | some k => (sh.fail ("unset: " ++ k ++ ": is read only") 2, .abort)
      | none =>
        let sh := names.foldl (fun sh k =>
          if fs then { sh with funcs := sh.funcs.filter (·.1 != k) } else sh.unsetVar k) sh
        ({ sh with status := 0 }, .normal)
    | "shift" =>
      let k : Except String Nat := match args with
        | a :: _ => (Sh.number? a).elim (.error a) .ok
        | [] => .ok 1
      match k with
      | .error a => (sh.fail ("shift: Illegal number: " ++ a) 2, .abort)
      | .ok k =>
        if k > sh.params.length then (sh.fail "shift: can\x27t shift that many" 2, .abort)
        else ({ sh with params := sh.params.drop k, status := 0 }, .normal)
    | "set" =>
      -- the options set or cleared by one argument, or the text of the bad option
      let apply (sh : Sh) (on : Bool) (c : Char) : Except String Sh :=
        if c == 'e' then .ok { sh with errexit := on }
        else if c == 'u' then .ok { sh with nounset := on }
        else if optionLetters.contains c && c != 'c' && c != 's' && c != 'i' then .ok { sh with flags := withFlag sh.flags c on }
        else .error ("-" ++ c.toString)
      let rec opts : Nat → List String → Sh → Except String (Sh × Option (List String))
        | 0, _, sh => .ok (sh, none)
        | _, "--" :: rest, sh => .ok (sh, some rest)
        | _, ["-"], sh => .ok ({ sh with flags := sh.flags.filter fun c => c != 'x' && c != 'v' }, none)
        | k + 1, a :: rest, sh =>
          match a.toList with
          | '-' :: ['o'] | '+' :: ['o'] =>
            match rest with
            | name :: more =>
              match optionNames.find? (·.1 == name) with
              | some (_, c) => (apply sh (a == "-o") c).bind fun sh => opts k more sh
              | none => .error ("-o " ++ name)
            | [] => .ok (sh.emit 1 (Utf8.encodeKeeping (sh.optionListing (a == "+o"))), none)
          | '-' :: cs@(_ :: _) => (cs.foldlM (fun sh c => apply sh true c) sh).bind fun sh => opts k rest sh
          | '+' :: cs@(_ :: _) => (cs.foldlM (fun sh c => apply sh false c) sh).bind fun sh => opts k rest sh
          | _ => .ok (sh, some (a :: rest))
        | _, [], sh => .ok (sh, none)
      if args.isEmpty then
        ({ sh.emit 1 (Utf8.encodeKeeping (sh.listing "" (sh.vars.map (·.1)))) with status := 0 }, .normal)
      else
      match opts (args.length + 1) args sh with
      | .error bad => (sh.fail ("set: Illegal option " ++ bad) 2, .abort)
      | .ok (sh, ps) =>
        let sh := match ps with
          | some ps => { sh with params := ps }
          | none => sh
        ({ sh with status := 0 }, .normal)
    | "read" =>
      match readArgs (args.length + 1) args with
      | .error msg => (sh.fail ("read: " ++ msg) 2, .normal)
      | .ok (_, []) => (sh.fail "read: arg count" 2, .normal)
      | .ok (raw, names) =>
        -- without -r a backslash escapes the next character and one before the newline joins the
        -- next line
        let rec gather : Nat → Sh → List (Char × Bool) → List (Char × Bool) × Bool × Sh
          | 0, sh, acc => (acc, false, sh)
          | k + 1, sh, acc =>
            let (line, ended, sh) := sh.readLine
            -- the shell's strings hold no NUL byte: `read` skips them
            let cs := Utf8.decodeKeeping (line.filter (· != 0))
            if raw then (acc ++ cs.map (·, false), ended, sh)
            else
              let (marked, open_) := cs.foldl (fun (st : List (Char × Bool) × Bool) c =>
                let (out, esc) := st
                if esc then (out ++ [(c, true)], false)
                else if c == '\\' then (out, true)
                else (out ++ [(c, false)], false)) ([], false)
              if open_ && ended then gather k sh (acc ++ marked) else (acc ++ marked, ended, sh)
        let (line, ended, sh) := gather (sh.input.length + 1) sh []
        let sh := (Sh.readFields sh.ifs line names).foldl (fun sh (k, v) => sh.setVar k v) sh
        ({ sh with status := if ended then 0 else 1 }, .normal)
    | "wait" =>
      match args with
      | [] => (sh.waitAll, .normal)
      | ps =>
        (ps.foldl (fun sh p =>
          match sh.job? p with
          | some j => { sh with clock := max sh.clock j.ends, status := j.status }
          | none => { sh with status := 127 }) sh, .normal)
    | "kill" =>
      let usage := "kill: Usage: kill [-s sigspec | -signum | -sigspec] [pid | job]... or\nkill -l [exitstatus]"
      match killArgs args with
      | .error msg => (sh.fail ("kill: " ++ msg) 2, .normal)
      | .ok (list, sig, pids) =>
        let sig := if !list && sig.isNone then some 15 else sig
        if (sig.isNone || pids.isEmpty) != list then (sh.fail usage 2, .normal)
        else if list then
          match pids with
          | [] =>
            let names := (List.range (signalCount - 1)).map fun k => signalName (k + 1) ++ "\n"
            ({ sh.emit 1 (Utf8.encodeKeeping (String.join ("0\n" :: names))) with status := 0 }, .normal)
          | a :: _ =>
            match Sh.number? a with
            | none => (sh.fail ("kill: Illegal number: " ++ a) 2, .normal)
            | some v =>
              let k := if v > 128 then v - 128 else v
              if 0 < k && k < signalCount then
                ({ sh.emit 1 (Utf8.encodeKeeping (signalName k ++ "\n")) with status := 0 }, .normal)
              else (sh.fail ("kill: invalid signal number or exit status: " ++ a) 2, .normal)
        else
          let s := sig.getD 15
          pids.foldl (fun (acc : Sh × Flow) p =>
            let (sh, f) := acc
            if f != .normal || sh.status == 2 then acc
            else if p == toString sh.pid || p == "0" then
              if s == 0 then (sh, .normal)
              else match sh.trapFor s with
                | some "" => (sh, .normal)
                | some act =>
                  let status := sh.status
                  let (sh, g) := runText n act sh
                  match g with
                  | .exit | .abort | .killed _ | .hang => (sh, g)
                  | _ => ({ sh with status := status }, .normal)
                | none =>
                  if Sh.harmless s then (sh, .normal)
                  else if s == 19 || s == 20 then (sh, .hang)
                  else (sh, .killed s)
            else match sh.job? p with
              | some j =>
                let stop := !Sh.harmless s && sh.clock < j.ends
                let jobs := sh.jobs.map fun k =>
                  if stop && k.pid == j.pid then { k with ends := sh.clock, status := 128 + s } else k
                ({ sh with jobs := jobs }, .normal)
              | none =>
                if p.startsWith "%" then (sh.fail ("kill: No such job: " ++ p) 2, .normal)
                else if (Sh.number? (if p.startsWith "-" then String.ofList (p.toList.drop 1) else p)).isNone then
                  (sh.fail ("kill: Illegal number: " ++ p) 2, .normal)
                else ({ sh.complain "kill: No such process\n" with status := 1 }, .normal)) ({ sh with status := 0 }, .normal)
    | "trap" =>
      let args := match args with
        | "--" :: rest => rest
        | rest => rest
      match args with
      | [] =>
        let lines := (sh.traps.mergeSort (fun a b => decide (a.1 ≤ b.1))).map fun (c, a) =>
          "trap -- " ++ singleQuote a ++ " " ++ conditionName c ++ "\n"
        ({ sh.emit 1 (Utf8.encodeKeeping (String.join lines)) with status := 0 }, .normal)
      | first :: rest =>
        let (act, conds) :=
          if rest.isEmpty || (conditionOf first).isSome then (none, first :: rest)
          else if first == "-" then (none, rest) else (some first, rest)
        conds.foldl (fun (acc : Sh × Flow) c =>
          let (sh, f) := acc
          match conditionOf c with
          | some k => (sh.setTrap k act, f)
          | none => ({ sh.emit 2 (Utf8.encodeKeeping ("trap: " ++ c ++ ": bad trap\n")) with status := 1 }, f))
          ({ sh with status := 0 }, .normal)
    | "getopts" =>
      match args with
      | spec :: name :: given =>
        let base := if given.isEmpty then sh.params else given
        let sh := if sh.optIndex > base.length + 1 then { sh with optIndex := 1, optOffset := none } else sh
        let st := Getopts.step spec.toList base sh.optIndex sh.optOffset
        let sh := match st.message with
          | some m => sh.emit 2 (Utf8.encodeKeeping (m ++ "\n"))
          | none => sh
        let sh := match st.arg with
          | some v => sh.setVar "OPTARG" v
          | none => sh.unsetVar "OPTARG"
        let sh := (sh.putVar "OPTIND" (toString st.index)).setVar name st.letter.toString
        ({ sh with optIndex := st.index, optOffset := st.offset, status := if st.done then 1 else 0 }, .normal)
      | _ => (sh.fail "getopts: Usage: getopts optstring var [arg...]" 2, .normal)
    | "eval" =>
      let (sh', f) := runText n (" ".intercalate args) { sh with context := some "eval" }
      ({ sh' with context := sh.context }, f)
    | "." =>
      let args := match args with
        | "--" :: rest => rest
        | rest => rest
      match args with
      | [] => (sh, .normal)
      | file :: _ =>
        -- a name without a slash is looked for on the search path, where only directories
        -- of the working tree can hold it
        let found : Except String (String × List UInt8) :=
          if file.contains '/' then
            match Tool.nodeAt sh.ws file with
            | .ok (_, .file bs) => .ok (file, bs)
            | .ok (_, .sink) => .ok (file, [])
            | _ => .error ("cannot open " ++ file ++ ": No such file")
          else
            let dirs := ((sh.var? "PATH").getD "").splitOn ":"
            match (dirs.filter (!·.startsWith "/")).findSome? fun d =>
                let full := if d.isEmpty then file else d ++ "/" ++ file
                match Tool.nodeAt sh.ws full with
                | .ok (_, .file bs) => some (full, bs)
                | _ => none with
            | some hit => .ok hit
            | none => .error (file ++ ": not found")
        match found with
        | .ok (full, bs) =>
          let (sh', f) := runText n (textOf bs) { sh with context := some full }
          ({ sh' with context := sh.context }, f)
        | .error msg => (sh.fail (".: " ++ msg) 2, .abort)
    | "exec" =>
      match args with
      | [] => ({ sh with status := 0 }, .normal)
      | prog :: rest =>
        let (sh, f) := runExternal n prog rest [] true sh
        if f == .normal then (sh, .exit) else (sh, f)
    | "command" =>
      -- the options before the command: `-p`, and `-v` or `-V` to describe it
      let rec commandOpts : Nat → List String → Nat → Except Char (Nat × List String)
        | 0, rest, v => .ok (v, rest)
        | _, "--" :: rest, v => .ok (v, rest)
        | k + 1, a :: rest, v =>
          match a.toList with
          | '-' :: cs@(_ :: _) =>
            match cs.find? fun c => c != 'p' && c != 'v' && c != 'V' with
            | some c => .error c
            | none => commandOpts k rest (v ||| (if cs.contains 'v' then 1 else 0) ||| (if cs.contains 'V' then 2 else 0))
          | _ => .ok (v, a :: rest)
        | _, [], v => .ok (v, [])
      match commandOpts (args.length + 1) args 0 with
      | .error c => (sh.fail ("command: Illegal option -" ++ c.toString) 2, .normal)
      | .ok (0, prog :: rest) =>
        -- the command runs with variables of its own for `local`, and an error in the
        -- builtin run only fails it
        let (sh, f) := runCommand n prog rest [] false cond { sh with frames := [] :: sh.frames }
        (sh.dropFrame, if f == .abort then .normal else f)
      | .ok (0, []) => ({ sh with status := 0 }, .normal)
      | .ok (_, []) => ({ sh with status := 0 }, .normal)
      | .ok (v, k :: _) =>
        match sh.describe k with
        | some (brief, long) =>
          ({ sh.emit 1 (Utf8.encodeKeeping ((if v ≥ 2 then long else brief) ++ "\n")) with status := 0 }, .normal)
        | none =>
          let sh := if v ≥ 2 then sh.emit 1 (Utf8.encodeKeeping (k ++ ": not found\n")) else sh
          ({ sh with status := 127 }, .normal)
    | "type" =>
      let (sh, bad) := args.foldl (fun (acc : Sh × Bool) k =>
        let (sh, bad) := acc
        match sh.describe k with
        | some (_, long) => (sh.emit 1 (Utf8.encodeKeeping (long ++ "\n")), bad)
        | none => (sh.emit 1 (Utf8.encodeKeeping (k ++ ": not found\n")), true)) (sh, false)
      ({ sh with status := if bad then 127 else 0 }, .normal)
    | "hash" =>
      match args with
      | "-r" :: _ => ({ sh with hashed := [], status := 0 }, .normal)
      | [] =>
        let lines := (bySlot (fun (e : String × String) => commandSlot e.1) sh.hashed).map fun e => e.2 ++ "\n"
        ({ sh.emit 1 (Utf8.encodeKeeping (String.join lines)) with status := 0 }, .normal)
      | names =>
        names.foldl (fun (acc : Sh × Flow) k =>
          let (sh, f) := acc
          if k.contains '/' || sh.funcs.any (·.1 == k) || specialBuiltins.contains k || regularBuiltins.contains k then (sh, f)
          else match findOnPath (sh.var? "PATH") k with
            | some at_ => ({ sh with hashed := sh.hashed.filter (·.1 != k) ++ [(k, at_)] }, f)
            | none => ({ sh.complain ("hash: " ++ k ++ ": not found") with status := 1 }, f)) ({ sh with status := 0 }, .normal)
    | "umask" =>
      let (symbolic, rest) := match args with
        | "-S" :: rest => (true, rest)
        | rest => (false, rest)
      match rest with
      | [] =>
        let text := if symbolic then maskText sh.umask else octal4 sh.umask
        ({ sh.emit 1 (Utf8.encodeKeeping (text ++ "\n")) with status := 0 }, .normal)
      | m :: _ =>
        match newMask sh.umask m with
        | .ok mask => ({ sh with umask := mask, status := 0 }, .normal)
        | .error e => (sh.fail ("umask: " ++ e) 2, .normal)
    | "times" =>
      let t := "0m0.000000s 0m0.000000s\n"
      ({ sh.emit 1 (Utf8.encodeKeeping (t ++ t)) with status := 0 }, .normal)
    | "ulimit" =>
      ({ sh.emit 1 (Utf8.encodeKeeping "unlimited\n") with status := 0 }, .normal)
    | "alias" =>
      match args with
      | [] =>
        let lines := (bySlot (fun (a : String × String) => aliasSlot a.1) sh.aliases).map fun (k, v) =>
          k ++ "=" ++ singleQuote v ++ "\n"
        ({ sh.emit 1 (Utf8.encodeKeeping (String.join lines)) with status := 0 }, .normal)
      | _ =>
        args.foldl (fun (acc : Sh × Flow) a =>
          let (sh, f) := acc
          match a.splitOn "=" with
          | k :: v :: vs =>
            let v := "=".intercalate (v :: vs)
            let aliases := if sh.aliases.any (·.1 == k) then sh.aliases.map fun (k', w) => if k' == k then (k, v) else (k', w)
              else sh.aliases ++ [(k, v)]
            ({ sh with aliases := aliases }, f)
          | _ =>
            match sh.aliases.find? (·.1 == a) with
            | some (_, v) => (sh.emit 1 (Utf8.encodeKeeping (a ++ "=" ++ singleQuote v ++ "\n")), f)
            | none => ({ sh.emit 2 (Utf8.encodeKeeping ("alias: " ++ a ++ " not found\n")) with status := 1 }, f)) ({ sh with status := 0 }, .normal)
    | "unalias" =>
      match args with
      | "-a" :: _ => ({ sh with aliases := [], status := 0 }, .normal)
      | _ =>
        args.foldl (fun (acc : Sh × Flow) a =>
          let (sh, f) := acc
          if sh.aliases.any (·.1 == a) then ({ sh with aliases := sh.aliases.filter (·.1 != a) }, f)
          else ({ sh.emit 2 (Utf8.encodeKeeping ("unalias: " ++ a ++ " not found\n")) with status := 1 }, f)) ({ sh with status := 0 }, .normal)
    | _ => ({ sh with status := 0 }, .normal)

/-- A utility's run when its standard output cannot be written: the output is lost and the
utility says so, as each words it, with its status for a failed write. `cat` and `tee` find
out before writing anything. -/
def ToolRun.withoutOutput (r : ToolRun) (prog cmd : String) : ToolRun :=
  let wrote := !r.out.isEmpty || r.trace.any (·.1)
  if !wrote && prog != "cat" && prog != "tee" then r
  else
    let (msg, status) :=
      if prog == "cat" then (cmd ++ ": standard output: Bad file descriptor", 1)
      else if prog == "tee" then (cmd ++ ": \x27standard output\x27: Bad file descriptor", 1)
      else if prog == "sed" then (cmd ++ ": couldn\x27t close stdout: Bad file descriptor", 4)
      else if prog == "sort" then
        (cmd ++ ": fflush failed: \x27standard output\x27: Bad file descriptor\n" ++ cmd ++ ": write error: Bad file descriptor", 2)
      else if prog == "ls" || prog == "grep" then (cmd ++ ": write error: Bad file descriptor", 2)
      else if prog == "expr" then (cmd ++ ": write error: Bad file descriptor", 3)
      else (cmd ++ ": write error: Bad file descriptor", 1)
    let errs := r.trace.filterMap fun (toOut, bs) => if toOut then none else some bs
    { r with out := [], trace := [], err := (if r.trace.isEmpty then r.err else errs.flatten) ++ Utf8.encodeKeeping (msg ++ "\n"),
             status := status }

/-- A program: one on the search path by name, or by a path naming one; a file that is there
but cannot be run is refused. With `replace` (`exec`), messages say so. -/
def runExternal : Nat → String → List String → List (String × String) → Bool → Sh → Sh × Flow
  | 0, _, _, _, _, sh => (sh, .hang)
  | n + 1, name, args, env, replace, sh =>
    let lead := if replace then "exec: " else ""
    if name.contains '/' then
      match sh.ws.resolve name with
      | .ok p =>
        match programAt p with
        | some prog => runProgram n prog name args env sh
        | none =>
          match sh.ws.parentsOk p, sh.ws.node? p with
          | .ok (), some _ => (sh.fail (lead ++ name ++ ": Permission denied") 126, .normal)
          | _, _ => (sh.fail (lead ++ name ++ ": not found") 127, .normal)
      | .error _ => (sh.fail (lead ++ name ++ ": not found") 127, .normal)
    else
      -- a `PATH` given for the command alone is searched without being remembered
      let given := (env.find? (·.1 == "PATH")).map (·.2)
      match findOnPath (given.orElse fun _ => sh.var? "PATH") name with
      | some at_ =>
        let sh := if given.isSome || sh.hashed.any (·.1 == name) then sh
          else { sh with hashed := sh.hashed ++ [(name, at_)] }
        runProgram n name name args env sh
      | none => (sh.fail (lead ++ name ++ ": not found") 127, .normal)

/-- An installed program: a nested shell or a utility; its output goes to the shell's
descriptors. -/
def runProgram : Nat → String → String → List String → List (String × String) → Sh → Sh × Flow
  | 0, _, _, _, _, sh => (sh, .hang)
  | n + 1, prog, cmd, args, env, sh =>
    if prog == "sh" || prog == "dash" then
      let vars := (sh.vars.filter fun (k, _) => sh.exported.contains k) ++ env
      let p := shellMain n cmd args vars sh.input sh.ws sh.clock sh.deadline sh.nextPid
      let sh := { sh with ws := { p.ws with cwd := sh.ws.cwd }, nextPid := sh.nextPid + 1 }
      let sh := sh.leaveInput p.inputLeft
      let sh := (sh.emit 1 p.out).emit 2 p.err
      let sh := { sh with
        clock := max sh.clock p.clock,
        holdOut := if sh.fd 1 == .out then max sh.holdOut p.holdOut else sh.holdOut,
        holdErr := if sh.fd 2 == .err then max sh.holdErr p.holdErr else sh.holdErr }
      match p.exit with
      | .code c => ({ sh with status := c }, .normal)
      | .signal s => ({ sh with status := 128 + s }, .normal)
      | .never => (sh, .hang)
    else
      let r := Tool.run prog cmd args sh.input sh.inputSize sh.ws
      let r := if sh.writable 1 then r else r.withoutOutput prog cmd
      let sh := match r.inputLeft with
        | some rest => sh.leaveInput rest
        | none => if r.readsInput then sh.drainInput else sh
      -- a program that writes as it goes leaves its writes in order; the others hold their
      -- standard output until they end, after their messages
      let sh := { sh with ws := r.ws }
      let sh := if r.trace.isEmpty then (sh.emit 2 r.err).emit 1 r.out
        else r.trace.foldl (fun sh (toOut, bs) => sh.emit (if toOut then 1 else 2) bs) sh
      if r.forever then (sh, .hang)
      else ({ sh with clock := sh.clock + r.delayMs, status := r.status }, .normal)

/-- Runs a text as commands in the shell itself (`eval`, `.`). -/
def runText : Nat → String → Sh → Sh × Flow
  | 0, _, sh => (sh, .hang)
  | n + 1, text, sh =>
    let line := sh.line
    let (sh, f) := runScript n (Reader.ofString text) sh
    ({ sh with line := line }, f)

/-- Runs a script's commands one after the other; a syntax error ends the shell with
status 2. -/
def runScript : Nat → Reader → Sh → Sh × Flow
  | 0, _, sh => (sh, .hang)
  | n + 1, r, sh =>
    match { r with aliases := sh.aliases }.next with
    | .error e => ({ sh with line := e.line }.fail ("Syntax error: " ++ e.message) 2, .abort)
    | .ok (none, _) => (sh, .normal)
    | .ok (some c, r) =>
      let (sh, f) := execCmd n c false sh
      match f with
      | .normal | .brk _ | .cont _ => runScript n r sh
      | f => (sh, f)

/-- A shell started as `argv0` with arguments: `-c script [name [args]]`, a script file and
its arguments, or the script on standard input; `-e` and `-u` set options. -/
def shellMain : Nat → String → List String → List (String × String) → List UInt8 → Workspace → Nat → Nat → Nat → Process
  | 0, _, _, _, input, ws, clock, _, _ =>
    { out := [], err := [], exit := .never, ws := ws, clock := clock, inputLeft := input }
  | n + 1, argv0, args, env, input, ws, clock, deadline, pid =>
    let refuse (msg : String) : Process :=
      { out := [], err := Utf8.encodeKeeping (argv0 ++ ": 0: " ++ msg ++ "\n"), exit := .code 2, ws := ws,
        clock := clock, inputLeft := input }
    match readShellOptions args {} with
    | .error c => refuse ("Illegal option -" ++ String.singleton c)
    | .ok o =>
      let base : Sh := {
        ws := ws,
        vars := (env.filter fun (k, _) => k != "IFS" && k != "OPTIND" && k != "PWD" && k != "PPID") ++
          ([("PS1", "# "), ("PS2", "> "), ("PS4", "+ ")].filter fun (k, _) => !env.any (·.1 == k)) ++
          [("IFS", " \t\n"), ("OPTIND", "1"), ("PPID", toString (pid - 1)), ("PWD", "/" ++ "/".intercalate ws.cwd)],
        exported := (env.map (·.1)).filter (· != "PWD") ++ ["PWD"], clock := clock, arg0 := argv0,
        deadline := deadline, pid := pid, nextPid := pid + 1, streams := [input],
        errexit := o.errexit, nounset := o.nounset, flags := o.flags }
      let source : Except String (String × String × List String × Sh) :=
        if o.command then
          match o.operands with
          | script :: name :: params => .ok (script, name, params, base)
          | [script] => .ok (script, argv0, [], base)
          | [] => .error "-c requires an argument"
        else if o.stdin || o.operands.isEmpty then
          .ok (textOf input, argv0, o.operands, { base with streams := [[]] })
        else
          match o.operands with
          | file :: params =>
            match Tool.nodeAt ws file with
            | .ok (_, .file bs) => .ok (textOf bs, file, params, base)
            | .ok (_, .sink) => .ok ("", file, params, base)
            | .ok (_, .dir) => .error ("cannot open " ++ file ++ ": Is a directory")
            | .error e => .error ("cannot open " ++ file ++ ": " ++ openText e)
          | [] => .ok ("", argv0, [], base)
      match source with
      | .error msg => refuse msg
      | .ok (script, name, params, sh) =>
        let (sh, f) := runScript n (Reader.ofString script) { sh with arg0 := name, params := params }
        let (sh, f) := runExitTrap n sh f
        let (holdOut, holdErr) := sh.holds
        { out := mergeLog sh.outLog,
          err := mergeLog sh.errLog,
          exit := match f with
            | .killed s => .signal s
            | .hang => .never
            | _ => .code (sh.status % 256),
          ws := sh.ws, clock := sh.clock, holdOut := holdOut, holdErr := holdErr,
          inputLeft := sh.streams.headD [] }

/-- Runs the action set for the shell's exit, if any, as the shell (or a subshell) ends: the
status stays unless the action exits. -/
def runExitTrap : Nat → Sh → Flow → Sh × Flow
  | 0, sh, f => (sh, f)
  | n + 1, sh, f =>
    match f with
    | .killed _ | .hang => (sh, f)
    | _ =>
      match sh.trapFor 0 with
      | some act =>
        if act.isEmpty then (sh, f) else
        let saved := sh.status
        let (sh, g) := runText n act (sh.setTrap 0 none)
        match g with
        | .exit | .abort | .killed _ | .hang => (sh, g)
        | _ => ({ sh with status := saved }, f)
      | none => (sh, f)

/-- Expands words into fields. -/
def expandWords : Nat → List (List Part) → Sh → List String → Sh × Except Flow (List String)
  | 0, _, sh, _ => (sh, .error .hang)
  | _ + 1, [], sh, acc => (sh, .ok acc)
  | n + 1, w :: ws, sh, acc =>
    let (sh, r) := expandParts n (sh.tilde false w) true false {} sh
    match r with
    | .ok f =>
      let fields := if sh.flags.contains 'f' then f.finish.map Pathname.text else f.finish.flatMap (Pathname.expand sh.ws)
      expandWords n ws sh (acc ++ fields)
    | .error fl => (sh, .error fl)

/-- Expands the values of assignments. -/
def expandAssigns : Nat → List (String × List Part) → Sh → List (String × String) → Sh × Except Flow (List (String × String))
  | 0, _, sh, _ => (sh, .error .hang)
  | _ + 1, [], sh, acc => (sh, .ok acc)
  | n + 1, (k, v) :: rest, sh, acc =>
    let (sh, r) := expandText n (sh.tilde true v) sh
    match r with
    | .ok s => expandAssigns n rest sh (acc ++ [(k, s)])
    | .error fl => (sh, .error fl)

/-- Expands pieces into one text, without splitting. -/
def expandText : Nat → List Part → Sh → Sh × Except Flow String
  | 0, _, sh => (sh, .error .hang)
  | n + 1, ps, sh =>
    let (sh, r) := expandParts n ps false false {} sh
    match r with
    | .ok f => (sh, .ok (" ".intercalate f.texts))
    | .error fl => (sh, .error fl)

/-- Expands pieces into pattern characters, each marked literal when it was quoted. -/
def expandPattern : Nat → List Part → Sh → List (Char × Bool) → Sh × Except Flow (List (Char × Bool))
  | 0, _, sh, _ => (sh, .error .hang)
  | _ + 1, [], sh, acc => (sh, .ok acc)
  | n + 1, p :: ps, sh, acc =>
    match p with
    | .text s q => expandPattern n ps sh (acc ++ s.toList.map (·, q))
    | .param _ _ _ q | .subst _ q | .arith _ q =>
      let (sh, r) := expandText n [p] sh
      match r with
      | .ok s => expandPattern n ps sh (acc ++ s.toList.map (·, q))
      | .error fl => (sh, .error fl)

/-- Expands pieces into fields; `split` splits unquoted expansions, and `splitLits` also
unquoted literal text (the word of an unquoted `${name:-word}`). -/
def expandParts : Nat → List Part → Bool → Bool → Fields → Sh → Sh × Except Flow Fields
  | 0, _, _, _, _, sh => (sh, .error .hang)
  | _ + 1, [], _, _, f, sh => (sh, .ok f)
  | n + 1, p :: ps, split, splitLits, f, sh =>
    let (sh, r) := expandPart n p split splitLits f sh
    match r with
    | .ok f => expandParts n ps split splitLits f sh
    | .error fl => (sh, .error fl)

/-- Expands one piece into the fields being built. -/
def expandPart : Nat → Part → Bool → Bool → Fields → Sh → Sh × Except Flow Fields
  | 0, _, _, _, _, sh => (sh, .error .hang)
  | n + 1, p, split, splitLits, f, sh =>
    let add (f : Fields) (v : String) (q : Bool) (sh : Sh) : Fields :=
      if q || !split then f.lit v q else f.split sh.ifs v
    match p with
    | .text s q => (sh, .ok (if !q && splitLits && split then f.split sh.ifs s else f.lit s q))
    | .subst body q =>
      let (sh, r) := substitute n body sh
      match r with
      | .ok text => (sh, .ok (add f text q sh))
      | .error fl => (sh, .error fl)
    | .arith ps q =>
      let (sh, r) := expandText n ps sh
      match r with
      | .error fl => (sh, .error fl)
      | .ok text =>
        match Arith.eval sh.param? text with
        | .ok (v, sets) =>
          let sh := sets.foldl (fun sh (x, w) => sh.setVar x (toString w)) sh
          (sh, .ok (add f (toString v) q sh))
        | .error e => (sh.fail (e.message text) 2, .error .abort)
    | .param name form word q =>
      match name, form with
      | "@", .plain =>
        if q && split then (sh, .ok (f.many sh.params))
        else (sh, .ok (add f sh.joinedParams q sh))
      | _, _ =>
        let v := sh.param? name
        let unsetError := v.isNone && sh.nounset && name != "@" && name != "*"
        let empty (colon : Bool) := v.isNone || (colon && v == some "")
        match form with
        | .bad => (sh.fail "Bad substitution" 2, .error .abort)
        | .plain =>
          if unsetError then (sh.fail (name ++ ": parameter not set") 2, .error .abort)
          else (sh, .ok (add f (v.getD "") q sh))
        | .length =>
          if unsetError then (sh.fail (name ++ ": parameter not set") 2, .error .abort)
          else (sh, .ok (add f (toString (Utf8.encodeKeeping (v.getD "")).length) q sh))
        | .orElse colon =>
          if empty colon then expandParts n (sh.tilde false word) split (split && !q) f sh
          else (sh, .ok (add f (v.getD "") q sh))
        | .ifSet colon =>
          if empty colon then (sh, .ok f) else expandParts n (sh.tilde false word) split (split && !q) f sh
        | .assign colon =>
          if empty colon then
            let (sh, r) := expandText n (sh.tilde false word) sh
            match r with
            | .ok s => (sh.setVar name s, .ok (add f s q sh))
            | .error fl => (sh, .error fl)
          else (sh, .ok (add f (v.getD "") q sh))
        | .required colon =>
          if empty colon then
            let (sh, r) := expandText n (sh.tilde false word) sh
            match r with
            | .ok s =>
              let msg := if !s.isEmpty then s else if colon then "parameter not set or null" else "parameter not set"
              (sh.fail (name ++ ": " ++ msg) 2, .error .abort)
            | .error fl => (sh, .error fl)
          else (sh, .ok (add f (v.getD "") q sh))
        | .dropPrefix longest | .dropSuffix longest =>
          if unsetError then (sh.fail (name ++ ": parameter not set") 2, .error .abort) else
          let (sh, r) := expandPattern n (sh.tilde false word) sh []
          match r with
          | .ok chars =>
            let suffix := match form with
              | .dropSuffix _ => true
              | _ => false
            (sh, .ok (add f (trimmed (v.getD "") (globOf (bytePattern chars)) suffix longest) q sh))
          | .error fl => (sh, .error fl)

/-- A command substitution: the body's output in a copy of the shell, without trailing
newlines; its status becomes the shell's. -/
def substitute : Nat → Cmd → Sh → Sh × Except Flow String
  | 0, _, sh => (sh, .error .hang)
  | n + 1, body, sh =>
    let k := sh.captures.length
    let child := { sh.setFd 1 (.capture k) with captures := sh.captures ++ [[]] }
    let (child, f) := execCmd n body false child
    match f with
    | .killed s => (Sh.rejoin sh child, .error (.killed s))
    | .hang => (Sh.rejoin sh child, .error .hang)
    | _ =>
      let bytes := child.captures.getD k []
      let back := { Sh.rejoin sh child with
        captures := child.captures.take k,
        substStatus := some (child.status % 256), status := child.status % 256 }
      -- the shell's strings hold no NUL byte: the output loses them
      (back, .ok (Sh.stripNewlines (textOf (bytes.filter (· != 0)))))

/-- Applies redirections in order; `false` when one failed (it was reported). -/
def applyRedirs : Nat → List Redir → Sh → Sh × Except Flow Bool
  | 0, _, sh => (sh, .error .hang)
  | _ + 1, [], sh => (sh, .ok true)
  | n + 1, r :: rest, sh =>
    match r with
    | .file fd mode target =>
      let (sh, t) := expandText n (sh.tilde false target) sh
      match t with
      | .error fl => (sh, .error fl)
      | .ok name =>
        match sh.openFile fd mode name with
        | .ok sh => applyRedirs n rest sh
        | .error msg => (sh.complain msg, .ok false)
    | .dup fd target =>
      let (sh, t) := expandText n target sh
      match t with
      | .error fl => (sh, .error fl)
      | .ok "-" => applyRedirs n rest (sh.setFd fd .closed)
      | .ok s =>
        match Sh.number? s with
        | some m =>
          if sh.fd m == .closed then (sh.complain (s ++ ": Bad file descriptor"), .ok false)
          else applyRedirs n rest (sh.setFd fd (sh.fd m))
        | none => (sh.fail "Syntax error: Bad fd number" 2, .error .abort)
    | .here fd body =>
      let (sh, t) := expandText n body sh
      match t with
      | .error fl => (sh, .error fl)
      | .ok text =>
        let (sh, k) := sh.openStream (Utf8.encodeKeeping text)
        applyRedirs n rest (sh.setFd fd (.input k))

end

end DefUseCoverage.Shell
