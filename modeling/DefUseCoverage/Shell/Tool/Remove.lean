import DefUseCoverage.Shell.Tool.Changes
/-!
# Removing files and directories

`rm` removes files; a directory only with `-r` (`-R`), which removes what it holds first, in
the order it was made, or with `-d` when it is empty. `-f` is quiet about names that lead
nowhere, and with no operand does nothing. A name whose last component is `.` or `..` is never
removed, nor the root with `-r`.

`-i` asks before each removal and before going into a directory that holds something; an answer
other than yes keeps the file, and the directories around it. `-I` asks once, before removing
more than three operands or removing recursively, and a no ends the run. `-v` prints each
removal. `rmdir` removes empty directories, with `-p` also each parent its operand names.
-/

namespace DefUseCoverage.Shell

namespace Tool

/-- How `rm` asks. -/
inductive Asking where
  /-- Never. -/
  | never
  /-- Once, before removing many operands or recursively. -/
  | once
  /-- Before each removal. -/
  | always
deriving DecidableEq, Repr

/-- The choices of `rm`. -/
structure RemoveOptions where
  /-- `-f`: quiet about names that lead nowhere. -/
  force : Bool := false
  /-- `-r`: directories and what they hold. -/
  recursive : Bool := false
  /-- `-d`: empty directories. -/
  emptyDirs : Bool := false
  /-- `-v`: each removal printed. -/
  verbose : Bool := false
  /-- How it asks. -/
  asking : Asking := .never
  /-- Whether the root may be removed. -/
  rootAllowed : Bool := false

/-- The choices of `--interactive`. -/
def interactiveChoices : List (List String) := [["never", "no", "none"], ["once"], ["always", "yes"]]

/-- The options of `rm`. -/
def rmOptions : List OptSpec :=
  [.flag 'f' ["force"], { name := "interactive", longs := ["interactive"], takes := .optional },
   { name := "one-file-system", longs := ["one-file-system"] },
   { name := "no-preserve-root", longs := ["no-preserve-root"] },
   { name := "preserve-root", longs := ["preserve-root"], takes := .optional },
   { name := "presume-input-tty", longs := ["-presume-input-tty"] },
   { name := "recursive", letter := some 'r', longs := ["recursive"] }, .flag 'd' ["dir"],
   .flag 'v' ["verbose"]] ++ standardOptions ++
  [{ name := "i", letter := some 'i' }, { name := "I", letter := some 'I' }, { name := "recursive", letter := some 'R' }]

/-- A refusal of `rm`'s options: its message, and whether the hint to run `--help` follows. -/
structure RemoveRefusal where
  /-- The message. -/
  message : String
  /-- Whether the hint follows. -/
  usage : Bool

/-- The choices the options of `rm` make, in order, or the refusal of a bad `--interactive` or
`--preserve-root` value or of a shortened `--no-preserve-root` (`args` are the arguments as
given). -/
def removeChoices (args : List String) (os : Given) : Except RemoveRefusal RemoveOptions :=
  let shortened := (args.takeWhile (· != "--")).any fun a =>
    a.startsWith "--n" && a != "--no-preserve-root" && a.toList.isPrefixOf "--no-preserve-root".toList
  os.foldlM (fun (o : RemoveOptions) (n, v) =>
    match n with
    | "force" => pure { o with force := true, asking := .never }
    | "i" => pure { o with force := false, asking := .always }
    | "I" => pure { o with force := false, asking := .once }
    | "recursive" => pure { o with recursive := true }
    | "dir" => pure { o with emptyDirs := true }
    | "verbose" => pure { o with verbose := true }
    | "no-preserve-root" =>
      if shortened then .error ⟨"you may not abbreviate the --no-preserve-root option", false⟩
      else pure { o with rootAllowed := true }
    | "preserve-root" =>
      match v with
      | some w =>
        if w == "all" then pure { o with rootAllowed := false }
        else .error ⟨"unrecognized --preserve-root argument: " ++ quote w, false⟩
      | none => pure { o with rootAllowed := false }
    | "interactive" =>
      match v with
      | none => pure { o with force := false, asking := .always }
      | some v =>
        match pickChoice v "interactive" interactiveChoices with
        | .error m => .error ⟨m, true⟩
        | .ok c =>
          pure (match c.head? with
            | some "never" => { o with asking := .never }
            | some "once" => { o with force := false, asking := .once }
            | _ => { o with force := false, asking := .always })
    | _ => pure o) {}

/-- An operand as `rm` names it: two or more slashes at its end cut to one. -/
def trimmedOperand (f : String) : String :=
  let cs := f.toList
  if cs.length > 2 && cs.getLast? == some '/' then
    String.ofList ((cs.reverse.dropWhile (· == '/')).reverse ++ ['/'])
  else f

/-- What a file is called in `rm`'s question. -/
def fileKind : Node → String
  | .file [] => "regular empty file"
  | .file _ => "regular file"
  | .dir => "directory"
  | .sink => "character special file"

namespace Changing

/-- Asks whether to go on when `rm` asks before each step; yes when it does not ask. -/
def confirm (c : Changing) (o : RemoveOptions) (question : String) : Changing × Bool :=
  if o.asking == .always then c.ask question else (c, true)

/-- Removes a file standing at `p` (text `f`). -/
def removeFile (c : Changing) (o : RemoveOptions) (f : String) (p : AbsPath) (n : Node) : Changing :=
  let (c, yes) := c.confirm o ("remove " ++ fileKind n ++ " " ++ quote f ++ "?")
  if !yes then c
  else
    let c := if o.verbose then c.say ("removed " ++ quote f) else c
    { c with ws := c.ws.drop p }

/-- Removes the directory at `p` (text `f`) and what it holds, asking as chosen; whether it is
gone. The fuel bounds the depth. -/
def removeTree (o : RemoveOptions) : Nat → Changing → String → AbsPath → Changing × Bool
  | 0, c, _, _ => (c, false)
  | k + 1, c, f, p =>
    let names := c.ws.children p
    let (c, go) :=
      if names.isEmpty then (c, true) else c.confirm o ("descend into directory " ++ quote f ++ "?")
    if !go then (c, false)
    else
      let c := names.foldl (fun c name =>
        let q := p ++ [name]
        let text := joinName f name
        match c.ws.node? q with
        | some .dir => (removeTree o k c text q).1
        | some n => c.removeFile o text q n
        | none => c) c
      let (c, yes) := c.confirm o ("remove directory " ++ quote f ++ "?")
      if !yes then (c, false)
      else if !(c.ws.children p).isEmpty then
        (c.complain ("cannot remove " ++ quote f ++ ": Directory not empty"), false)
      else
        let c := if o.verbose then c.say ("removed directory " ++ quote f) else c
        ({ c with ws := c.ws.drop p }, true)

/-- Removes what an operand names. -/
def removeOperand (c : Changing) (o : RemoveOptions) (f : String) : Changing :=
  match nodeAt c.ws f with
  | .error e =>
    if o.force && (e == .notFound || e == .notADirectory) then c
    else c.complain ("cannot remove " ++ quote f ++ ": " ++ IoError.text e)
  | .ok (p, .dir) =>
    let empty := (c.ws.children p).isEmpty
    if !o.recursive && !(o.emptyDirs && empty) then
      c.complain ("cannot remove " ++ quote f ++ ": " ++ (if o.emptyDirs then "Directory not empty" else "Is a directory"))
    else if Workspace.endsInDots f then
      c.complain ("refusing to remove " ++ quote "." ++ " or " ++ quote ".." ++ " directory: skipping " ++ quote f)
    else if p.isEmpty && o.recursive && !o.rootAllowed then
      let c := if f == "/" then c.complain ("it is dangerous to operate recursively on " ++ quote f)
        else c.complain ("it is dangerous to operate recursively on " ++ quote f ++ " (same as " ++ quote "/" ++ ")")
      c.complain "use --no-preserve-root to override this failsafe"
    else (removeTree o (p.length + c.ws.nodes.length + 2) c f p).1
  | .ok (p, n) => c.removeFile o f p n

end Changing

/-- `rm [OPTION]... FILE...`. -/
def rm (cmd : String) (args : List String) (input : List UInt8) (ws : Workspace) : ToolRun :=
  let r := readOptions rmOptions false args
  let c : Changing := { ws := ws, cmd := cmd, input := input }
  match removeChoices args r.given, r.error with
  | .error ⟨msg, true⟩, _ => c.usage msg
  | .error ⟨msg, false⟩, _ => { c.finish with err := bytes (cmd ++ ": " ++ msg ++ "\n"), status := 1 }
  | .ok _, some e => c.usage e.text
  | .ok o, none =>
    let files := r.operands.map trimmedOperand
    if files.isEmpty then
      if o.force then c.finish else c.usage "missing operand"
    else
      let n := files.length
      let (c, go) :=
        if o.asking == .once && (o.recursive || n > 3) then
          c.ask ("remove " ++ toString n ++ " argument" ++ (if n == 1 then "" else "s") ++
            (if o.recursive then " recursively" else "") ++ "?")
        else (c, true)
      if !go then c.finish
      else (files.foldl (fun c f => c.removeOperand o f) c).finish

/-- The options of `rmdir`. -/
def rmdirOptions : List OptSpec :=
  [{ name := "ignore-fail-on-non-empty", longs := ["ignore-fail-on-non-empty"] },
   { name := "parents", letter := some 'p', longs := ["path", "parents"] },
   .flag 'v' ["verbose"]] ++ standardOptions

/-- Removes one empty directory named by a text, or says why not. -/
def removeEmptyDir (ws : Workspace) (d : String) : Except IoError Workspace :=
  if d == "." || d.endsWith "/." then .error .notText
  else
    match nodeAt ws d with
    | .ok (p, .dir) => if (ws.children p).isEmpty then .ok (ws.drop p) else .error .notEmpty
    | .ok _ => .error .notADirectory
    | .error e => .error e

/-- The parents named in a path text, the innermost first (`a/b/c` gives `a/b` and `a`). -/
def parentTexts (d : String) : List String :=
  let parts := (d.splitOn "/").filter (· != "")
  let lead := if d.startsWith "/" then "/" else ""
  (List.range (parts.length - 1)).reverse.map fun k => lead ++ "/".intercalate (parts.take (k + 1))

/-- `rmdir [-p] [-v] [--ignore-fail-on-non-empty] DIRECTORY...`: removes empty directories;
with `-p` also each parent named, which must then be empty too. -/
def rmdir (cmd : String) (args : List String) (ws : Workspace) : ToolRun :=
  let r := readOptions rmdirOptions false args
  let c : Changing := { ws := ws, cmd := cmd }
  match r.error with
  | some e => c.usage e.text
  | none =>
    let parents := r.given.has "parents"
    let verbose := r.given.has "verbose"
    let ignore := r.given.has "ignore-fail-on-non-empty"
    let removeOne (c : Changing) (d : String) (what : String) : Changing × Bool :=
      let c := if verbose then c.say (cmd ++ ": removing directory, " ++ quote d) else c
      match removeEmptyDir c.ws d with
      | .ok w => ({ c with ws := w }, true)
      | .error .notEmpty =>
        if ignore then (c, false)
        else (c.complain ("failed to remove " ++ what ++ quote d ++ ": Directory not empty"), false)
      | .error e => (c.complain ("failed to remove " ++ what ++ quote d ++ ": " ++ IoError.text e), false)
    if r.operands.isEmpty then c.usage "missing operand"
    else
      (r.operands.foldl (fun c d =>
        let (c, ok) := removeOne c d ""
        if !ok || !parents then c
        else ((parentTexts d).foldl (fun (acc : Changing × Bool) q =>
          let (c, going) := acc
          if !going then acc else removeOne c q "directory ") (c, true)).1) c).finish

end Tool

end DefUseCoverage.Shell
