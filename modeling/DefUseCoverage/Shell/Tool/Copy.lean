import DefUseCoverage.Shell.Tool.Changes
/-!
# Copying and moving

`cp SOURCE TARGET` copies a file to a target, and `cp SOURCE... DIRECTORY` copies each source
into the directory under its last name; `mv` does the same and removes the sources. With
`-t DIRECTORY` the directory comes first; with `-T` the target is never taken for a directory.

A directory is copied only with `-r` (`-R`, `-a`): it is made, then what it held is copied
into it, in the order it was made. A directory copied into itself gets what it held before,
and the copy then fails. `mv` moves a directory whole, never into itself.

A target that exists is replaced, unless `-n` keeps it (`mv` then fails and says so), `-u`
keeps it, or `-i` asks first (an answer other than yes keeps it and fails). A directory is
never replaced by a file, nor a file by a directory, and a file is never copied onto itself.
With `-v` each copy prints `'a' -> 'b'` and each move `renamed 'a' -> 'b'`.
-/

namespace DefUseCoverage.Shell

namespace Tool

/-- What `cp` and `mv` do with a target file that exists. -/
inductive Existing where
  /-- Replace it. -/
  | replace
  /-- Keep it, quietly. -/
  | keep
  /-- Keep it (`-n`): `mv` fails saying so, `cp` goes on quietly. -/
  | refuse
  /-- Ask whether to replace it. -/
  | ask
deriving DecidableEq, Repr

/-- The choices of `cp` and `mv` that change what they do. -/
structure TransferOptions where
  /-- Whether the sources are moved. -/
  move : Bool
  /-- Whether directories are copied. -/
  recursive : Bool := false
  /-- Whether each copy or move is printed. -/
  verbose : Bool := false
  /-- What to do with a target that exists. -/
  existing : Existing := .replace
  /-- Whether a target that exists is kept whatever else is chosen (`-u`). -/
  update : Bool := false

/-- The choices of `--update`. -/
def updateChoices : List (List String) := [["all"], ["none"], ["older"]]

/-- The choices the options of `cp` or `mv` make, in order, or the error of a bad `--update`
value. `-n` outweighs a later `--update` value. -/
def transferChoices (move : Bool) (os : Given) : Except String TransferOptions :=
  os.foldlM (fun (o : TransferOptions) (n, v) =>
    match n with
    | "archive" | "recursive" | "r" => pure { o with recursive := true }
    | "verbose" => pure { o with verbose := true }
    | "interactive" => pure { o with existing := .ask }
    | "no-clobber" => pure { o with existing := .refuse }
    | "force" => pure (if move then { o with existing := .replace } else o)
    | "update" =>
      match v with
      | none => pure { o with update := true }
      | some v =>
        if o.existing == .refuse then pure o
        else do
          let c ← pickChoice v "update" updateChoices
          pure (match c with
            | ["none"] => { o with update := false, existing := .keep }
            | ["older"] => { o with update := true, existing := .replace }
            | _ => { o with update := false, existing := .replace })
    | _ => pure o) { move := move }

/-- The tree with what stands at one path moved to another, everything below it too. -/
def moveTree (ws : Workspace) (src dst : AbsPath) : Workspace :=
  let moved := ws.nodes.filterMap fun (p, n) =>
    if p == src || Workspace.isBelow p src then some (dst ++ p.drop src.length, n) else none
  let rest := ((ws.drop src).drop dst)
  { rest with nodes := rest.nodes ++ moved }

/-- A line `'a' -> 'b'`. -/
def arrow (a b : String) : String := quote a ++ " -> " ++ quote b

namespace Changing

/-- Deals with a target file that exists: whether to go on and replace it. -/
def replaceFile (c : Changing) (o : TransferOptions) (t : String) : Changing × Bool :=
  if o.update then (c, false)
  else match o.existing with
    | .replace => (c, true)
    | .keep => (c, false)
    | .refuse => (if o.move then c.complain ("not replacing " ++ quote t) else c, false)
    | .ask =>
      let (c, yes) := c.ask ("overwrite " ++ quote t ++ "?")
      (if yes then c else { c with failed := true }, yes)

/-- Copies a file or the null device (standing at `sp` in the tree `start` of the run) to the
target text `t`. -/
def copyFile (c : Changing) (o : TransferOptions) (s t : String) (bs : List UInt8) (sp : AbsPath) :
    Changing :=
  match c.ws.target t with
  | .error e => c.complain ("cannot create regular file " ++ quote t ++ ": " ++ IoError.text e)
  | .ok dp =>
    match c.ws.lookup dp with
    | .error .notADirectory => c.complain ("cannot stat " ++ quote t ++ ": Not a directory")
    | .error e => c.complain ("cannot create regular file " ++ quote t ++ ": " ++ IoError.text e)
    | .ok none =>
      if t.endsWith "/" then c.complain ("cannot create regular file " ++ quote t ++ ": Not a directory")
      else
        let c := if o.verbose then c.say (arrow s t) else c
        { c with ws := c.ws.put dp (.file bs) }
    | .ok (some .dir) => c.complain ("cannot overwrite directory " ++ quote t ++ " with non-directory")
    | .ok (some .sink) => c
    | .ok (some (.file _)) =>
      if dp == sp then c.complain (quote s ++ " and " ++ quote t ++ " are the same file")
      else
        let (c, go) := c.replaceFile o t
        if !go then c
        else
          let c := if o.verbose then c.say (arrow s t) else c
          { c with ws := c.ws.put dp (.file bs) }

/-- Copies what stood at `sp` when the run started (`start`, source text `s`) to the target
text `t`: a file, or with `-r` a directory and what it held. The fuel bounds the depth. -/
def copyAt (o : TransferOptions) (start : Workspace) : Nat → Changing → String → String → AbsPath → Changing
  | 0, c, _, _, _ => c
  | k + 1, c, s, t, sp =>
    match start.node? sp with
    | none => c
    | some (.file bs) => c.copyFile o s t bs sp
    | some .sink => c.copyFile o s t [] sp
    | some .dir =>
      if !o.recursive then c.complain ("-r not specified; omitting directory " ++ quote s)
      else
        let made : Except Changing (Changing × AbsPath) :=
          match c.ws.target t with
          | .error e => .error (c.complain ("cannot create directory " ++ quote t ++ ": " ++ IoError.text e))
          | .ok dp =>
            match c.ws.lookup dp with
            | .error .notADirectory => .error (c.complain ("cannot stat " ++ quote t ++ ": Not a directory"))
            | .error e => .error (c.complain ("cannot create directory " ++ quote t ++ ": " ++ IoError.text e))
            | .ok none =>
              let c := if o.verbose then c.say (arrow s t) else c
              .ok ({ c with ws := c.ws.put dp .dir }, dp)
            | .ok (some .dir) =>
              if dp == sp then .error (c.complain (quote s ++ " and " ++ quote t ++ " are the same file"))
              else .ok (c, dp)
            | .ok (some _) =>
              .error (c.complain ("cannot overwrite non-directory " ++ quote t ++ " with directory " ++ quote s))
        match made with
        | .error c => c
        | .ok (c, dp) =>
          let c := (start.children sp).foldl (fun c name =>
            copyAt o start k c (joinName s name) (joinName t name) (sp ++ [name])) c
          if Workspace.isBelow dp sp then
            c.complain ("cannot copy a directory, " ++ quote s ++ ", into itself, " ++ quote t)
          else c

/-- Moves what stands at the source text `s` to the target text `t`. -/
def moveTo (c : Changing) (o : TransferOptions) (s t : String) : Changing :=
  match nodeAt c.ws s with
  | .error e => c.complain ("cannot stat " ++ quote s ++ ": " ++ IoError.text e)
  | .ok (sp, n) =>
    if Workspace.endsInDots s then
      c.complain ("cannot move " ++ quote s ++ " to " ++ quote t ++ ": Device or resource busy")
    else
      match c.ws.target t with
      | .error e => c.complain ("cannot move " ++ quote s ++ " to " ++ quote t ++ ": " ++ IoError.text e)
      | .ok dp =>
        let moved (c : Changing) : Changing :=
          let c := if o.verbose then c.say ("renamed " ++ arrow s t) else c
          { c with ws := moveTree c.ws sp dp }
        if Workspace.isBelow dp sp then
          c.complain ("cannot move " ++ quote s ++ " to a subdirectory of itself, " ++ quote t)
        else
          match c.ws.lookup dp with
          | .error .notADirectory => c.complain ("cannot stat " ++ quote t ++ ": Not a directory")
          | .error e => c.complain ("cannot move " ++ quote s ++ " to " ++ quote t ++ ": " ++ IoError.text e)
          | .ok none =>
            if n != .dir && t.endsWith "/" then
              c.complain ("cannot move " ++ quote s ++ " to " ++ quote t ++ ": Not a directory")
            else moved c
          | .ok (some .dir) =>
            if dp == sp then c.complain (quote s ++ " and " ++ quote t ++ " are the same file")
            else if n != .dir then
              c.complain ("cannot overwrite directory " ++ quote t ++ " with non-directory")
            else if !(c.ws.children dp).isEmpty then
              c.complain ("cannot overwrite " ++ quote t ++ ": Directory not empty")
            else moved c
          | .ok (some _) =>
            if dp == sp then c.complain (quote s ++ " and " ++ quote t ++ " are the same file")
            else if n == .dir then
              c.complain ("cannot overwrite non-directory " ++ quote t ++ " with directory " ++ quote s)
            else
              let (c, go) := c.replaceFile o t
              if go then moved c else c

end Changing

/-- The long options `cp` and `mv` share, each at its place in their tables. -/
def transferShared (move : Bool) : List OptSpec :=
  let backup : OptSpec := { name := "backup", longs := ["backup"], takes := .optional }
  let suffix : OptSpec := { name := "suffix", letter := some 'S', longs := ["suffix"], takes := .required }
  let target : OptSpec :=
    { name := "target-directory", letter := some 't', longs := ["target-directory"], takes := .required }
  let update : OptSpec := { name := "update", longs := ["update"], takes := .optional }
  let lone (n : String) : OptSpec := { name := n, longs := [n] }
  if move then
    [backup, .flag 'Z' ["context"], lone "debug", .flag 'f' ["force"], .flag 'i' ["interactive"],
     .flag 'n' ["no-clobber"], lone "no-copy", .flag 'T' ["no-target-directory"],
     lone "strip-trailing-slashes", suffix, target, update, .flag 'v' ["verbose"]] ++ standardOptions ++
    [{ name := "backup", letter := some 'b' }, { name := "update", letter := some 'u' }]
  else
    [.flag 'a' ["archive"], lone "attributes-only", backup, lone "copy-contents", lone "debug",
     .flag 'L' ["dereference"], .flag 'f' ["force"], .flag 'i' ["interactive"], .flag 'l' ["link"],
     .flag 'n' ["no-clobber"], .flag 'P' ["no-dereference"],
     { name := "no-preserve", longs := ["no-preserve"], takes := .required },
     .flag 'T' ["no-target-directory"], .flag 'x' ["one-file-system"],
     { name := "parents", longs := ["parents", "path"] },
     { name := "preserve", longs := ["preserve"], takes := .optional },
     .flag 'R' ["recursive"], lone "remove-destination",
     { name := "sparse", longs := ["sparse"], takes := .required },
     { name := "reflink", longs := ["reflink"], takes := .optional },
     lone "strip-trailing-slashes", suffix, .flag 's' ["symbolic-link"], target, update,
     .flag 'v' ["verbose"], { name := "context", longs := ["context"], takes := .optional }] ++
    standardOptions ++
    [{ name := "backup", letter := some 'b' }, .flag 'd', .flag 'H', .flag 'p', .flag 'r',
     { name := "update", letter := some 'u' }, { name := "context", letter := some 'Z' }]

/-- `cp` (or, `move`, `mv`): reads the options and operands, finds the target, and copies or
moves each source. -/
def transfer (move : Bool) (cmd : String) (args : List String) (input : List UInt8) (ws : Workspace) :
    ToolRun :=
  let r := readOptions (transferShared move) false args
  let c : Changing := { ws := ws, cmd := cmd, input := input }
  let c := if move then c else r.given.foldl (fun c (n, _) =>
    if n == "no-clobber" then
      c.warn "warning: behavior of -n is non-portable and may change in future; use --update=none instead"
    else c) c
  match transferChoices move r.given, r.error with
  | .error msg, _ => c.usage msg
  | .ok _, some e => c.usage e.text
  | .ok o, none =>
    let files := r.operands
    let noTarget := r.given.has "no-target-directory"
    let isDir (d : String) : Except IoError Bool :=
      match nodeAt c.ws d with
      | .ok (_, .dir) => .ok true
      | .ok _ => .ok false
      | .error e => .error e
    let run (pairs : List (String × String)) : ToolRun :=
      let start := c.ws
      (pairs.foldl (fun (c : Changing) (s, t) =>
        if move then c.moveTo o s t
        else
          match nodeAt c.ws s with
          | .error e => c.complain ("cannot stat " ++ quote s ++ ": " ++ IoError.text e)
          | .ok (sp, _) => Changing.copyAt o start (sp.length + start.nodes.length + 2) c s t sp) c).finish
    let into (dir : String) (sources : List String) : List (String × String) :=
      sources.map fun s => (s, joinName dir (lastComponent s))
    match r.given.last "target-directory" with
    | some dir =>
      if noTarget then
        { c.finish with err := bytes (c.err ++ cmd ++
            ": cannot combine --target-directory (-t) and --no-target-directory (-T)\n"), status := 1 }
      else if files.isEmpty then c.usage "missing file operand"
      else
        match isDir dir with
        | .ok true => run (into dir files)
        | .ok false => { c.finish with err := bytes (c.err ++ cmd ++ ": target directory " ++ quote dir ++ ": Not a directory\n"), status := 1 }
        | .error e => { c.finish with err := bytes (c.err ++ cmd ++ ": target directory " ++ quote dir ++ ": " ++ IoError.text e ++ "\n"), status := 1 }
    | none =>
      match files with
      | [] => c.usage "missing file operand"
      | [a] => c.usage ("missing destination file operand after " ++ quote a)
      | _ =>
        let last := files.getLastD ""
        let sources := files.dropLast
        if noTarget then
          if files.length > 2 then c.usage ("extra operand " ++ quote (files.getD 2 ""))
          else run [(files.getD 0 "", last)]
        else
          match isDir last with
          | .ok true => run (into last sources)
          | .ok false =>
            if files.length > 2 then
              { c.finish with err := bytes (c.err ++ cmd ++ ": target " ++ quote last ++ ": Not a directory\n"), status := 1 }
            else run [(files.getD 0 "", last)]
          | .error e =>
            if files.length > 2 then
              { c.finish with err := bytes (c.err ++ cmd ++ ": target " ++ quote last ++ ": " ++ IoError.text e ++ "\n"), status := 1 }
            else run [(files.getD 0 "", last)]

end Tool

end DefUseCoverage.Shell
