import DefUseCoverage.Shell.Test
import DefUseCoverage.Workspace.PathText
import DefUseCoverage.Workspace.Basic
import DefUseCoverage.Text.Utf8
/-!
# What a utility did, and what utilities share

A utility is a function of its arguments, its standard input and the file tree, giving its
output, its error text, its status, the new tree, whether it read its input and how long it
took. Error texts follow the GNU tools: the name the program was started by, the file (quoted
with single quotes where the tool quotes it) and the system's text for the error.

This module holds that result and what the utilities share: file look-up, option splitting,
lines of bytes and the operand of a filter.
-/

namespace DefUseCoverage.Shell

/-- What a utility did. -/
structure ToolRun where
  /-- Bytes written to standard output. -/
  out : List UInt8 := []
  /-- Bytes written to standard error. -/
  err : List UInt8 := []
  /-- The exit status. -/
  status : Nat := 0
  /-- The file tree afterwards. -/
  ws : Workspace
  /-- Whether standard input was read. -/
  readsInput : Bool := false
  /-- What was left unread of standard input, for a program that stops reading before its
  end; `none` when it read to the end (if it read at all). -/
  inputLeft : Option (List UInt8) := none
  /-- How long it ran, in milliseconds. -/
  delayMs : Nat := 0
  /-- Whether it never ends. -/
  forever : Bool := false
  /-- For a program that writes each piece as it goes, its writes in order, `true` for
  standard output; empty for one that holds its standard output until it ends. -/
  trace : List (Bool × List UInt8) := []

/-- The system's text for an error, without its number. -/
def IoError.text : IoError → String
  | .notFound => "No such file or directory"
  | .alreadyExists => "File exists"
  | .notADirectory => "Not a directory"
  | .isADirectory => "Is a directory"
  | .permissionDenied => "Permission denied"
  | .notEmpty => "Directory not empty"
  | .busy => "Device or resource busy"
  | .notText => "Invalid argument"

namespace Tool

/-- Text as bytes. -/
def bytes (s : String) : List UInt8 := Utf8.encodeKeeping s

/-- The letter of a C escape for a control byte, if it has one. -/
def escapeLetter? (b : UInt8) : Option Char :=
  match b.toNat with
  | 7 => some 'a'
  | 8 => some 'b'
  | 9 => some 't'
  | 10 => some 'n'
  | 11 => some 'v'
  | 12 => some 'f'
  | 13 => some 'r'
  | _ => none

/-- Whether a byte at a position of a name (of `len` bytes) is one the shell would read as
more than itself, so that the name must be quoted. -/
def shellSpecial (b : UInt8) (i len : Nat) : Bool :=
  let c := b.toNat
  c < 32 || c ≥ 127 || " !\"$&()*;<=>[^`|?\x27\\".toList.contains (Char.ofNat c) ||
    ((c == 35 || c == 126) && i == 0) || ((c == 123 || c == 125) && len == 1)

/-- Whether a byte may stand in a name that is quoted with double quotes instead: letters,
digits, a blank, `%+,-./:]_@` and the single quote (`#` and `~` only first). -/
def doubleQuotable (b : UInt8) (i : Nat) : Bool :=
  let c := Char.ofNat b.toNat
  b.toNat < 128 && (c.isAlphanum || " %+,-./:]_@\x27".toList.contains c || ((c == '#' || c == '~') && i == 0))

/-- A file name quoted as the tools quote names: in single quotes, a single quote written
`'\''` and a byte that does not print as a `$'...'` escape (a C letter or three octal digits);
a character of several bytes that prints stands as it is. A name whose only troublesome
character is the single quote is put in double quotes instead. -/
def quote (s : String) : String :=
  let ps := Utf8.pieces (bytes s)
  let plain (p : List UInt8) (i : Nat) : Bool :=
    match p with
    | [b] => doubleQuotable b i
    | _ => widePrints p
  if (bytes s).contains 39 && ps.zipIdx.all (fun (p, i) => plain p i) then "\"" ++ s ++ "\""
  else
    let byteStep (acc : String × Bool) (b : UInt8) : String × Bool :=
      let (out, pending) := acc
      let c := b.toNat
      if c < 32 || c ≥ 127 then
        let opened := if pending then out else out ++ "\x27$\x27"
        let esc := match escapeLetter? b with
          | some l => "\\" ++ l.toString
          | none => octalText b
        (opened ++ esc, true)
      else
        let out := if c == 39 then out ++ "\x27\\\x27" else out
        let out := if pending then out ++ "\x27\x27" else out
        (out ++ (Char.ofNat c).toString, false)
    let body := (ps.foldl (fun (acc : String × Bool) p =>
      match p with
      | [b] => byteStep acc b
      | _ =>
        if widePrints p then
          let (out, pending) := acc
          ((if pending then out ++ "\x27\x27" else out) ++ pieceText p, false)
        else p.foldl byteStep acc) ("", false)).1
    "\x27" ++ body ++ "\x27"
where
  /-- A byte as a backslash and three octal digits. -/
  octalText (b : UInt8) : String :=
    let n := b.toNat
    String.ofList ['\\', Char.ofNat (48 + n / 64), Char.ofNat (48 + n / 8 % 8), Char.ofNat (48 + n % 8)]

/-- A file name as the tools print it when quoting only where needed: bare when no byte of it
is special to the shell, else as `quote` writes it. -/
def quoteIfNeeded (s : String) : String :=
  let bs := bytes s
  let special := (Utf8.pieces bs).zipIdx.any fun (p, i) =>
    match p with
    | [b] => shellSpecial b i bs.length
    | _ => !widePrints p
  if !bs.isEmpty && !special then s else quote s

/-- A line of error text for a program. -/
def errLine (cmd msg : String) : List UInt8 := bytes (cmd ++ ": " ++ msg ++ "\n")

/-- The node at a path of the tree, if the path leads anywhere. -/
def nodeAt (ws : Workspace) (path : String) : Except IoError (AbsPath × Node) := do
  let p ← ws.follow path
  ws.parentsOk p
  match ws.node? p with
  | some n => pure (p, n)
  | none => throw .notFound

/-- What a condition knows of a path. -/
def fileInfo (ws : Workspace) (path : String) : Option FileInfo :=
  if path.isEmpty then none else
  match nodeAt ws path with
  | .ok (_, .file bs) => some (.regular bs.length false)
  | .ok (_, .dir) => some .directory
  | .ok (_, .sink) => some .device
  | .error _ => none

/-- What a condition can learn of the files of a workspace. -/
def fileView (ws : Workspace) : Files where
  kind := fileInfo ws
  same a b := match nodeAt ws a, nodeAt ws b with
    | .ok (p, _), .ok (q, _) => !a.isEmpty && !b.isEmpty && p == q
    | _, _ => false

/-- Options at the start of the arguments: the letters of each `-xyz`, up to `--` or the first
argument that is not one. -/
def splitOptions : List String → List Char × List String
  | "--" :: rest => ([], rest)
  | a :: rest =>
    match a.toList with
    | '-' :: c :: cs =>
      let (os, more) := splitOptions rest
      (c :: cs ++ os, more)
    | _ => ([], a :: rest)
  | [] => ([], [])

/-- Lines of bytes, each with its newline if it has one. The fuel bounds the lines. -/
def linesWith : Nat → List UInt8 → List (List UInt8)
  | 0, _ => []
  | _, [] => []
  | k + 1, bs =>
    let line := bs.takeWhile (· != 10)
    match bs.drop line.length with
    | [] => [line]
    | _ :: after => (line ++ [10]) :: linesWith k after

/-- A run of a tool from its writes in order, `true` for standard output: a tool that reports
an error while it writes (and so flushes its output first) keeps that order. -/
def ToolRun.ofWrites (ws : Workspace) (writes : List (Bool × List UInt8)) (status : Nat) (readsInput : Bool) : ToolRun :=
  { ws := ws, out := (writes.filter (·.1)).flatMap (·.2), err := (writes.filter (!·.1)).flatMap (·.2),
    trace := writes, status := status, readsInput := readsInput }

/-- The records of an input ended by a byte: each with its end byte if it has one. The fuel
bounds the records. -/
def recordsWith (stop : UInt8) : Nat → List UInt8 → List (List UInt8)
  | 0, _ => []
  | _, [] => []
  | k + 1, bs =>
    let line := bs.takeWhile (· != stop)
    match bs.drop line.length with
    | [] => [line]
    | _ :: after => (line ++ [stop]) :: recordsWith stop k after

/-- Lines of bytes, each with its newline if it has one. -/
def linesOf (bs : List UInt8) : List (List UInt8) := linesWith (bs.length + 1) bs

/-- An integer argument: an optional sign and digits. -/
def integer (s : String) : Option Int :=
  let (neg, ds) := match s.toList with
    | '-' :: r => (true, r)
    | '+' :: r => (false, r)
    | r => (false, r)
  if ds.isEmpty || !ds.all Char.isDigit then none
  else
    let v : Nat := ds.foldl (fun a c => a * 10 + (c.toNat - 48)) 0
    some (if neg then -(v : Int) else v)

/-- The bytes of the operand of a filter (standard input for none), or an error line. -/
def filterInput (cmd : String) (files : List String) (input : List UInt8) (ws : Workspace) :
    List UInt8 × List UInt8 × Bool × Nat :=
  match files with
  | [] | ["-"] => (input, [], true, 0)
  | f :: _ =>
    match nodeAt ws f with
    | .ok (_, .file bs) => (bs, [], false, 0)
    | .ok (_, .sink) => ([], [], false, 0)
    | .ok (_, .dir) => ([], errLine cmd ("error reading " ++ quote f ++ ": Is a directory"), false, 1)
    | .error e => ([], errLine cmd ("cannot open " ++ quote f ++ " for reading: " ++ IoError.text e), false, 1)

end Tool

end DefUseCoverage.Shell
