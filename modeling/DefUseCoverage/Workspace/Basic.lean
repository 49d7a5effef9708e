import DefUseCoverage.Workspace.PathText
/-!
# The working directory

Everything the program reads and writes lives in a file tree held as a value: the working
directory and what lies around it (a scratch directory for temporary files and the null
device). A tree is a list of nodes by absolute path, each a file with its bytes, a directory
or the null device; the root is always a directory.

Operations follow the POSIX rules and fail with the error a POSIX system gives: a path
through a missing directory is not found, one through a file is not a directory, creating
over an existing name is refused, and so on. `createDirAll` makes a directory and its
missing parents, accepting a directory that is already there.
-/

namespace DefUseCoverage

/-- Why a file operation failed. -/
inductive IoError where
  /-- No such file or directory. -/
  | notFound
  /-- The name is taken. -/
  | alreadyExists
  /-- A component of the path is a file. -/
  | notADirectory
  /-- The path is a directory where a file is needed. -/
  | isADirectory
  /-- The operation is not allowed. -/
  | permissionDenied
  /-- A directory to be replaced is not empty. -/
  | notEmpty
  /-- The name is a directory in use, such as the one `.` stands for. -/
  | busy
  /-- The file does not hold UTF-8 text. -/
  | notText
deriving DecidableEq, Repr

/-- The system's text for an I/O error. -/
def IoError.message : IoError → String
  | .notFound => "No such file or directory (os error 2)"
  | .alreadyExists => "File exists (os error 17)"
  | .notADirectory => "Not a directory (os error 20)"
  | .isADirectory => "Is a directory (os error 21)"
  | .permissionDenied => "Permission denied (os error 13)"
  | .notEmpty => "Directory not empty (os error 39)"
  | .busy => "Device or resource busy (os error 16)"
  | .notText => "stream did not contain valid UTF-8"

/-- What stands at a path. -/
inductive Node where
  /-- A regular file and its bytes. -/
  | file (bytes : List UInt8)
  /-- A directory. -/
  | dir
  /-- The null device: reads are empty and writes vanish. -/
  | sink
deriving DecidableEq, Repr

/-- An absolute path, as its components from the root. -/
abbrev AbsPath := List String

/-- A file tree with a working directory. -/
structure Workspace where
  /-- Every node but the root, by absolute path, in creation order. -/
  nodes : List (AbsPath × Node)
  /-- The working directory. -/
  cwd : AbsPath
deriving Repr

namespace Workspace

/-- The tree at the start of a run: an empty working directory, a scratch directory and the
null device. -/
def initial : Workspace :=
  ⟨[(["work"], .dir), (["tmp"], .dir), (["dev"], .dir), (["dev", "null"], .sink)], ["work"]⟩

/-- What stands at a path; the root is a directory. -/
def node? (w : Workspace) (p : AbsPath) : Option Node :=
  if p.isEmpty then some .dir else (w.nodes.find? (·.1 == p)).map (·.2)

/-- Every proper prefix of a path is a directory: otherwise the first one that is not is
missing or a file. -/
def parentsOk (w : Workspace) (p : AbsPath) : Except IoError Unit :=
  ((List.range p.length).map (p.take ·)).forM fun q =>
    match w.node? q with
    | some .dir => .ok ()
    | some _ => .error .notADirectory
    | none => .error .notFound

/-- The path and every prefix of it are directories. -/
def isDirPath (w : Workspace) (p : AbsPath) : Except IoError Unit := do
  w.parentsOk p
  match w.node? p with
  | some .dir => .ok ()
  | some _ => .error .notADirectory
  | none => .error .notFound

/-- The components of a path text, from the root. Empty components (from doubled or
trailing separators) are skipped, and `.` and `..` are taken from a directory that must exist:
`.` stays there and `..` goes up. -/
def resolve (w : Workspace) (s : String) : Except IoError AbsPath :=
  let start := if s.startsWith "/" then [] else w.cwd
  let step (cur : AbsPath) (c : String) : Except IoError AbsPath :=
    if c.isEmpty then .ok cur
    else if c == "." then do
      w.isDirPath cur
      .ok cur
    else if c == ".." then do
      w.isDirPath cur
      .ok cur.dropLast
    else .ok (cur ++ [c])
  (s.splitOn "/").foldlM step start

/-- The path a text names when a file is opened, created, renamed or removed: the empty
text names nothing, as the system refuses it with "no such file" rather than taking it for the
working directory. -/
def target (w : Workspace) (s : String) : Except IoError AbsPath :=
  if s.isEmpty then .error .notFound else w.resolve s

/-- Whether a path text's last component is `.` or `..`, which names a directory through
another name. -/
def endsInDots (s : String) : Bool :=
  let last := ((s.splitOn "/").filter (!·.isEmpty)).getLast?
  last == some "." || last == some ".."

/-- What stands at a path, with every directory on the way there. -/
def lookup (w : Workspace) (p : AbsPath) : Except IoError (Option Node) := do
  w.parentsOk p
  pure (w.node? p)

/-- The path a text names when what stands there is opened or inspected. A text ending in a
separator names a directory only: a file there is "not a directory". -/
def follow (w : Workspace) (s : String) : Except IoError AbsPath := do
  let p ← w.target s
  if s.endsWith "/" then
    match ← w.lookup p with
    | some .dir | none => pure p
    | some _ => throw .notADirectory
  else pure p

/-- The path a text names when a file is created there or opened for writing. The directories
on the way must exist; a text ending in a separator, `.` or `..` cannot name a file, and is
refused as "is a directory" whatever stands there. -/
def creating (w : Workspace) (s : String) : Except IoError AbsPath := do
  let p ← w.target s
  let _ ← w.lookup p
  if s.endsWith "/" || endsInDots s then throw .isADirectory
  pure p

/-- Replaces or adds the node at a path. -/
def put (w : Workspace) (p : AbsPath) (n : Node) : Workspace :=
  if w.nodes.any (·.1 == p) then { w with nodes := w.nodes.map fun e => if e.1 == p then (p, n) else e }
  else { w with nodes := w.nodes ++ [(p, n)] }

/-- A path strictly inside another. -/
def isBelow (q p : AbsPath) : Bool := q.length > p.length && q.take p.length == p

/-- Removes a node and everything below it. -/
def drop (w : Workspace) (p : AbsPath) : Workspace :=
  { w with nodes := w.nodes.filter fun e => !(e.1 == p || isBelow e.1 p) }

/-- The bytes of a file. -/
def read (w : Workspace) (p : AbsPath) : Except IoError (List UInt8) := do
  w.parentsOk p
  match w.node? p with
  | some (.file bs) => .ok bs
  | some .sink => .ok []
  | some .dir => .error .isADirectory
  | none => .error .notFound

/-- Creates or truncates a file and writes bytes to it. -/
def write (w : Workspace) (p : AbsPath) (bs : List UInt8) : Except IoError Workspace := do
  w.parentsOk p
  match w.node? p with
  | some .dir => .error .isADirectory
  | some .sink => .ok w
  | _ => .ok (w.put p (.file bs))

/-- Appends bytes to a file, creating it when missing. -/
def append (w : Workspace) (p : AbsPath) (bs : List UInt8) : Except IoError Workspace := do
  w.parentsOk p
  match w.node? p with
  | some .dir => .error .isADirectory
  | some .sink => .ok w
  | some (.file old) => .ok (w.put p (.file (old ++ bs)))
  | none => .ok (w.put p (.file bs))

/-- Makes one directory, whose parent must exist. -/
def mkdir (w : Workspace) (p : AbsPath) : Except IoError Workspace := do
  w.parentsOk p
  match w.node? p with
  | some _ => .error .alreadyExists
  | none => .ok (w.put p .dir)

/-- Makes a directory and its missing parents, accepting one that already exists; fails as
the first directory that cannot be made. -/
def createDirAll (w : Workspace) : AbsPath → Except IoError Workspace
  | [] => .ok w
  | c :: cs =>
    let p := c :: cs
    match w.mkdir p with
    | .ok w' => .ok w'
    | .error e =>
      if w.node? p == some .dir then .ok w
      else if e != .notFound then .error e
      else do
        let w ← createDirAll w p.dropLast
        match w.mkdir p with
        | .ok w' => .ok w'
        | .error e => if w.node? p == some .dir then .ok w else .error e
termination_by p => p.length
decreasing_by simp

/-- Whether the path a text names is a directory. -/
def isDirText (w : Workspace) (s : String) : Bool :=
  match w.follow s >>= w.lookup with
  | .ok (some .dir) => true
  | _ => false

/-- Makes the directory a path text names, and its missing parents, the way a program does it
by name: it makes the whole path, and only when something on the way is missing it first
makes the parent (the text without its last component) and tries again. A name that stands
for a directory afterwards is accepted, and the empty text needs nothing. The text shortens at
every step, so `fuel` at its length is enough. -/
def createDirsNamed (w : Workspace) (s : String) : Nat → Except IoError Workspace
  | 0 => .ok w
  | fuel + 1 =>
    if s.isEmpty then .ok w
    else
      match w.target s >>= w.mkdir with
      | .ok w' => .ok w'
      | .error e =>
        if e != .notFound then (if w.isDirText s then .ok w else .error e)
        else
          match PathText.parent? s with
          | none => .error e
          | some up => do
            let w ← createDirsNamed w up fuel
            match w.target s >>= w.mkdir with
            | .ok w' => .ok w'
            | .error e => if w.isDirText s then .ok w else .error e

/-- Makes the directory a path text names and its missing parents. -/
def createDirAllNamed (w : Workspace) (s : String) : Except IoError Workspace :=
  w.createDirsNamed s (s.length + 1)

/-- Renames a file over a path: the target's parent must exist and a directory cannot be
replaced by a file. -/
def rename (w : Workspace) (src dst : AbsPath) : Except IoError Workspace := do
  w.parentsOk src
  w.parentsOk dst
  let n ← match w.node? src with
    | some n => .ok n
    | none => .error .notFound
  match n, w.node? dst with
  | .dir, _ => .error .permissionDenied
  | _, some .dir => .error .isADirectory
  | _, _ => .ok ((w.drop src).put dst n)

/-- Renames a file over the path a text names. The target's directories must exist; a target
ending in `.` or `..` is a directory in use; a file cannot take a name ending in a separator;
and a directory cannot be replaced by a file. -/
def renameOnto (w : Workspace) (src : AbsPath) (s : String) : Except IoError Workspace := do
  let dst ← w.target s
  let _ ← w.lookup dst.dropLast
  if endsInDots s then throw .busy
  let n ← match ← w.lookup src with
    | some n => pure n
    | none => throw .notFound
  if n != .dir && s.endsWith "/" then throw .notADirectory
  w.rename src dst

/-- Deletes a file or the null device entry; a directory is refused. -/
def remove (w : Workspace) (p : AbsPath) : Except IoError Workspace := do
  w.parentsOk p
  match w.node? p with
  | some .dir => .error .isADirectory
  | some _ => .ok (w.drop p)
  | none => .error .notFound

/-- Deletes whatever stands at a path, a directory with its contents. -/
def removeAll (w : Workspace) (p : AbsPath) : Except IoError Workspace := do
  w.parentsOk p
  match w.node? p with
  | some _ => .ok (w.drop p)
  | none => .error .notFound

/-- The names directly inside a directory, in creation order. -/
def children (w : Workspace) (dir : AbsPath) : List String :=
  w.nodes.filterMap fun (q, _) =>
    if q.length == dir.length + 1 && q.take dir.length == dir then q.getLast? else none

/-- A name that nothing in a directory has, as a temporary file is made under a name not yet
taken: `stem` padded with as many `_` as the names in the directory have characters, so it is
longer than each of them. -/
def freshName (w : Workspace) (dir : AbsPath) (stem : String) : String :=
  stem ++ String.ofList (List.replicate ((w.children dir).foldl (· + ·.length) 0) '_')

/-- A regular file stands at the path. -/
def isFile (w : Workspace) (p : AbsPath) : Bool :=
  match w.parentsOk p, w.node? p with
  | .ok (), some (.file _) => true
  | _, _ => false

/-- Something stands at the path. -/
def pathExists (w : Workspace) (p : AbsPath) : Bool :=
  match w.parentsOk p, w.node? p with
  | .ok (), some _ => true
  | _, _ => false

/-- The tree with a file placed at a path from the working directory, its missing parent
directories made. -/
def place (w : Workspace) (path : String) (bs : List UInt8) : Except IoError Workspace := do
  let p ← w.resolve path
  let w ← w.createDirAll p.dropLast
  w.write p bs

/-- The initial tree with files placed in the working directory, by path relative to it. -/
def withFiles (files : List (String × List UInt8)) : Workspace :=
  files.foldl (fun w (path, bs) => (w.place path bs).toOption.getD w) initial

/-- The files under the working directory, by path relative to it, sorted. -/
def files (w : Workspace) : List (String × List UInt8) :=
  let inside := w.nodes.filterMap fun (p, n) =>
    match n with
    | .file bs => if isBelow p w.cwd then some ("/".intercalate (p.drop w.cwd.length), bs) else none
    | _ => none
  inside.mergeSort (fun a b => decide (a.1 ≤ b.1))

end Workspace

end DefUseCoverage
