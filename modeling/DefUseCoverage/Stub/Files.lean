import DefUseCoverage.Pair
import DefUseCoverage.Workspace.Basic
import DefUseCoverage.Workspace.PathText
import DefUseCoverage.Text.Identifier
import DefUseCoverage.Text.Quoted
import DefUseCoverage.Digest.Md5
import DefUseCoverage.Text.Utf8
/-!
# Stub files

Emitted stubs are also written as files: `root/<type as identifier>/put_<MD5 of body>.put`.
The name is determined by the content, so a file already at that path holds the same body
and is left alone. A new file holds the body followed by a line break when it does not end
with one; it is written to a temporary file and renamed into place, so no partial file is
ever left under the final name.
-/

namespace DefUseCoverage

/-- Why a stub file was not written. -/
inductive StubFileError where
  /-- The directory could not be made. -/
  | createDir (path : String) (err : IoError)
  /-- The file could not be written. -/
  | write (path : String) (err : IoError)
deriving DecidableEq, Repr

/-- The text of a stub file error. -/
def StubFileError.message : StubFileError → String
  | .createDir p e => "Failed to create PUT directory " ++ Quoted.quote p ++ ": " ++ e.message
  | .write p e => "Failed to write PUT file " ++ Quoted.quote p ++ ": " ++ e.message

/-- Writes stub files under a root directory. -/
structure StubWriter where
  /-- The root directory, as given. -/
  root : String
deriving Repr

/-- The outcome of writing a batch of stubs. -/
structure WriteSummary where
  /-- Files created. -/
  written : Nat := 0
  /-- Positions in the batch of the stubs that failed, with why. -/
  failed : List (Nat × StubFileError) := []
deriving Repr

namespace StubWriter

/-- A writer whose root directory has been made. -/
def create (w : Workspace) (root : String) : Except StubFileError (StubWriter × Workspace) :=
  match w.createDirAllNamed root with
  | .ok w => .ok (⟨root⟩, w)
  | .error e => .error (.createDir root e)

/-- The file of a stub body for a type. -/
def pathFor (sw : StubWriter) (ty body : String) : String :=
  PathText.join (PathText.join sw.root (Identifier.sanitize ty)) ("put_" ++ Md5.hexOfString body ++ ".put")

/-- The bytes of a stub file. -/
def content (body : String) : List UInt8 :=
  Utf8.encode (if body.endsWith "\n" then body else body ++ "\n")

/-- The name of the temporary file a write goes through: one that nothing in the directory has,
made from `.tmp_put`. -/
def tempName (w : Workspace) (dir : AbsPath) : String := w.freshName dir ".tmp_put"

/-- Writes the file of a stub: the path when a file was created, `none` when one was already
there. -/
def write (sw : StubWriter) (w : Workspace) (r : PutRecord) :
    Except StubFileError (Option String) × Workspace :=
  let path := sw.pathFor r.declaringType r.body
  let present := match w.follow path with
    | .ok p => w.pathExists p
    | .error _ => false
  if present then (.ok none, w)
  else
    let dir := (PathText.parent? path).getD sw.root
    match w.createDirAllNamed dir with
    | .error e => (.error (.createDir dir e), w)
    | .ok w =>
      match w.resolve dir with
      | .error e => (.error (.write path e), w)
      | .ok dirPath =>
        let temp := dirPath ++ [tempName w dirPath]
        match w.write temp (content r.body) with
        | .error e => (.error (.write path e), w)
        | .ok w1 =>
          match w1.renameOnto temp path with
          | .ok w2 => (.ok (some path), w2)
          | .error e => (.error (.write path e), (w1.remove temp).toOption.getD w1)

/-- Writes the files of a batch, going on past failures. -/
def writeAll (sw : StubWriter) (w : Workspace) (rs : List PutRecord) : WriteSummary × Workspace :=
  rs.zipIdx.foldl (fun (summary, w) (r, i) =>
    match sw.write w r with
    | (.ok (some _), w) => ({ summary with written := summary.written + 1 }, w)
    | (.ok none, w) => (summary, w)
    | (.error e, w) => ({ summary with failed := summary.failed ++ [(i, e)] }, w)) ({}, w)

end StubWriter

end DefUseCoverage
