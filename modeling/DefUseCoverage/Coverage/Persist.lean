import DefUseCoverage.Coverage.Snapshot.Json
import DefUseCoverage.Coverage.Snapshot.Binary
import DefUseCoverage.Workspace.Basic
import DefUseCoverage.Workspace.PathText
import DefUseCoverage.Text.Quoted
/-!
# Saving and loading snapshots

A snapshot is saved in the pretty JSON form (no newline at the end) or in the binary form.
Saving creates the target's directory with its missing parents, writes a temporary file there
and renames it over the target, so a failed save leaves the old file as it was. Loading a
path that holds no regular file, or an empty one, gives the empty snapshot.
-/

namespace DefUseCoverage.Coverage

/-- How a snapshot is stored. -/
inductive Format where
  /-- Pretty JSON text. -/
  | json
  /-- The binary form. -/
  | bincode
deriving DecidableEq, Repr

/-- The format's name in configuration files. -/
def Format.name : Format → String
  | .json => "json"
  | .bincode => "bincode"

/-- Why a snapshot could not be saved or loaded. -/
inductive StoreError where
  /-- A file operation failed. -/
  | io (text : String)
  /-- The file does not hold a snapshot in the expected format. -/
  | deserialization (text : String)
deriving DecidableEq, Repr

/-- The text of a store error. -/
def StoreError.message : StoreError → String
  | .io t => "Coverage store I/O error: " ++ t
  | .deserialization t => "Coverage store deserialization error: " ++ t

/-- The bytes of a snapshot in a format. -/
def Snapshot.encode (s : Snapshot) : Format → List UInt8
  | .json => Utf8.encode s.toJson.pretty
  | .bincode => Binary.encode s

/-- The name of the temporary file a save writes first: one that nothing in the directory has,
made from `.tmp_snapshot`. -/
def tempName (w : Workspace) (dir : AbsPath) : String := w.freshName dir ".tmp_snapshot"

/-- Saves a snapshot at a path of the working directory. -/
def Snapshot.save (w : Workspace) (path : String) (fmt : Format) (s : Snapshot) :
    Except StoreError Workspace := do
  let dir := match PathText.parent? path with
    | some d => if d.isEmpty then "." else d
    | none => "."
  let dirFailed (e : IoError) : StoreError :=
    .io ("Failed to create snapshot directory " ++ Quoted.quote dir ++ ": " ++ e.message)
  let w ← match w.createDirAllNamed dir with
    | .ok w => pure w
    | .error e => throw (dirFailed e)
  let dirPath ← match w.resolve dir with
    | .ok p => pure p
    | .error e => throw (dirFailed e)
  let temp := dirPath ++ [tempName w dirPath]
  let w ← match w.write temp (s.encode fmt) with
    | .ok w => pure w
    | .error e => throw (.io ("Failed to create temp file in " ++ Quoted.quote dir ++ ": " ++ e.message))
  let moveFailed (e : IoError) : StoreError :=
    .io ("Failed to move snapshot into place at " ++ Quoted.quote path ++
      ": failed to persist temporary file: " ++ e.message)
  match w.renameOnto temp path with
  | .ok w => pure w
  | .error e => throw (moveFailed e)

/-- Loads a snapshot from a path of the working directory. -/
def Snapshot.load (w : Workspace) (path : String) (fmt : Format) : Except StoreError Snapshot :=
  match w.follow path with
  | .error _ => .ok {}
  | .ok p =>
    if !w.isFile p then .ok {}
    else
      match w.read p with
      | .error e => .error (.io ("Failed to open snapshot " ++ Quoted.quote path ++ ": " ++ e.message))
      | .ok [] => .ok {}
      | .ok bs =>
        match fmt with
        | .json =>
          match (Json.parse? bs).bind Snapshot.ofJson? with
          | some s => .ok s
          | none => .error (.deserialization ("Failed to parse JSON from snapshot " ++ Quoted.quote path ++
              ": invalid document. The file might be corrupted."))
        | .bincode =>
          match Binary.decode? bs with
          | some s => .ok s
          | none => .error (.deserialization "Bincode decoding error: invalid data")

/-- A store filled from the snapshot at a path. -/
def Store.openAt (w : Workspace) (path : String) (fmt : Format) : Except StoreError Store := do
  let snap ← Snapshot.load w path fmt
  pure ((({} : Store).restore snap).2)

end DefUseCoverage.Coverage
