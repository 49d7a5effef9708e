import DefUseCoverage.Metadata.Basic
import DefUseCoverage.Toml.Parse
import DefUseCoverage.Workspace.Basic
import DefUseCoverage.Text.Quoted
import DefUseCoverage.Text.Utf8
/-!
# Metadata files

A metadata file is a TOML document with a required `assembly` string and an optional array
of `types`; each type has a `name` and optional `fields` and `methods`, and each method a
`name` and optional `defines` and `uses`. Keys are written in kebab-case and no other key is
allowed at any level. A type or a method may also be written as an array of its entries in
order, as a configuration section may.

`load` reads such a file from the working directory into a fresh database, refusing a file
that describes another assembly than the expected one.
-/

namespace DefUseCoverage.Metadata

/-- Why metadata could not be used. -/
inductive MetadataError where
  /-- No view knows the name. -/
  | notFound (kind : Kind) (name : String)
  /-- The file at the path could not be read. -/
  | unreadable (path : String) (err : IoError)
  /-- The text is not a metadata document; the path, when it came from a file. -/
  | malformed (path : Option String)
  /-- The file describes another assembly. -/
  | assemblyMismatch (expected found : String)
deriving DecidableEq, Repr

/-- The text of a metadata error. -/
def MetadataError.message : MetadataError → String
  | .notFound k n => k.name ++ " '" ++ n ++ "' not found in metadata"
  | .unreadable p e =>
    "Metadata load error: Failed to read metadata file " ++ Quoted.quote p ++ ": " ++ e.message
  | .malformed none => "Metadata load error: Failed to parse metadata TOML: invalid document"
  | .malformed (some p) =>
    "Metadata load error: In metadata file " ++ Quoted.quote p ++
      ": Failed to parse metadata TOML: invalid document"
  | .assemblyMismatch e f => "Metadata describes assembly '" ++ f ++ "', expected '" ++ e ++ "'"

/-- A method entry of a file. -/
def MethodEntry.ofToml? (v : Toml) : Option MethodEntry := do
  match ← Toml.record ["name", "defines", "uses"] v with
  | [a, b, c] => pure ⟨← Toml.needField Toml.asString? a, ← Toml.field Toml.asStrings? [] b,
      ← Toml.field Toml.asStrings? [] c⟩
  | _ => none

/-- A type entry of a file. -/
def TypeEntry.ofToml? (v : Toml) : Option TypeEntry := do
  match ← Toml.record ["name", "fields", "methods"] v with
  | [a, b, c] => pure ⟨← Toml.needField Toml.asString? a, ← Toml.field Toml.asStrings? [] b,
      ← Toml.field (Toml.arrayOf MethodEntry.ofToml?) [] c⟩
  | _ => none

/-- The contents of a metadata document. -/
def FileContents.ofToml? (v : Toml) : Option FileContents := do
  match ← Toml.record ["assembly", "types"] v with
  | [a, b] => pure ⟨← Toml.needField Toml.asString? a, ← Toml.field (Toml.arrayOf TypeEntry.ofToml?) [] b⟩
  | _ => none

/-- The contents of a metadata text. -/
def FileContents.parse (text : String) : Except MetadataError FileContents :=
  match (Toml.parse? text).bind FileContents.ofToml? with
  | some f => .ok f
  | none => .error (.malformed none)

/-- The contents of a metadata file in the working directory. -/
def FileContents.read (w : Workspace) (path : String) : Except MetadataError FileContents := do
  let bytes ← match w.follow path >>= w.read with
    | .ok bs => .ok bs
    | .error e => .error (.unreadable path e)
  let text ← match Utf8.decode? bytes with
    | some t => .ok t
    | none => .error (.unreadable path .notText)
  match FileContents.parse text with
  | .ok f => .ok f
  | .error _ => .error (.malformed (some path))

/-- A database loaded from a metadata file, which must describe the expected assembly when
one is given. -/
def Db.load (w : Workspace) (path : String) (expected : Option String) : Except MetadataError Db := do
  let f ← FileContents.read w path
  match expected with
  | some e => if f.assembly != e then throw (.assemblyMismatch e f.assembly)
  | none => pure ()
  pure ((default : Db).extend f)

end DefUseCoverage.Metadata
