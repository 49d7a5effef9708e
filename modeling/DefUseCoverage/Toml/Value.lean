/-!
# TOML values

Configuration and metadata files are TOML documents (TOML 1.0). A document is a table; tables
keep their keys in the order they were first written, and arrays of tables are arrays of
tables. Reading a document into a record goes through the accessors below, each of which
answers `none` when the value has another type.
-/

namespace DefUseCoverage

/-- A TOML value. -/
inductive Toml where
  /-- A string. -/
  | string (s : String)
  /-- A 64-bit signed integer. -/
  | integer (i : Int)
  /-- A float, as written. -/
  | float (text : String)
  /-- A boolean. -/
  | boolean (b : Bool)
  /-- A date, time or date-time, as written. -/
  | datetime (text : String)
  /-- An array, also an array of tables. -/
  | array (items : List Toml)
  /-- A table, also an inline table, with its keys in order. -/
  | table (entries : List (String × Toml))
deriving Repr, Inhabited

namespace Toml

/-- The text of a string value. -/
def asString? : Toml → Option String
  | .string s => some s
  | _ => none

/-- A non-negative integer below `2^64`. -/
def asNat? : Toml → Option Nat
  | .integer i => if 0 ≤ i then some i.toNat else none
  | _ => none

/-- The items of an array. -/
def asArray? : Toml → Option (List Toml)
  | .array xs => some xs
  | _ => none

/-- The entries of a table. -/
def asTable? : Toml → Option (List (String × Toml))
  | .table es => some es
  | _ => none

/-- An array of strings. -/
def asStrings? (v : Toml) : Option (List String) :=
  v.asArray?.bind fun xs => xs.mapM asString?

end Toml

/-- The value of a key in a table's entries. -/
def Toml.lookup (entries : List (String × Toml)) (k : String) : Option Toml :=
  (entries.find? (·.1 == k)).map (·.2)

/-- Every key of a table is one of `allowed`. -/
def Toml.keysWithin (entries : List (String × Toml)) (allowed : List String) : Bool :=
  entries.all fun e => allowed.contains e.1

/-- What a record read from a TOML value holds for one of its fields. -/
inductive Toml.Slot where
  /-- The value written for the field. -/
  | given (v : Toml)
  /-- A table without the field's key: the field takes its default, and an optional field
  is empty. -/
  | unnamed
  /-- An array that ended before the field's position: the field takes its default, and a
  field without a default cannot be read, even an optional one. -/
  | pastEnd
deriving Repr

namespace Toml

/-- The fields of a record, by their names in order. A record is written as a table, where a
key that names no field is refused, or as an array holding the fields in order, where items
past the last field are ignored. -/
def record (names : List String) : Toml → Option (List Slot)
  | .table es =>
    if !Toml.keysWithin es names then none
    else some (names.map fun n => match Toml.lookup es n with
      | some v => .given v
      | none => .unnamed)
  | .array items =>
    some (names.zipIdx.map fun (_, i) => match items[i]? with
      | some v => .given v
      | none => .pastEnd)
  | _ => none

/-- A field with a default, read with `read`. -/
def field {α : Type} (read : Toml → Option α) (dflt : α) : Slot → Option α
  | .given v => read v
  | _ => some dflt

/-- An optional field without a default: empty when a table leaves it out. -/
def optField {α : Type} (read : Toml → Option α) : Slot → Option (Option α)
  | .given v => (read v).map some
  | .unnamed => some none
  | .pastEnd => none

/-- A required field. -/
def needField {α : Type} (read : Toml → Option α) : Slot → Option α
  | .given v => read v
  | _ => none

/-- A name among the given ones: the name as a string, or a table holding it as its only key
with an empty table or array. -/
def choice {α : Type} (options : List (String × α)) : Toml → Option α
  | .string s => (options.find? (·.1 == s)).map (·.2)
  | .table [(k, .table [])] | .table [(k, .array [])] => (options.find? (·.1 == k)).map (·.2)
  | _ => none

/-- An array whose items are all read with `read`. -/
def arrayOf {α : Type} (read : Toml → Option α) (v : Toml) : Option (List α) :=
  v.asArray?.bind (·.mapM read)

end Toml

end DefUseCoverage
