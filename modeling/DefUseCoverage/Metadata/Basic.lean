import DefUseCoverage.Pair
/-!
# Metadata databases

A metadata database records which type declares each field and each method, and which
fields each method writes (defines) and reads (uses). It only grows: a name keeps the type
it was first recorded with, a method redeclared on its own type gains the new defines and
uses, and a redeclaration on another type is ignored. Fields and methods are separate
namespaces. The known types are kept in the order they first appeared.

* `declareField`, `declareMethod` and `observe` add entries and say whether the name was
  new.
* `resolve?` gives a name's declaring type.
* `candidates` lists, for each requested type and each field it declares, every method that
  defines the field paired with every method that uses it, in recording order.
-/

namespace DefUseCoverage.Metadata

/-- The two namespaces of recorded names. -/
inductive Kind where
  /-- Fields. -/
  | field
  /-- Methods. -/
  | method
deriving DecidableEq, Repr

/-- The word for a kind, as written in files, reports and messages. -/
def Kind.name : Kind → String
  | .field => "field"
  | .method => "method"

/-- A field or method seen while tests ran, with the type that declares it. -/
structure Observed where
  /-- Field or method. -/
  kind : Kind
  /-- Its qualified name. -/
  name : String
  /-- The type that declares it. -/
  declaringType : String
deriving DecidableEq, Repr

/-- What is recorded for a method. -/
structure Method where
  /-- The type that declares the method. -/
  declaringType : String
  /-- The fields it writes, in recording order, without repeats. -/
  defines : List String
  /-- The fields it reads, in recording order, without repeats. -/
  uses : List String
deriving DecidableEq, Repr

/-- A list with an element added at the end unless it is already there. -/
def insertNew {α : Type} [BEq α] (xs : List α) (x : α) : List α :=
  if xs.contains x then xs else xs ++ [x]

/-- A list extended by the elements of another that it lacks, in their order. -/
def extendNew {α : Type} [BEq α] (xs ys : List α) : List α := ys.foldl insertNew xs

/-- A metadata database. -/
structure Db where
  /-- Every type with a recorded member or listed by a file, in order of appearance. -/
  types : List String := []
  /-- Each recorded field with its declaring type, in recording order. -/
  fields : List (String × String) := []
  /-- Each recorded method with what is known of it, in recording order. -/
  methods : List (String × Method) := []
deriving Repr, Inhabited

namespace Db

/-- The declaring type of a recorded field. -/
def fieldType? (db : Db) (name : String) : Option String :=
  (db.fields.find? (·.1 == name)).map (·.2)

/-- What is recorded for a method. -/
def method? (db : Db) (name : String) : Option Method :=
  (db.methods.find? (·.1 == name)).map (·.2)

/-- Records that a type declares a field; `true` when the field is new. A known field keeps
its type and nothing changes. -/
def declareField (db : Db) (ty name : String) : Bool × Db :=
  match db.fieldType? name with
  | some _ => (false, db)
  | none => (true, { db with types := insertNew db.types ty, fields := db.fields ++ [(name, ty)] })

/-- Records a method of a type with fields it defines and uses; `true` when the method is
new. A known method of the same type gains the fields it lacked; one of another type is left
as it is. -/
def declareMethod (db : Db) (ty name : String) (defines uses : List String) : Bool × Db :=
  match db.method? name with
  | some m =>
    if m.declaringType == ty then
      let m' := { m with defines := extendNew m.defines defines, uses := extendNew m.uses uses }
      (false, { db with methods := db.methods.map fun e => if e.1 == name then (name, m') else e })
    else (false, db)
  | none =>
    (true, { db with
      types := insertNew db.types ty
      methods := db.methods ++ [(name, ⟨ty, extendNew [] defines, extendNew [] uses⟩)] })

/-- Records an entity seen at run time: a field, or a method with no defines or uses. -/
def observe (db : Db) (o : Observed) : Bool × Db :=
  match o.kind with
  | .field => db.declareField o.declaringType o.name
  | .method => db.declareMethod o.declaringType o.name [] []

/-- The declaring type of a recorded name. -/
def resolve? (db : Db) : Kind → String → Option String
  | .field, name => db.fieldType? name
  | .method, name => (db.method? name).map (·.declaringType)

/-- The candidates of the requested types: for each type in order (repeats repeat), each
field it declares, each method defining that field and each method using it. -/
def candidates (db : Db) (types : List String) : List Candidate :=
  types.flatMap fun ty =>
    (db.fields.filter (·.2 == ty)).flatMap fun (field, _) =>
      (db.methods.filter (·.2.defines.contains field)).flatMap fun (d, _) =>
        (db.methods.filter (·.2.uses.contains field)).map fun (u, _) => ⟨field, d, u⟩

end Db

/-- A method as a metadata file lists it. -/
structure MethodEntry where
  /-- The method's name. -/
  name : String
  /-- Fields it writes. -/
  defines : List String
  /-- Fields it reads. -/
  uses : List String
deriving Repr

/-- A type as a metadata file lists it. -/
structure TypeEntry where
  /-- The type's name. -/
  name : String
  /-- Fields it declares. -/
  fields : List String
  /-- Methods it declares. -/
  methods : List MethodEntry
deriving Repr

/-- The contents of a metadata file: the assembly it describes and its types. -/
structure FileContents where
  /-- The assembly the file describes. -/
  assembly : String
  /-- The types, in order. -/
  types : List TypeEntry
deriving Repr

/-- Adds a listed type to a database: the type first, even with no members, then its fields,
then its methods. -/
def Db.addEntry (db : Db) (t : TypeEntry) : Db :=
  let db := { db with types := insertNew db.types t.name }
  let db := t.fields.foldl (fun db f => (db.declareField t.name f).2) db
  t.methods.foldl (fun db m => (db.declareMethod t.name m.name m.defines m.uses).2) db

/-- Adds every type of a file to a database, in order. -/
def Db.extend (db : Db) (f : FileContents) : Db := f.types.foldl Db.addEntry db

end DefUseCoverage.Metadata
