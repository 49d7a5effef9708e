/-!
# Def-use pairs

A candidate is three names: a field, a method that writes it (the definition) and a method
that reads it (the use). Once each name is resolved to the type that declares it, the
candidate becomes a def-use pair, provided all three share that type.

* `Pair.ofMembers` builds a pair from three resolved members and fails with the three
  declaring types exactly when they are not all equal.
* `Pair.toCandidate` forgets the type; `Pair.ofMembers` and `toCandidate` give back the
  three names.
-/

namespace DefUseCoverage

/-- Three unresolved names: a field, a method that writes it and a method that reads it. -/
structure Candidate where
  /-- The field's qualified name. -/
  field : String
  /-- The method that writes the field. -/
  defMethod : String
  /-- The method that reads the field. -/
  useMethod : String
deriving DecidableEq, Repr, Inhabited

/-- A candidate as text: `(field, def, use)`. -/
def Candidate.display (c : Candidate) : String :=
  "(" ++ c.field ++ ", " ++ c.defMethod ++ ", " ++ c.useMethod ++ ")"

/-- A field or method name together with the type that declares it. -/
structure Member where
  /-- The member's qualified name. -/
  name : String
  /-- The type that declares the member. -/
  declaringType : String
deriving DecidableEq, Repr

/-- A def-use pair: a field and the methods that write and read it, all declared by one
type. -/
structure Pair where
  /-- The type that declares the field and both methods. -/
  declaringType : String
  /-- The field. -/
  field : String
  /-- The method that writes the field. -/
  defMethod : String
  /-- The method that reads the field. -/
  useMethod : String
deriving DecidableEq, Repr, Inhabited

namespace Pair

/-- The names the pair was built from. -/
def toCandidate (p : Pair) : Candidate := ⟨p.field, p.defMethod, p.useMethod⟩

/-- A pair as text: `field [def -> use]`. It also keys the pair's seed stream. -/
def display (p : Pair) : String :=
  p.field ++ " [" ++ p.defMethod ++ " -> " ++ p.useMethod ++ "]"

end Pair

/-- The declaring types of a field, a definition and a use that are not all the same. -/
structure TypeMismatch where
  /-- The type declaring the field. -/
  fieldType : String
  /-- The type declaring the writing method. -/
  defType : String
  /-- The type declaring the reading method. -/
  useType : String
deriving DecidableEq, Repr

/-- The text of a type mismatch. -/
def TypeMismatch.message (m : TypeMismatch) : String :=
  "declaring types differ: field on '" ++ m.fieldType ++ "', definition on '" ++ m.defType ++
    "', use on '" ++ m.useType ++ "'"

/-- Joins three resolved members into a pair when the methods' types equal the field's. -/
def Pair.ofMembers (field defMember useMember : Member) : Except TypeMismatch Pair :=
  if field.declaringType = defMember.declaringType ∧ field.declaringType = useMember.declaringType then
    .ok ⟨field.declaringType, field.name, defMember.name, useMember.name⟩
  else
    .error ⟨field.declaringType, defMember.declaringType, useMember.declaringType⟩

/-- A generated test stub: its body, the type it is filed under and the pair it targets.
Two records are the same stub when type and body agree. -/
structure PutRecord where
  /-- The type the stub is filed under. -/
  declaringType : String
  /-- The stub's text. -/
  body : String
  /-- The pair the stub exercises. -/
  pair : Pair
deriving DecidableEq, Repr, Inhabited

end DefUseCoverage
