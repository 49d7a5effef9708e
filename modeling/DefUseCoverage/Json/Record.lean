import DefUseCoverage.Json.Parse
/-!
# Records in JSON

Reading a record (a fixed set of named fields) from a JSON value, strictly: an object whose
known members each appear at most once, unknown members skipped, or an array holding the
fields in order.
-/

namespace DefUseCoverage

namespace Json

/-- The values of the named members of a record object, each at most once; unknown members
are skipped, and a member name that is not text refuses the object. -/
def recordMembers (names : List String) : List (Option String × Json) → Option (List (String × Json))
  | [] => some []
  | (none, _) :: _ => none
  | (some k, v) :: rest => do
    let found ← recordMembers names rest
    if names.contains k then
      if found.any (·.1 == k) then none else some ((k, v) :: found)
    else some found

/-- A record's members in field order, from an object or an array. Absent members are
`none`; an array gives its items in order and may be shorter than the fields only when
`short` allows. -/
def recordFields (names : List String) (short : Bool) : Json → Option (List (Option Json))
  | .object ms => do
    let found ← recordMembers names ms
    pure (names.map fun n => (found.find? (·.1 == n)).map (·.2))
  | .array items =>
    if items.length > names.length then none
    else if items.length < names.length && !short then none
    else some (names.zipIdx.map fun (_, i) => items[i]?)
  | _ => none

/-- A string value with text. -/
def text? : Json → Option String
  | .string (some s) => some s
  | _ => none

/-- The items of an array. -/
def items? : Json → Option (List Json)
  | .array xs => some xs
  | _ => none

end Json

end DefUseCoverage
