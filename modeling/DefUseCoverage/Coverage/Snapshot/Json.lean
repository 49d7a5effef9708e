import DefUseCoverage.Coverage.Snapshot
import DefUseCoverage.Json.Record
/-!
# Snapshots as JSON

A snapshot is written as `{"types": [...]}`; a type as `declaring_type`, `pairs` and `puts`;
a pair as `field`, `def_method`, `use_method` and `covered`, in that order. Reading requires
every field, refuses repeated ones, skips unknown ones and wants `covered` to be a boolean.
-/

namespace DefUseCoverage.Coverage

/-- A pair entry as JSON. -/
def PairSnapshot.toJson (p : PairSnapshot) : Json :=
  Json.obj [("field", .str p.field), ("def_method", .str p.defMethod),
    ("use_method", .str p.useMethod), ("covered", .bool p.covered)]

/-- A type entry as JSON. -/
def TypeSnapshot.toJson (t : TypeSnapshot) : Json :=
  Json.obj [("declaring_type", .str t.declaringType), ("pairs", .array (t.pairs.map PairSnapshot.toJson)),
    ("puts", .array (t.puts.map Json.str))]

/-- A snapshot as JSON. -/
def Snapshot.toJson (s : Snapshot) : Json := Json.obj [("types", .array (s.types.map TypeSnapshot.toJson))]

/-- A boolean value. -/
def boolOf? : Json → Option Bool
  | .bool b => some b
  | _ => none

/-- A pair entry read from JSON. -/
def PairSnapshot.ofJson? (v : Json) : Option PairSnapshot := do
  match ← Json.recordFields ["field", "def_method", "use_method", "covered"] false v with
  | [some f, some d, some u, some c] =>
    pure ⟨← Json.text? f, ← Json.text? d, ← Json.text? u, ← boolOf? c⟩
  | _ => none

/-- A type entry read from JSON. -/
def TypeSnapshot.ofJson? (v : Json) : Option TypeSnapshot := do
  match ← Json.recordFields ["declaring_type", "pairs", "puts"] false v with
  | [some t, some ps, some bs] =>
    pure ⟨← Json.text? t, ← (← Json.items? ps).mapM PairSnapshot.ofJson?,
      ← (← Json.items? bs).mapM Json.text?⟩
  | _ => none

/-- A snapshot read from JSON. -/
def Snapshot.ofJson? (v : Json) : Option Snapshot := do
  match ← Json.recordFields ["types"] false v with
  | [some ts] => pure ⟨← (← Json.items? ts).mapM TypeSnapshot.ofJson?⟩
  | _ => none

end DefUseCoverage.Coverage
