import DefUseCoverage.Metadata.File
/-!
# Static and dynamic views

Metadata comes from two databases: the static view, produced by analysis before anything
runs, and the dynamic view, grown from what test runs observe. A policy says which views are
consulted and in which order. Resolution takes the first view's answer; enumerations
concatenate the views in order and keep the first occurrence of each item.

Extraction turns a candidate into a pair: the field, then the definition, then the use are
resolved, and the first name that no view knows rejects the candidate; three known names
with different declaring types reject it too.
-/

namespace DefUseCoverage.Metadata

/-- Which views are consulted, in order. -/
inductive Policy where
  /-- The static view only. -/
  | static
  /-- The dynamic view only. -/
  | dynamic
  /-- The static view, then the dynamic one. -/
  | staticThenDynamic
deriving DecidableEq, Repr

/-- The policy's name in configuration files. -/
def Policy.name : Policy → String
  | .static => "static"
  | .dynamic => "dynamic"
  | .staticThenDynamic => "static-then-dynamic"

/-- The policy a name stands for. -/
def Policy.ofName? (s : String) : Option Policy :=
  [Policy.static, .dynamic, .staticThenDynamic].find? (·.name == s)

/-- The two views under a policy. -/
structure Views where
  /-- The view from analysis. -/
  static : Db
  /-- The view grown from test runs. -/
  dynamic : Db
  /-- Which views are consulted. -/
  policy : Policy
deriving Repr

/-- Removes repeated items, keeping first occurrences in order. -/
def dedup {α : Type} [BEq α] (xs : List α) : List α := extendNew [] xs

namespace Views

/-- The consulted views, in order. -/
def ordered (v : Views) : List Db :=
  match v.policy with
  | .static => [v.static]
  | .dynamic => [v.dynamic]
  | .staticThenDynamic => [v.static, v.dynamic]

/-- The declaring type a name has in the first view that knows it. -/
def resolve? (v : Views) (k : Kind) (name : String) : Option String :=
  v.ordered.findSome? (·.resolve? k name)

/-- The known types of the views, in order, each once. -/
def knownTypes (v : Views) : List String := dedup (v.ordered.flatMap (·.types))

/-- The candidates of the views for the requested types, in order, each once. -/
def candidates (v : Views) (types : List String) : List Candidate :=
  dedup (v.ordered.flatMap (·.candidates types))

end Views

/-- Why a candidate was not turned into a pair. -/
inductive Rejection where
  /-- A name is unknown. -/
  | unresolved (e : MetadataError)
  /-- The three names belong to different types. -/
  | mismatch (m : TypeMismatch)
deriving DecidableEq, Repr

/-- The text of a rejection. -/
def Rejection.message : Rejection → String
  | .unresolved e => "Unresolved declaring type: " ++ e.message
  | .mismatch m => "Type mismatch: " ++ m.message

/-- A name resolved by a lookup, or the not-found rejection for it. -/
def resolveWith (lookup : Kind → String → Option String) (k : Kind) (name : String) :
    Except Rejection Member :=
  match lookup k name with
  | some ty => .ok ⟨name, ty⟩
  | none => .error (.unresolved (.notFound k name))

/-- The pair a candidate stands for under a lookup: field, definition and use resolved in
that order, then their types compared. -/
def extractWith (lookup : Kind → String → Option String) (c : Candidate) : Except Rejection Pair := do
  let f ← resolveWith lookup .field c.field
  let d ← resolveWith lookup .method c.defMethod
  let u ← resolveWith lookup .method c.useMethod
  match Pair.ofMembers f d u with
  | .ok p => .ok p
  | .error m => .error (.mismatch m)

/-- The pair a candidate stands for under the views. -/
def Views.extract (v : Views) (c : Candidate) : Except Rejection Pair := extractWith v.resolve? c

end DefUseCoverage.Metadata
