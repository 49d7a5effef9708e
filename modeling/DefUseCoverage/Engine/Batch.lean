import DefUseCoverage.Json.Value
import DefUseCoverage.Pair
/-!
# Batches for the test engine

A batch is the JSON document handed to an engine: `{"puts": [...]}` with, for each stub in
order, its declaring type, its body and its target pair as the three names `field`,
`def_method` and `use_method`. It is written in the pretty form.
-/

namespace DefUseCoverage

/-- A candidate as a JSON object of its three names. -/
def Candidate.toJson (c : Candidate) : Json :=
  Json.obj [("field", .str c.field), ("def_method", .str c.defMethod), ("use_method", .str c.useMethod)]

/-- A stub as an entry of a batch. -/
def PutRecord.toBatchEntry (r : PutRecord) : Json :=
  Json.obj [("declaring_type", .str r.declaringType), ("body", .str r.body),
    ("target", r.pair.toCandidate.toJson)]

/-- The batch document of a list of stubs. -/
def batchJson (rs : List PutRecord) : Json := Json.obj [("puts", .array (rs.map PutRecord.toBatchEntry))]

/-- The text of the batch document of a list of stubs. -/
def encodeBatch (rs : List PutRecord) : String := (batchJson rs).pretty

end DefUseCoverage
