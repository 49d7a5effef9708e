import DefUseCoverage.Pair
import DefUseCoverage.Metadata.Basic
/-!
# Coverage reports

What an engine sends back: the candidates it saw exercised (`covered`) and the fields and
methods it observed (`observed`). How a report is read from an engine's output is in
`Engine.ReportReader`.
-/

namespace DefUseCoverage

/-- A coverage report. -/
structure Report where
  /-- Candidates seen exercised. -/
  covered : List Candidate := []
  /-- Fields and methods seen at run time. -/
  observed : List Metadata.Observed := []
deriving Repr, Inhabited

end DefUseCoverage
