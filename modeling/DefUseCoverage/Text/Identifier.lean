/-!
# Identifiers

Names of types, fields and methods are qualified (`Shop.Cart.total`, `a::b::c`). Generated
test stubs need a plain identifier made from them, and a short name for each member.

* `sanitize` maps every character that is not an ASCII letter or digit to `_`, and puts a
  `_` in front when the result would be empty or start with a digit.
* `shortName` is the last non-empty segment between `.` and `:` separators, or the whole
  name when there is none.
-/

namespace DefUseCoverage.Identifier

/-- A character kept as it is by `sanitize`: an ASCII letter or digit. -/
def keeps (c : Char) : Bool := c.isAlphanum

/-- The character `sanitize` writes for `c`. -/
def cleanChar (c : Char) : Char := if keeps c then c else '_'

/-- Identifier-safe text: one character per character of the input, each an ASCII letter,
digit or `_`, with a leading `_` when the text is empty or starts with a digit. -/
def sanitize (s : String) : String :=
  let body := s.toList.map cleanChar
  match body with
  | [] => "_"
  | c :: _ => if c.isDigit then String.ofList ('_' :: body) else String.ofList body

/-- A separator of qualified names. -/
def isSeparator (c : Char) : Bool := c == '.' || c == ':'

/-- The segments of a character list between separators, empty ones included: the first
segment is the current one, extended by the characters before the next separator. -/
def splitSegments : List Char → List (List Char)
  | [] => [[]]
  | c :: rest =>
    match splitSegments rest with
    | [] => [[c]]
    | seg :: segs => if isSeparator c then [] :: seg :: segs else (c :: seg) :: segs

/-- The segments of a qualified name between separators, empty ones included. -/
def segments (s : String) : List String :=
  (splitSegments s.toList).map String.ofList

/-- The last non-empty segment of a qualified name, or the name itself if it has none. -/
def shortName (s : String) : String :=
  match ((segments s).filter (fun seg => !seg.isEmpty)).getLast? with
  | some seg => seg
  | none => s

end DefUseCoverage.Identifier
