/-!
# Path texts

Paths are kept as the text they were given in, because messages quote them that way.
`join` appends a relative path with one separator; `parent?` is the path without its last
component, with trailing separators and `.` components trimmed, or `none` when there is no
component to remove.
-/

namespace DefUseCoverage.PathText

/-- A path with another appended; an absolute second path replaces the first. -/
def join (a b : String) : String :=
  if b.startsWith "/" then b
  else if a.isEmpty then b
  else if a.endsWith "/" then a ++ b
  else a ++ "/" ++ b

/-- Drops trailing separators and trailing `.` components, keeping a leading root or `.`. -/
def trimEnd (cs : List Char) : Nat → List Char
  | 0 => cs
  | fuel + 1 =>
    match cs.reverse with
    | '/' :: rest => if rest.isEmpty then cs else trimEnd rest.reverse fuel
    | '.' :: '/' :: rest => trimEnd ('/' :: rest).reverse fuel
    | _ => cs

/-- The path without its last component. -/
def parent? (s : String) : Option String :=
  let cs := s.toList
  let t := trimEnd cs cs.length
  if t.isEmpty || t == ['/'] then none
  else
    let prefixPart := (t.reverse.dropWhile (· != '/')).reverse
    some (String.ofList (trimEnd prefixPart prefixPart.length))

/-- The last component of a path. -/
def fileName (s : String) : String :=
  let t := trimEnd s.toList s.length
  String.ofList (t.reverse.takeWhile (· != '/')).reverse

end DefUseCoverage.PathText
