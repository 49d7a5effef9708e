import DefUseCoverage.Shell.Pattern
import DefUseCoverage.Workspace.Basic
/-!
# Pathname expansion

A field with an unquoted `*`, `?` or bracket set is a pattern for path names. The pattern is
read one component (between slashes) at a time. Components without such characters are taken
as they are written; a component with them is matched against the names in the directory
reached so far. A name starting with `.` is a candidate only when the component itself starts
with `.` (and then `.` and `..` are candidates too). A pattern that continues after a component
descends into each matching directory; literal components after the last pattern component
must name something that exists (a trailing slash, a directory).

The path names found are sorted by their bytes; a pattern that matches nothing stands for
itself.
-/

namespace DefUseCoverage.Shell

/-- A character of a field, marked when quoting made it literal. -/
abbrev Marked := List (Char × Bool)

namespace Pathname

/-- The text of marked characters. -/
def text (cs : Marked) : String := String.ofList (cs.map (·.1))

/-- The components of a pattern between its slashes. -/
def components (cs : Marked) : List Marked :=
  let (last, done) := cs.foldl (fun (cur, done) (c, q) =>
    if c == '/' then ([], done ++ [cur.reverse]) else ((c, q) :: cur, done)) (([] : Marked), ([] : List Marked))
  done ++ [last.reverse]

/-- Whether a component matches more than itself: it has a star, a question mark or a bracket
set that closes, unquoted. -/
def isPattern (cs : Marked) : Bool :=
  (globOf cs).any fun
    | .lit _ => false
    | _ => true

/-- A directory's text without its trailing slash, as it is opened: the working directory for
the empty text and the root for `/`. -/
def dirText (s : String) : String :=
  if s.isEmpty then "."
  else if s == "/" then s
  else if s.endsWith "/" then String.ofList s.toList.dropLast
  else s

/-- The names a component can match in a directory: the directory's names, with `.` and `..`
when hidden names are candidates. -/
def candidates (w : Workspace) (dir : AbsPath) (hidden : Bool) : List String :=
  let names := w.children dir
  if hidden then "." :: ".." :: names else names.filter (!·.startsWith ".")

/-- The paths a pattern's components match after the text `done` (empty, or ending in a
slash). The fuel bounds the components. -/
def walk (w : Workspace) : Nat → String → List Marked → List String
  | 0, _, _ => []
  | k + 1, done, comps =>
    let plain := comps.takeWhile (!isPattern ·)
    let lead := done ++ String.join (plain.map fun c => text c ++ "/")
    match comps.drop plain.length with
    | [] =>
      let full := done ++ "/".intercalate (plain.map text)
      match w.follow full >>= fun p => w.lookup p with
      | .ok (some _) => [full]
      | _ => []
    | pat :: more =>
      match w.resolve (dirText lead) with
      | .ok dir =>
        if w.isDirPath dir |>.toOption |>.isNone then []
        else
          let items := globOf (bytePattern pat)
          let hidden := (pat.head?.map (·.1)) == some '.' ||
            (pat.take 2).map (·.1) == ['\\', '.']
          let found := (candidates w dir hidden).filter fun nm => globMatch items (byteChars nm)
          if more.isEmpty then found.map (lead ++ ·)
          else found.flatMap fun nm => walk w k (lead ++ nm ++ "/") more
      | .error _ => []

/-- The fields a field stands for: the sorted path names its pattern matches, or the field's
own text when it is no pattern or matches nothing. -/
def expand (w : Workspace) (field : Marked) : List String :=
  let comps := components field
  if !comps.any isPattern then [text field]
  else
    match walk w (comps.length + 1) "" comps with
    | [] => [text field]
    | found => found.mergeSort (fun a b => decide (a ≤ b))

end Pathname

end DefUseCoverage.Shell
