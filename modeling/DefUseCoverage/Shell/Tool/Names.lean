import DefUseCoverage.Shell.Tool.Options
/-!
# The parts of a file name

`basename` prints the last component of a file name and `dirname` what comes before it; both
only read the text of the name, never the file tree.

The last component starts after the last run of slashes that something other than a slash
follows; leading slashes belong to no component. A name that has none (a run of slashes, or
the empty name) is its own last component, cut to one slash. The name before the last
component keeps no trailing slashes but keeps a leading one, and is `.` when empty.
-/

namespace DefUseCoverage.Shell

namespace Tool

/-- Where the last component of a name starts. -/
def lastComponentAt (cs : List Char) : Nat :=
  let lead := (cs.takeWhile (· == '/')).length
  let (start, _, _) := (cs.drop lead).foldl (fun (acc : Nat × Nat × Bool) c =>
    let (start, i, afterSlash) := acc
    if c == '/' then (start, i + 1, true)
    else if afterSlash then (i, i + 1, false)
    else (start, i + 1, false)) (lead, lead, false)
  start

/-- A name without its trailing slashes, leaving one if it is all slashes. -/
def trimSlashes (cs : List Char) : List Char :=
  let kept := (cs.reverse.dropWhile (· == '/')).reverse
  if kept.isEmpty && !cs.isEmpty then ['/'] else kept

/-- The last component of a name, without trailing slashes; `/` for a run of slashes. -/
def lastComponent (s : String) : String :=
  let cs := s.toList
  let base := cs.drop (lastComponentAt cs)
  if base.isEmpty then String.ofList (trimSlashes cs) else String.ofList (trimSlashes base)

/-- A name cut short by a suffix, when it is longer than the suffix and ends with it. -/
def dropSuffix (name suffix : String) : String :=
  let n := name.toList
  let x := suffix.toList
  if x.length < n.length && x.isSuffixOf n then String.ofList (n.take (n.length - x.length)) else name

/-- What `basename` prints for a name: its last component, cut short by the suffix unless the
component is the root. -/
def baseOf (name : String) (suffix : Option String) : String :=
  let b := lastComponent name
  match suffix with
  | some x => if b.startsWith "/" then b else dropSuffix b x
  | none => b

/-- What `dirname` prints for a name: the text before its last component without the slashes
that end it, a leading slash kept; `.` when that is empty. -/
def dirOf (name : String) : String :=
  let cs := name.toList
  let keep := if cs.head? == some '/' then 1 else 0
  let before := cs.take (lastComponentAt cs)
  let trimmed := (before.reverse.dropWhile (· == '/')).reverse
  let d := if trimmed.length < keep then before.take keep else trimmed
  if d.isEmpty then "." else String.ofList d

/-- The options of `basename`. -/
def basenameOptions : List OptSpec :=
  [.flag 'a' ["multiple"], { name := "suffix", letter := some 's', longs := ["suffix"], takes := .required },
   .flag 'z' ["zero"]] ++ standardOptions

/-- `basename NAME [SUFFIX]`, or `basename -a|-s SUFFIX NAME...`: the last component of each
name, each on its line (or ended by a zero byte with `-z`). -/
def basename (cmd : String) (args : List String) (ws : Workspace) : ToolRun :=
  match readOptions basenameOptions true args with
  | { error := some e, .. } => usageError cmd e.text ws
  | { given := os, operands := names, .. } =>
    let ending := if os.has "zero" then "\x00" else "\n"
    let suffix := os.last "suffix"
    if names.isEmpty then usageError cmd "missing operand" ws
    else if os.has "multiple" || os.has "suffix" then
      { ws := ws, out := bytes (String.join (names.map fun n => baseOf n suffix ++ ending)) }
    else
      match names with
      | [n] => { ws := ws, out := bytes (baseOf n none ++ ending) }
      | [n, x] => { ws := ws, out := bytes (baseOf n (some x) ++ ending) }
      | _ => usageError cmd ("extra operand " ++ quoteArg (names.getD 2 "")) ws

/-- `dirname NAME...`: what comes before the last component of each name, each on its line
(or ended by a zero byte with `-z`). -/
def dirname (cmd : String) (args : List String) (ws : Workspace) : ToolRun :=
  match readOptions ([.flag 'z' ["zero"]] ++ standardOptions) false args with
  | { error := some e, .. } => usageError cmd e.text ws
  | { given := os, operands := names, .. } =>
    let ending := if os.has "zero" then "\x00" else "\n"
    if names.isEmpty then usageError cmd "missing operand" ws
    else { ws := ws, out := bytes (String.join (names.map fun n => dirOf n ++ ending)) }

end Tool

end DefUseCoverage.Shell
