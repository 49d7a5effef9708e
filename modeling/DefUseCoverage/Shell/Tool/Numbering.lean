import DefUseCoverage.Shell.Tool.Options
import DefUseCoverage.Shell.RegexRead
/-!
# Numbering lines

`nl` writes its input with numbers before the lines. The input is cut into logical pages of
three sections: a line holding only the section delimiter (`\:` by default) three times
starts a header, twice a body, once a footer; such a line is written as an empty line and
starts the numbers again (unless `-p`). Input starts in a body.

Each section numbers its lines in its own style (`-h`, `-b`, `-f`): every line (`a`), the
lines that are not empty (`t`), none (`n`), or those a basic regular expression matches
(`pBRE`). With `-l N` under `a`, only every `N`th of a run of empty lines gets a number. A
number takes `-w` columns (six), right-aligned, left-aligned or with leading zeros (`-n`),
and `-s` (a tab) follows it; a line without a number gets as many blanks instead. Numbers
start at `-v` and go up by `-i`, across all the files.
-/

namespace DefUseCoverage.Shell

namespace Tool

/-- Which lines of a section get numbers. -/
inductive NlStyle where
  /-- Every line. -/
  | all
  /-- The lines that are not empty. -/
  | nonEmpty
  /-- No line. -/
  | none
  /-- The lines a regular expression matches. -/
  | matching (re : Regex)

/-- How a number is written in its columns. -/
inductive NlFormat where
  /-- Left-aligned. -/
  | left
  /-- Right-aligned. -/
  | right
  /-- Right-aligned with leading zeros. -/
  | zeros
deriving DecidableEq

/-- The choices of `nl`. -/
structure NlOptions where
  /-- The style of headers. -/
  header : NlStyle := .none
  /-- The style of bodies. -/
  body : NlStyle := .nonEmpty
  /-- The style of footers. -/
  footer : NlStyle := .none
  /-- The first number. -/
  start : Int := 1
  /-- The step between numbers. -/
  step : Int := 1
  /-- Whether each section starts the numbers again. -/
  renumber : Bool := true
  /-- How many empty lines in a row make one numbered line under `a`. -/
  joinBlank : Nat := 1
  /-- What follows a number. -/
  sep : String := "\t"
  /-- The columns of a number. -/
  width : Nat := 6
  /-- How a number is written. -/
  format : NlFormat := .right
  /-- The section delimiter. -/
  delim : List UInt8 := [92, 58]

/-- The options of `nl`. -/
def nlSpecs : List OptSpec :=
  let valued (c : Char) (n : String) : OptSpec := { name := n, letter := some c, longs := [n], takes := .required }
  [valued 'h' "header-numbering", valued 'b' "body-numbering", valued 'f' "footer-numbering",
   valued 'v' "starting-line-number", valued 'i' "line-increment", OptSpec.flag 'p' ["no-renumber"],
   valued 'l' "join-blank-lines", valued 's' "number-separator", valued 'w' "number-width",
   valued 'n' "number-format", valued 'd' "section-delimiter"] ++ standardOptions

/-- A numbering style from its text, by its first letter; `p` takes a basic regular
expression after it. `none` for a text that names no style; an error for a malformed
expression. -/
def nlStyle (text : String) : Except String (Option NlStyle) :=
  match text.toList with
  | 'a' :: _ => .ok (some .all)
  | 't' :: _ => .ok (some .nonEmpty)
  | 'n' :: _ => .ok (some .none)
  | 'p' :: re =>
    match Regex.parse RegexSyntax.exprBasic (String.ofList re) with
    | .ok r => .ok (some (.matching r))
    | .error e => .error e.message
  | _ => .ok none

/-- What reading the options gave: the options, the messages of refused options, styles and
formats (which end with the hint to run `--help`), or a message that stops `nl` at once. -/
structure NlReading where
  /-- The options read so far. -/
  opts : NlOptions := {}
  /-- The messages of refused styles and formats, in order. -/
  refused : List String := []
  /-- A message that stops `nl`. -/
  fatal : Option String := none

/-- One more option of `nl`. -/
def nlOption (r : NlReading) (o : String × Option String) : NlReading :=
  if r.fatal.isSome then r
  else
    let v := o.2.getD ""
    let number (what : String) (lo hi : Int) (set : Int → NlOptions) : NlReading :=
      match decimalArgument v lo hi with
      | .ok n => { r with opts := set n }
      | .error why => { r with fatal := some ("invalid " ++ what ++ ": " ++ quoteArg v ++ why) }
    let style (what : String) (set : NlStyle → NlOptions) : NlReading :=
      match nlStyle v with
      | .ok (some s) => { r with opts := set s }
      | .ok none => { r with refused := r.refused ++ ["invalid " ++ what ++ " numbering style: " ++ quoteArg v] }
      | .error msg => { r with fatal := some msg }
    let opts := r.opts
    match o.1 with
    | "header-numbering" => style "header" fun s => { opts with header := s }
    | "body-numbering" => style "body" fun s => { opts with body := s }
    | "footer-numbering" => style "footer" fun s => { opts with footer := s }
    | "starting-line-number" =>
      number "starting line number" (-9223372036854775808) 9223372036854775807 fun n => { opts with start := n }
    | "line-increment" =>
      number "line number increment" (-9223372036854775808) 9223372036854775807 fun n => { opts with step := n }
    | "no-renumber" => { r with opts := { opts with renumber := false } }
    | "join-blank-lines" =>
      number "line number of blank lines" 1 9223372036854775807 fun n => { opts with joinBlank := n.toNat }
    | "number-separator" => { r with opts := { opts with sep := v } }
    | "number-width" => number "line number field width" 1 2147483647 fun n => { opts with width := n.toNat }
    | "number-format" =>
      match v with
      | "ln" => { r with opts := { opts with format := .left } }
      | "rn" => { r with opts := { opts with format := .right } }
      | "rz" => { r with opts := { opts with format := .zeros } }
      | _ => { r with refused := r.refused ++ ["invalid line numbering format: " ++ quoteArg v] }
    | "section-delimiter" =>
      -- one character replaces the first of the delimiter; two or more are the delimiter
      let d := bytes v
      match d with
      | [c] => { r with opts := { opts with delim := c :: opts.delim.drop 1 } }
      | _ => { r with opts := { opts with delim := d } }
    | _ => r

/-- A number in its columns. -/
def nlNumber (fmt : NlFormat) (width : Nat) (n : Int) : String :=
  let digits := toString n.natAbs
  let sign := if n < 0 then "-" else ""
  let text := sign ++ digits
  let pad (k : Nat) (c : Char) : String := String.ofList (List.replicate (width - k) c)
  match fmt with
  | .left => text ++ pad text.length ' '
  | .right => pad text.length ' ' ++ text
  | .zeros => sign ++ pad text.length '0' ++ digits

/-- The kinds of lines of `nl`'s input. -/
inductive NlLine where
  /-- A line that starts a header. -/
  | header
  /-- A line that starts a body. -/
  | body
  /-- A line that starts a footer. -/
  | footer
  /-- A line of text. -/
  | text

/-- The kind of a line (without its newline): the delimiter three times, twice or once, for a
delimiter of two bytes or more whose first two the line begins with. -/
def nlKind (delim : List UInt8) (line : List UInt8) : NlLine :=
  if line.length < 2 || delim.length < 2 || line.take 2 != delim.take 2 then .text
  else if line == delim ++ delim ++ delim then .header
  else if line == delim ++ delim then .body
  else if line == delim then .footer
  else .text

/-- The state of `nl` between lines: the style of the section, the next number, whether a
number was too large to go on, and the empty lines seen in a row. -/
structure NlState where
  /-- The style of the current section. -/
  style : NlStyle
  /-- The next number. -/
  next : Int
  /-- Whether the next number passed the largest one. -/
  overflow : Bool := false
  /-- Empty lines in a row not yet numbered. -/
  blanks : Nat := 0
  /-- The writes so far, each to standard output (`true`) or to standard error. -/
  writes : List (Bool × List UInt8) := []
  /-- Whether `nl` stopped. -/
  stopped : Bool := false

/-- One line of `nl`'s input (without its newline). -/
def nlLine (cmd : String) (o : NlOptions) (st : NlState) (line : List UInt8) : NlState :=
  if st.stopped then st
  else
    let restart (style : NlStyle) : NlState :=
      let next := if o.renumber then o.start else st.next
      let overflow := if o.renumber then false else st.overflow
      { st with style, next, overflow, writes := st.writes ++ [(true, [10])] }
    match nlKind o.delim line with
    | .header => restart o.header
    | .body => restart o.body
    | .footer => restart o.footer
    | .text =>
      let blank := bytes (String.ofList (List.replicate (o.width + (bytes o.sep).length) ' '))
      let plain : NlState := { st with writes := st.writes ++ [(true, blank ++ line ++ [10])] }
      let numbered (st : NlState) : NlState :=
        if st.overflow then
          { st with writes := st.writes ++ [(false, errLine cmd "line number overflow")], stopped := true }
        else
          let after := st.next + o.step
          let shown := bytes (nlNumber o.format o.width st.next ++ o.sep) ++ line ++ [10]
          let overflow := after > 9223372036854775807 || after < -9223372036854775808
          { st with writes := st.writes ++ [(true, shown)], next := after, overflow }
      match st.style with
      | .all =>
        if o.joinBlank > 1 then
          if !line.isEmpty || st.blanks + 1 == o.joinBlank then numbered { st with blanks := 0 }
          else { plain with blanks := st.blanks + 1 }
        else numbered st
      | .nonEmpty => if line.isEmpty then plain else numbered st
      | .none => plain
      | .matching re =>
        if re.found { chars := (Utf8.decodeKeeping line).toArray } then numbered st else plain

/-- `nl [OPTION]... [FILE]...`. -/
def nl (cmd : String) (args : List String) (input : List UInt8) (ws : Workspace) : ToolRun :=
  let r := readOptionsOn nlSpecs args
  let reading := r.events.foldl (fun (rd : NlReading) e =>
    match e with
    | .ok o => nlOption rd o
    | .error e => if rd.fatal.isSome then rd else { rd with refused := rd.refused ++ [e.text] }) {}
  let refusals := reading.refused.flatMap (errLine cmd)
  match reading.fatal with
  | some msg => { ws := ws, err := refusals ++ errLine cmd msg, status := 1 }
  | none =>
    if !reading.refused.isEmpty then { ws := ws, err := refusals ++ bytes (tryHelp cmd), status := 1 }
    else
    let o := reading.opts
    let files := if r.operands.isEmpty then ["-"] else r.operands
    let (st, failed, _) := files.foldl (fun (acc : NlState × Bool × Bool) f =>
      let (st, failed, inputLeft) := acc
      let run (bs : List UInt8) : NlState :=
        (recordsWith 10 (bs.length + 1) bs).foldl (fun st l =>
          nlLine cmd o st (if l.getLast? == some 10 then l.dropLast else l)) st
      if st.stopped then (st, failed, inputLeft)
      else if f == "-" then (run (if inputLeft then input else []), failed, false)
      else match nodeAt ws f with
        | .ok (_, .file bs) => (run bs, failed, inputLeft)
        | .ok (_, .sink) => (st, failed, inputLeft)
        | .ok (_, .dir) =>
          ({ st with writes := st.writes ++ [(false, errLine cmd (quoteIfNeeded f ++ ": Is a directory"))] }, true, inputLeft)
        | .error e =>
          ({ st with writes := st.writes ++ [(false, errLine cmd (quoteIfNeeded f ++ ": " ++ IoError.text e))] },
            true, inputLeft)) ({ style := o.body, next := o.start }, false, true)
    ToolRun.ofWrites ws st.writes (if failed || st.stopped then 1 else 0) (files.contains "-")

end Tool

end DefUseCoverage.Shell
