import DefUseCoverage.Shell.Tool.Options
/-!
# Folding repeated lines

`uniq` reads one input (a file or standard input) and writes, by default, one line of each
run of adjacent lines that compare equal, to standard output or to a second file. Lines
compare by a part of them: after `-f N` fields (blanks, then other bytes) and `-s N` more
bytes, at most `-w N` bytes, with `-i` ignoring the case of ASCII letters.

Which lines are written is decided line by line as the tool goes: a line that no other
repeats (unless `-d`), the first line of a run (unless `-u`), and with `-D` the later lines
of a run too, each with its count before it under `-c`. `-D` may mark the runs it writes
(`prepend`, `separate`), and `--group` writes every line with an empty line between runs
(or before, after, or around each).

Its options are read in order with its operands: `+N` skips `N` bytes, and digits in an
option (`-2`) skip fields, both as older forms of `-s` and `-f`.
-/

namespace DefUseCoverage.Shell

namespace Tool

/-- How `uniq -D` marks the runs it writes. -/
inductive RunMarks where
  /-- No marks. -/
  | none
  /-- An empty line before each run. -/
  | prepend
  /-- An empty line between runs. -/
  | separate
deriving DecidableEq, Repr

/-- How `uniq --group` marks runs. -/
inductive GroupMarks where
  /-- Not grouping. -/
  | none
  /-- An empty line before each run. -/
  | prepend
  /-- An empty line after each run. -/
  | append
  /-- An empty line between runs. -/
  | separate
  /-- An empty line before each run and one after the last. -/
  | both
deriving DecidableEq, Repr

/-- The choices of `uniq`. -/
structure UniqOptions where
  /-- `-c`: counts before the lines. -/
  count : Bool := false
  /-- Whether lines that no other repeats are written (not under `-d`, `-D`). -/
  showUnique : Bool := true
  /-- Whether the first line of a run is written (not under `-u`). -/
  showFirst : Bool := true
  /-- Whether the later lines of a run are written (`-D`). -/
  showLater : Bool := false
  /-- Whether one of `-c`, `-d`, `-D`, `-u` was given. -/
  chosen : Bool := false
  /-- How `-D` marks runs. -/
  marks : RunMarks := .none
  /-- How `--group` marks runs. -/
  grouping : GroupMarks := .none
  /-- `-i`: ASCII letters compare without case. -/
  ignoreCase : Bool := false
  /-- `-f`: fields skipped. -/
  skipFields : Nat := 0
  /-- `-s`: bytes skipped. -/
  skipChars : Nat := 0
  /-- `-w`: bytes compared at most. -/
  width : Nat := widestUnsigned
  /-- The byte that ends lines: newline, or NUL with `-z`. -/
  ending : UInt8 := 10

/-- What reading the arguments of `uniq` gave so far. -/
structure UniqReading where
  /-- The options read. -/
  opts : UniqOptions := {}
  /-- The input and output files named. -/
  files : List String := []
  /-- Whether the last option read was an older digit form of `-f`. -/
  digits : Bool := false
  /-- The refusal that stops `uniq`, with whether the hint to run `--help` follows. -/
  refusal : Option (String × Bool) := none

/-- The options of `uniq`. -/
def uniqSpecs : List OptSpec :=
  [OptSpec.flag 'c' ["count"], OptSpec.flag 'd' ["repeated"],
   { name := "all-repeated", letter := some 'D', longs := ["all-repeated"], takes := .optional },
   { name := "group", longs := ["group"], takes := .optional },
   OptSpec.flag 'i' ["ignore-case"], OptSpec.flag 'u' ["unique"],
   { name := "skip-fields", letter := some 'f', longs := ["skip-fields"], takes := .required },
   { name := "skip-chars", letter := some 's', longs := ["skip-chars"], takes := .required },
   { name := "check-chars", letter := some 'w', longs := ["check-chars"], takes := .required },
   OptSpec.flag 'z' ["zero-terminated"]] ++ digitSpecs ++ standardOptions

/-- A count of `uniq` (one too large for the widest type is taken as the largest), or the
refusal naming the value. -/
def uniqCount (v what : String) : Except (String × Bool) Nat :=
  match sizeArgument v [] with
  | .ok n => .ok n
  | .error why => if why.isEmpty then .error (v ++ ": invalid " ++ what, false) else .ok widestUnsigned

/-- One more option of `uniq`, in the order given. -/
def uniqOption (r : UniqReading) (g : String × Option String) : UniqReading :=
  if r.refusal.isSome then r
  else
    let o := r.opts
    let set (o : UniqOptions) : UniqReading := { r with opts := o, digits := false }
    let counted (what : String) (put : Nat → UniqOptions) : UniqReading :=
      match uniqCount (g.2.getD "") what with
      | .ok n => set (put n)
      | .error e => { r with refusal := some e }
    match g.1 with
    | "count" => set { o with count := true, chosen := true }
    | "repeated" => set { o with showUnique := false, chosen := true }
    | "unique" => set { o with showFirst := false, chosen := true }
    | "all-repeated" =>
      let o := { o with showUnique := false, showLater := true, chosen := true }
      match g.2 with
      | none => set { o with marks := .none }
      | some v =>
        match pickChoice v "all-repeated" [["none"], ["prepend"], ["separate"]] with
        | .ok ["prepend"] => set { o with marks := .prepend }
        | .ok ["separate"] => set { o with marks := .separate }
        | .ok _ => set { o with marks := .none }
        | .error msg => { r with refusal := some (msg, true) }
    | "group" =>
      match g.2 with
      | none => set { o with grouping := .separate }
      | some v =>
        match pickChoice v "group" [["prepend"], ["append"], ["separate"], ["both"]] with
        | .ok ["prepend"] => set { o with grouping := .prepend }
        | .ok ["append"] => set { o with grouping := .append }
        | .ok ["both"] => set { o with grouping := .both }
        | .ok _ => set { o with grouping := .separate }
        | .error msg => { r with refusal := some (msg, true) }
    | "ignore-case" => set { o with ignoreCase := true }
    | "skip-fields" => counted "number of fields to skip" fun n => { o with skipFields := n }
    | "skip-chars" => counted "number of bytes to skip" fun n => { o with skipChars := n }
    | "check-chars" => counted "number of bytes to compare" fun n => { o with width := n }
    | "zero-terminated" => set { o with ending := 0 }
    | name =>
      match name.toList with
      | [d] =>
        if d.isDigit then
          -- digits given one after another make one number of fields
          let before := if r.digits then o.skipFields else 0
          let n := min widestUnsigned (before * 10 + (d.toNat - 48))
          { r with opts := { o with skipFields := n }, digits := true }
        else r
      | _ => r

/-- One more operand of `uniq`: `+N` skips bytes, anything else names a file; a third file
is refused. After `--` every operand names a file. -/
def uniqOperand (plain : Bool) (r : UniqReading) (a : String) : UniqReading :=
  if r.refusal.isSome then r
  else
    let skip : Option Nat :=
      if plain || !a.startsWith "+" then none
      else match sizeArgument a [] with
        | .ok n => some n
        | .error _ => none
    match skip with
    | some n => { r with opts := { r.opts with skipChars := n } }
    | none =>
      if r.files.length ≥ 2 then { r with refusal := some ("extra operand " ++ quoteArg a, true) }
      else { r with files := r.files ++ [a] }

/-- Reads the arguments of `uniq`, options and operands in the order given. The fuel bounds
the arguments. -/
def uniqArguments : Nat → List String → UniqReading → UniqReading
  | 0, _, r => r
  | k + 1, args, r =>
    let got := readOptions uniqSpecs true args
    let r := got.given.foldl uniqOption r
    if r.refusal.isSome then r
    else match got.error with
      | some e => { r with refusal := some (e.text, true) }
      | none =>
        if got.ended then got.operands.foldl (uniqOperand true) r
        else match got.operands with
          | [] => r
          | a :: rest => uniqArguments k rest (uniqOperand false r a)

/-- The part of a line (without its end) that `uniq` compares. -/
def uniqKey (o : UniqOptions) (line : List UInt8) : List UInt8 :=
  let sep (b : UInt8) : Bool := b == 32 || b == 9 || b == 10
  let skipFields : Nat → List UInt8 → List UInt8 := fun n bs =>
    (List.range n).foldl (fun bs _ => (bs.dropWhile sep).dropWhile (!sep ·)) bs
  let part := ((skipFields o.skipFields line).drop o.skipChars).take o.width
  if o.ignoreCase then part.map fun b => if 97 ≤ b && b ≤ 122 then b - 32 else b else part

/-- Whether two lines fall in one run. -/
def UniqOptions.same (o : UniqOptions) (a b : List UInt8) : Bool := uniqKey o a == uniqKey o b

/-- A line as `uniq` writes it, with its count (of lines before it in its run) under `-c`,
if the choices write it: a line no other repeats, the first or a later line of a run. -/
def UniqOptions.line (o : UniqOptions) (line : List UInt8) (later : Bool) (repeats : Nat) : List UInt8 :=
  let shown := if repeats == 0 then o.showUnique else if !later then o.showFirst else o.showLater
  if !shown then []
  else
    let lead := if o.count then
        let t := toString (repeats + 1)
        bytes (String.ofList (List.replicate (7 - t.length) ' ') ++ t ++ " ")
      else []
    lead ++ line ++ [o.ending]

/-- The output of `uniq` when it writes every run's first line (the default and `--group`):
each line that starts a run, or under `--group` every line with the marks between runs. -/
def uniqFirsts (o : UniqOptions) (lines : List (List UInt8)) : List UInt8 :=
  let g := o.grouping
  let (out, _) := lines.foldl (fun (acc : List UInt8 × Option (List UInt8)) l =>
    let (out, prev) := acc
    let fresh := match prev with
      | some p => !o.same p l
      | none => true
    let mark := fresh && g != .none &&
      (g == .prepend || g == .both || (prev.isSome && (g == .append || g == .separate)))
    let out := if mark then out ++ [o.ending] else out
    if fresh || g != .none then (out ++ l ++ [o.ending], some l) else (out, prev)) ([], none)
  if (g == .both || g == .append) && !lines.isEmpty then out ++ [o.ending] else out

/-- Where `uniq` stands in its input under the other choices: the output so far, the line
held back, how many lines repeated it, and whether a run of repeats was written yet. -/
structure UniqWalk where
  /-- The output so far. -/
  out : List UInt8 := []
  /-- The line held back. -/
  held : List UInt8
  /-- The lines after it in its run so far. -/
  repeats : Nat := 0
  /-- Whether a run with repeats has ended yet (for `-D separate`). -/
  runDone : Bool := false

/-- One more line of `uniq` under the choices that count runs. -/
def uniqStep (o : UniqOptions) (w : UniqWalk) (l : List UInt8) : UniqWalk :=
  let same := o.same w.held l
  let repeats := if same then w.repeats + 1 else w.repeats
  let (out, runDone) :=
    if o.marks == .none then (w.out, w.runDone)
    else if !same then (w.out, w.runDone || repeats > 0)
    else if repeats == 1 && (o.marks == .prepend || (o.marks == .separate && w.runDone)) then
      (w.out ++ [o.ending], w.runDone)
    else (w.out, w.runDone)
  if !same || o.showLater then
    { out := out ++ o.line w.held same repeats, held := l, repeats := if same then repeats else 0, runDone }
  else { w with out, repeats, runDone }

/-- What `uniq` writes of its input. -/
def uniqText (o : UniqOptions) (bs : List UInt8) : List UInt8 :=
  let lines := (recordsWith o.ending (bs.length + 1) bs).map fun l =>
    if l.getLast? == some o.ending then l.dropLast else l
  if o.showUnique && o.showFirst && !o.count then uniqFirsts o lines
  else match lines with
    | [] => []
    | first :: more =>
      let w := more.foldl (uniqStep o) { held := first }
      w.out ++ o.line w.held false w.repeats

/-- `uniq [OPTION]... [INPUT [OUTPUT]]`. -/
def uniq (cmd : String) (args : List String) (input : List UInt8) (ws : Workspace) : ToolRun :=
  let r := uniqArguments (args.length + 1) args {}
  let o := r.opts
  let refusal : Option (String × Bool) :=
    match r.refusal with
    | some e => some e
    | none =>
      if o.grouping != .none && o.chosen then some ("--group is mutually exclusive with -c/-d/-D/-u", true)
      else if o.count && o.showLater then
        some ("printing all duplicated lines and repeat counts is meaningless", true)
      else none
  match refusal with
  | some (msg, hint) =>
    { ws := ws, err := errLine cmd msg ++ (if hint then bytes (tryHelp cmd) else []), status := 1 }
  | none =>
    let source := r.files.headD "-"
    let dest := r.files.getD 1 "-"
    let fail (msg : String) : ToolRun := { ws := ws, err := errLine cmd msg, status := 1 }
    let got : Except String (Option (List UInt8)) :=
      if source == "-" then .ok (some input)
      else match nodeAt ws source with
        | .ok (_, .file bs) => .ok (some bs)
        | .ok (_, .sink) => .ok (some [])
        | .ok (_, .dir) => .ok none
        | .error e => .error (quoteIfNeeded source ++ ": " ++ IoError.text e)
    match got with
    | .error msg => fail msg
    | .ok text =>
      let out := (text.map (uniqText o)).getD []
      -- the output is opened before reading; a directory read fails after
      let written : Except String Workspace :=
        if dest == "-" then .ok ws
        else match ws.target dest >>= fun p => ws.write p (if dest == "-" then [] else out) with
          | .ok w => .ok w
          | .error e => .error (quoteIfNeeded dest ++ ": " ++ IoError.text e)
      match written with
      | .error msg => { fail msg with readsInput := source == "-" }
      | .ok w =>
        let run : ToolRun := { ws := w, out := if dest == "-" then out else [], readsInput := source == "-" }
        match text with
        | some _ => run
        | none => { run with out := [], err := errLine cmd ("error reading " ++ quote source ++ ": Is a directory"), status := 1 }

end Tool

end DefUseCoverage.Shell
