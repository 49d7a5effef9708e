import DefUseCoverage.Shell.Tool.Basic
import DefUseCoverage.Shell.RegexRead
import DefUseCoverage.Shell.PerlRegex
/-!
# Line search

`grep [OPTION]... PATTERNS [FILE]...` selects the lines of its files (standard input for none
or `-`) that match one of its patterns (the lines of `PATTERNS`, or of each `-e` value), basic
regular expressions unless `-E` (extended) or `-F` (fixed strings) says otherwise. Options may
come before or after the operands, bunched or apart.

* `-i` ignores case, `-v` selects the lines that do not match, `-w` wants whole words and `-x`
  whole lines;
* `-c` counts the selected lines, `-l` (`-L`) names the files with (without) one, `-q` writes
  nothing, `-o` writes each match on its own line, `-n` puts the line number before a line,
  `-H` (`-h`) the file name (by default when there are several files), `-m N` stops after `N`
  selected lines, and `-A`, `-B`, `-C` add lines of context, groups apart marked by `--`;
* `-s` keeps quiet about files that cannot be read;
* `-r` searches the files under directories (the working directory when no file is named),
  `-b` puts the byte offset before a line, `-z` reads and writes lines ended by a zero byte,
  `-f FILE` takes patterns from the lines of a file, and `-P` reads Perl patterns.

Only one of `-E`, `-F`, `-G` and `-P` may be given. A file that holds a zero byte is binary:
its lines are not written, and when one is selected a message says so instead (`-a` reads it
as text, `-I` passes it over); a line that is not valid UTF-8 is not written either, and earns
the same message at the end of its file. Lines are selected by `grep`'s automaton and the
matches `-o` writes are found by the library's reading of the patterns (see `RegexRead`); a pattern with a
back-reference or a word boundary is beyond the automaton, and the library's reading selects
its lines too.

The status is 0 when a line was selected, 1 when none was, and 2 after an error (unless `-q`
found a line). A malformed pattern or option is reported with status 2; `-m 0`, or a single
empty pattern with `-v`, selects nothing without reading anything.
-/

namespace DefUseCoverage.Shell

namespace Tool

/-- How patterns are read. -/
inductive GrepDialect where
  | basic | extended | fixed | perl
deriving DecidableEq, Repr

/-- How files with a zero byte are read. -/
inductive BinaryFiles where
  /-- Lines are not written; a message says when one is selected. -/
  | binary
  /-- Like any other file. -/
  | text
  /-- The file is passed over. -/
  | withoutMatch
deriving DecidableEq, Repr

/-- The options of `grep`. -/
structure GrepOptions where
  /-- Patterns given with `-e`. -/
  patterns : List String := []
  /-- Whether a pattern was given with `-e`. -/
  given : Bool := false
  /-- How patterns are read. -/
  dialect : GrepDialect := .basic
  /-- Whether `-E`, `-F`, `-G` or `-P` was given. -/
  chosen : Bool := false
  /-- `-i`. -/
  ignoreCase : Bool := false
  /-- `-v`. -/
  invert : Bool := false
  /-- `-w`. -/
  words : Bool := false
  /-- `-x`. -/
  wholeLine : Bool := false
  /-- `-c`. -/
  count : Bool := false
  /-- `-l`. -/
  filesWith : Bool := false
  /-- `-L`. -/
  filesWithout : Bool := false
  /-- `-n`. -/
  lineNumbers : Bool := false
  /-- `-o`. -/
  onlyMatching : Bool := false
  /-- `-q`. -/
  quiet : Bool := false
  /-- `-s`. -/
  noMessages : Bool := false
  /-- `-H` (`some true`) or `-h` (`some false`). -/
  names : Option Bool := none
  /-- `-m`; a negative count is no limit. -/
  maxCount : Option Nat := none
  /-- Lines of context after a selected line. -/
  after : Nat := 0
  /-- Lines of context before a selected line. -/
  before : Nat := 0
  /-- `-r`: directories are searched through. -/
  recursive : Bool := false
  /-- `-b`: byte offsets before lines. -/
  byteOffset : Bool := false
  /-- `-z`: lines end with a zero byte. -/
  nullData : Bool := false
  /-- Files of patterns given with `-f`. -/
  patternFiles : List String := []
  /-- How files with a zero byte are read. -/
  binary : BinaryFiles := .binary
  /-- The name standard input is shown by. -/
  label : String := "(standard input)"

/-- Why the options of `grep` are refused. -/
inductive GrepUsage where
  /-- An unknown option letter. -/
  | unknown (c : Char)
  /-- An unknown long option. -/
  | unknownLong (s : String)
  /-- An option without its value. -/
  | missing (c : Char)
  /-- A long option without its value. -/
  | missingLong (s : String)
  /-- Two ways of reading patterns. -/
  | conflict
  /-- A bad `-m` value. -/
  | badMax
  /-- A bad context length. -/
  | badContext (v : String)
  /-- A bad `--binary-files` value. -/
  | badBinary

/-- An integer as `grep` reads a count: blanks, a sign and digits, nothing after. -/
def grepInteger (v : String) : Option Int :=
  let cs := v.toList.dropWhile fun c => c == ' ' || c == '\t' || c == '\n' || c == '\r' || c == '\x0b' || c == '\x0c'
  let (sign, ds) : Int × List Char := match cs with
    | '-' :: r => (-1, r)
    | '+' :: r => (1, r)
    | r => (1, r)
  if !ds.isEmpty && ds.all Char.isDigit then some (sign * (ds.foldl (fun a c => a * 10 + (c.toNat - 48)) 0 : Nat))
  else none

/-- A context length: a non-negative integer. -/
def contextLength (v : String) : Except GrepUsage Nat :=
  match grepInteger v with
  | some n => if n < 0 then .error (.badContext v) else .ok n.toNat
  | none => .error (.badContext v)

/-- The options with one that takes a value applied. -/
def GrepOptions.withValue (o : GrepOptions) (c : Char) (v : String) : Except GrepUsage GrepOptions :=
  match c with
  | 'e' => .ok { o with patterns := o.patterns ++ [v], given := true }
  | 'f' => .ok { o with patternFiles := o.patternFiles ++ [v], given := true }
  | 'm' => match grepInteger v with
    | some n => .ok { o with maxCount := if n < 0 then none else some n.toNat }
    | none => .error .badMax
  | 'A' => (contextLength v).map fun n => { o with after := n }
  | 'B' => (contextLength v).map fun n => { o with before := n }
  | 'C' => (contextLength v).map fun n => { o with after := n, before := n }
  | 'b' =>
    if v == "binary" then .ok { o with binary := .binary }
    else if v == "text" then .ok { o with binary := .text }
    else if v == "without-match" then .ok { o with binary := .withoutMatch }
    else .error .badBinary
  | _ => .ok { o with label := v }

/-- The options with a way of reading patterns chosen; another way chosen before is a conflict. -/
def GrepOptions.choose (o : GrepOptions) (d : GrepDialect) : Except GrepUsage GrepOptions :=
  if o.chosen && o.dialect != d then .error .conflict else .ok { o with dialect := d, chosen := true }

/-- The options with a flag applied, or `none` for an unknown letter. -/
def GrepOptions.withFlag (o : GrepOptions) (c : Char) : Option (Except GrepUsage GrepOptions) :=
  let set (o : GrepOptions) : Option (Except GrepUsage GrepOptions) := some (.ok o)
  match c with
  | 'E' => some (o.choose .extended)
  | 'F' => some (o.choose .fixed)
  | 'G' => some (o.choose .basic)
  | 'P' => some (o.choose .perl)
  | 'i' | 'y' => set { o with ignoreCase := true }
  | 'v' => set { o with invert := true }
  | 'w' => set { o with words := true }
  | 'x' => set { o with wholeLine := true }
  | 'c' => set { o with count := true }
  | 'l' => set { o with filesWith := true }
  | 'L' => set { o with filesWithout := true }
  | 'n' => set { o with lineNumbers := true }
  | 'o' => set { o with onlyMatching := true }
  | 'q' => set { o with quiet := true }
  | 's' => set { o with noMessages := true }
  | 'H' => set { o with names := some true }
  | 'h' => set { o with names := some false }
  | 'r' | 'R' => set { o with recursive := true }
  | 'b' => set { o with byteOffset := true }
  | 'z' => set { o with nullData := true }
  | 'a' => set { o with binary := .text }
  | 'I' => set { o with binary := .withoutMatch }
  | 'U' => set o
  | _ => none

/-- The letters that take a value. -/
def grepValueLetters : List Char := ['e', 'f', 'm', 'A', 'B', 'C']

/-- A bunch of letters after `-`: the options and the arguments left after the value the last
letter may take. -/
def grepLetters : List Char → List String → GrepOptions → Except GrepUsage (GrepOptions × List String)
  | [], rest, o => .ok (o, rest)
  | c :: cs, rest, o =>
    if grepValueLetters.contains c then
      if !cs.isEmpty then (o.withValue c (String.ofList cs)).map (·, rest)
      else match rest with
        | v :: r => (o.withValue c v).map (·, r)
        | [] => .error (.missing c)
    else if c.isDigit then
      let ds := cs.takeWhile Char.isDigit
      let n := (c :: ds).foldl (fun a d => a * 10 + (d.toNat - 48)) 0
      grepLetters (cs.drop ds.length) rest { o with after := n, before := n }
    else
      match o.withFlag c with
      | some (.ok o) => grepLetters cs rest o
      | some (.error e) => .error e
      | none => .error (.unknown c)
termination_by cs => cs.length

/-- The long options of `grep`: the letter each stands for (`b` for `--binary-files`, `l` with
a value for `--label`, a blank for one that changes nothing here). -/
def grepLongNames : List (String × Char × Bool) :=
  [("extended-regexp", 'E', false), ("fixed-strings", 'F', false), ("basic-regexp", 'G', false),
   ("perl-regexp", 'P', false), ("ignore-case", 'i', false), ("invert-match", 'v', false),
   ("word-regexp", 'w', false), ("line-regexp", 'x', false), ("count", 'c', false),
   ("files-with-matches", 'l', false), ("files-without-match", 'L', false),
   ("line-number", 'n', false), ("only-matching", 'o', false), ("quiet", 'q', false),
   ("silent", 'q', false), ("no-messages", 's', false), ("with-filename", 'H', false),
   ("no-filename", 'h', false), ("regexp", 'e', true), ("max-count", 'm', true),
   ("after-context", 'A', true), ("before-context", 'B', true), ("context", 'C', true),
   ("recursive", 'r', false), ("dereference-recursive", 'R', false), ("byte-offset", 'b', false),
   ("null-data", 'z', false), ("text", 'a', false), ("file", 'f', true), ("binary", 'U', false),
   ("binary-files", 'b', true), ("label", 'l', true), ("line-buffered", ' ', false),
   ("no-ignore-case", ' ', false)]

/-- A long option, by any unambiguous prefix of its name, with its value after `=` or as the next
argument. -/
def grepLong (a : String) (rest : List String) (o : GrepOptions) : Except GrepUsage (GrepOptions × List String) :=
  let body := String.ofList (a.toList.drop 2)
  let (name, value) := match body.splitOn "=" with
    | n :: v :: vs => (n, some ("=".intercalate (v :: vs)))
    | _ => (body, none)
  let colors := ["color", "colour"].any fun full => !name.isEmpty && full.startsWith name
  if colors then .ok (o, rest) else
  let exact := grepLongNames.filter (·.1 == name)
  let found := if exact.isEmpty then grepLongNames.filter (fun (full, _) => !name.isEmpty && full.startsWith name) else exact
  match found with
  | [(full, c, takes)] =>
    if takes then
      match value, rest with
      | some v, r => (o.withValue c v).map (·, r)
      | none, v :: r => (o.withValue c v).map (·, r)
      | none, [] => .error (.missingLong full)
    else if value.isSome then .error (.unknownLong a)
    else if full == "no-ignore-case" then .ok ({ o with ignoreCase := false }, rest)
    else if c == ' ' then .ok (o, rest)
    else match o.withFlag c with
      | some (.ok o) => .ok (o, rest)
      | some (.error e) => .error e
      | none => .error (.unknownLong a)
  | _ => .error (.unknownLong a)

/-- Reads the options of `grep` wherever they stand: the options and the operands. The fuel
bounds the arguments. -/
def grepOptions : Nat → List String → GrepOptions → List String → Except GrepUsage (GrepOptions × List String)
  | 0, args, o, acc => .ok (o, acc ++ args)
  | _, [], o, acc => .ok (o, acc)
  | k + 1, a :: rest, o, acc =>
    if a == "--" then .ok (o, acc ++ rest)
    else
      match a.toList with
      | '-' :: '-' :: _ =>
        match grepLong a rest o with
        | .ok (o, rest) => grepOptions k rest o acc
        | .error e => .error e
      | '-' :: c :: cs =>
        match grepLetters (c :: cs) rest o with
        | .ok (o, rest) => grepOptions k rest o acc
        | .error e => .error e
      | _ => grepOptions k rest o (acc ++ [a])

/-- How `grep` matches: the expression that selects lines, the one that finds the matches `-o`
writes, and whether a match is the first way rather than the longest (for `-P`). -/
structure GrepMatcher where
  /-- Selects lines. -/
  select : Regex
  /-- Finds the matches within a selected line. -/
  locate : Regex
  /-- Whether the first way wins. -/
  firstWins : Bool

/-- An expression as `-x` or `-w` wants it. -/
def GrepOptions.wrap (o : GrepOptions) (r : Regex) : Regex :=
  if o.wholeLine then .seq [.start, r, .stop]
  else if o.words then .seq [.edge true, r, .edge false]
  else r

/-- The expressions in one, as alternatives; none matches nothing. -/
def anyOf : List Regex → Regex
  | [] => .set false []
  | r :: rs => rs.foldl .alt r

/-- The matcher of `grep`'s patterns and the warnings of reading them, or the messages of the
patterns that are malformed. -/
def grepMatcher (o : GrepOptions) (patterns : List String) : Except (List String) (GrepMatcher × List String) :=
  match o.dialect with
  | .fixed =>
    let r := anyOf (patterns.map fun p => o.wrap (Regex.fixed p))
    .ok (⟨r, r, false⟩, [])
  | .perl =>
    match patterns.mapM Regex.readPerl with
    | .ok rs => let r := anyOf (rs.map o.wrap); .ok (⟨r, r, true⟩, [])
    | .error e => .error [e.message]
  | .basic | .extended =>
    let sx := if o.dialect == .extended then RegexSyntax.grepExtended else RegexSyntax.grepBasic
    let read := patterns.map (Regex.read sx)
    let errors := read.filterMap fun
      | .error e => some e.message
      | .ok _ => none
    if !errors.isEmpty then .error errors
    else
      let located := read.filterMap fun
        | .ok (r, _) => some r
        | .error _ => none
      let selected := (patterns.zip located).map fun (p, l) =>
        match Regex.read { sx with automaton := true } p with
        | .ok (r, ws) => (if l.hasBackref || l.hasWordAnchor then l else r, ws)
        | .error _ => (l, [])
      .ok (⟨anyOf (selected.map fun (r, _) => o.wrap r), anyOf (located.map o.wrap), false⟩,
        selected.flatMap (·.2))

/-- A line without its end byte, as text (a byte that is not valid UTF-8 kept as its stand-in). -/
def lineText (stop : UInt8) (l : List UInt8) : List Char :=
  Utf8.decodeKeeping (if l.getLast? == some stop then l.dropLast else l)

/-- Whether bytes are valid UTF-8. -/
def validText (bs : List UInt8) : Bool := (Utf8.decode? bs).isSome

/-- What `grep` found in one file: its writes in order (`true` for standard output), the number
of lines selected, and whether a line was held back as binary. -/
def grepScan (o : GrepOptions) (m : GrepMatcher) (cmd name : String) (many : Bool) (bs : List UInt8) :
    List (Bool × List UInt8) × Nat :=
  let stop : UInt8 := if o.nullData then 0 else 10
  let binary := o.binary != .text && !o.nullData && bs.contains 0
  if binary && o.binary == .withoutMatch then ([], 0) else
  let bs := if binary then bs.map (fun b => if b == 0 then stop else b) else bs
  let records := recordsWith stop (bs.length + 1) bs
  let lines := records.zipIdx
  let offsets := (records.foldl (fun (acc : List Nat × Nat) l => (acc.1 ++ [acc.2], acc.2 + l.length)) ([], 0)).1
  let subject (l : List UInt8) : Subject :=
    { chars := (lineText stop l).toArray, ignoreCase := o.ignoreCase, firstWins := m.firstWins }
  let selectedAll := lines.filter fun (l, _) => m.select.found (subject l) != o.invert
  let selected := match o.maxCount with
    | some k => selectedAll.take k
    | none => selectedAll
  let lastLine := match o.maxCount, selected.getLast? with
    | some _, some (_, i) => i
    | _, _ => lines.length
  let quietOutput := o.quiet || o.filesWith || o.filesWithout || o.count
  let message : List (Bool × List UInt8) := [(false, errLine cmd (name ++ ": binary file matches"))]
  let headAt (i : Nat) (offset : Nat) (mark : String) : List UInt8 :=
    bytes ((if many then name ++ mark else "") ++ (if o.lineNumbers then toString (i + 1) ++ mark else "") ++
      (if o.byteOffset then toString offset ++ mark else ""))
  let head (i : Nat) (mark : String) : List UInt8 := headAt i (offsets.getD i 0) mark
  let body (l : List UInt8) : List UInt8 := if l.getLast? == some stop then l.dropLast else l
  -- a line is written unless its text is not valid UTF-8 (`none`)
  let piece (text : List UInt8) (out : List UInt8) : Option (List UInt8) :=
    if o.binary != .text && !validText text then none else some out
  let summary : List (Bool × List UInt8) :=
    if o.quiet then []
    else if o.filesWith then (if selected.isEmpty then [] else [(true, bytes (name ++ "\n"))])
    else if o.filesWithout then (if selected.isEmpty then [(true, bytes (name ++ "\n"))] else [])
    else if o.count then [(true, bytes ((if many then name ++ ":" else "") ++ toString selected.length ++ "\n"))]
    else []
  if binary then
    let found := if o.count then selected.length else min 1 selected.length
    (summary ++ (if !quietOutput && found > 0 then message else []), found)
  else if quietOutput then (summary, selected.length)
  else
    let pieces : List (Option (List UInt8)) :=
      if o.onlyMatching then
        if o.invert then []
        else selected.flatMap fun (l, i) =>
          let t := subject l
          (m.locate.matchesIn t).flatMap fun (mt : Match) =>
            let start : Nat := match groupSpan mt.groups 0 with
              | some (s, _) => s
              | none => mt.start
            if mt.stop ≤ start then []
            else
              let before := (bytes (String.ofList ((t.chars.extract 0 start).toList))).length
              let text := bytes (String.ofList ((t.chars.extract start mt.stop).toList))
              [piece text (headAt i (offsets.getD i 0 + before) ":" ++ text ++ [stop])]
      else if o.after == 0 && o.before == 0 then
        selected.map fun (l, i) => piece (body l) (head i ":" ++ body l ++ [stop])
      else
        let chosen := selected.map (·.2)
        let near (i : Nat) : Bool :=
          chosen.any fun j => (j ≤ i && i ≤ j + o.after) || (i ≤ j && j ≤ i + o.before)
        let inRange := lines.filter fun (_, i) => near i && (i ≤ lastLine + o.after)
        (inRange.foldl (fun (acc : List (Option (List UInt8)) × Option Nat) (l, i) =>
          let (out, prev) := acc
          let gap := match prev with
            | some p => if i > p + 1 then [some (bytes "--\n")] else []
            | none => []
          let mark := if chosen.contains i then ":" else "-"
          (out ++ gap ++ [piece (body l) (head i mark ++ body l ++ [stop])], some i)) ([], none)).1
    let written := pieces.filterMap id
    let out : List (Bool × List UInt8) := if written.isEmpty then [] else [(true, written.flatten)]
    (out ++ (if pieces.any Option.isNone then message else []), selected.length)

/-- The patterns of `-f` files: each line of each file; the error text for a file that cannot
be read. -/
def patternsFrom (ws : Workspace) (files : List String) : Except String (List String) :=
  files.foldlM (fun acc f =>
    match nodeAt ws f with
    | .ok (_, .file bs) => .ok (acc ++ (linesOf bs).map fun l => String.ofList (lineText 10 l))
    | .ok (_, .sink) => .ok acc
    | .ok (_, .dir) => .ok acc
    | .error e => .error (f ++ ": " ++ IoError.text e)) []

/-- What one operand of `grep` stands for: itself, or under `-r` for a directory the files
below it in name order, each with the name it is shown by and the path it is read from. With
no operand the working directory is searched and names are shown without `./`. -/
def grepTargets (ws : Workspace) (recursive implicit : Bool) (f : String) : List (String × Option String) :=
  match recursive, nodeAt ws f with
  | true, .ok (p, .dir) =>
    let below := ws.nodes.filterMap fun (q, n) =>
      match n with
      | .dir => none
      | _ => if q.length > p.length && q.take p.length == p then some (q.drop p.length) else none
    let sorted := below.mergeSort fun a b => decide (compareOfLessAndEq a b != .gt)
    let lead := if implicit then "" else if f.endsWith "/" then f else f ++ "/"
    sorted.map fun rel => (lead ++ "/".intercalate rel, some ("/" ++ "/".intercalate (p ++ rel)))
  | _, _ => [(f, none)]

/-- `grep`: the lines of its files (or standard input) that match its patterns. -/
def grep (cmd : String) (args : List String) (input : List UInt8) (ws : Workspace) : ToolRun :=
  let usage := "Usage: " ++ cmd ++ " [OPTION]... PATTERNS [FILE]...\nTry " ++
      quote (cmd ++ " --help") ++ " for more information.\n"
  let fail (msg : String) : ToolRun := { ws := ws, err := bytes (cmd ++ ": " ++ msg ++ "\n"), status := 2 }
  match grepOptions (args.length + 1) args {} [] with
  | .error (.unknown c) => { ws := ws, err := bytes (cmd ++ ": invalid option -- " ++ quote c.toString ++ "\n" ++ usage), status := 2 }
  | .error (.unknownLong a) => { ws := ws, err := bytes (cmd ++ ": unrecognized option " ++ quote a ++ "\n" ++ usage), status := 2 }
  | .error (.missing c) => { ws := ws, err := bytes (cmd ++ ": option requires an argument -- " ++ quote c.toString ++ "\n" ++ usage), status := 2 }
  | .error (.missingLong a) => { ws := ws, err := bytes (cmd ++ ": option " ++ quote ("--" ++ a) ++ " requires an argument\n" ++ usage), status := 2 }
  | .error .conflict => fail "conflicting matchers specified"
  | .error .badMax => fail "invalid max count"
  | .error (.badContext v) => fail (v ++ ": invalid context length argument")
  | .error .badBinary => fail "unknown binary-files type"
  | .ok (o, operands) =>
    let (pats, files) := if o.given then (o.patterns, operands) else
      match operands with
      | p :: fs => ([p], fs)
      | [] => ([], [])
    if !o.given && operands.isEmpty then { ws := ws, err := bytes usage, status := 2 }
    else
      match patternsFrom ws o.patternFiles with
      | .error msg => fail msg
      | .ok more =>
      let patterns := pats.flatMap (fun p => p.splitOn "\n") ++ more
      let nothing := o.maxCount == some 0 ||
        (o.invert && !o.wholeLine && !o.words && !patterns.isEmpty && patterns.all (· == ""))
      if nothing && !o.filesWithout then { ws := ws, status := 1 }
      else
      match grepMatcher o patterns with
      | .error msgs => { ws := ws, err := bytes (String.join (msgs.map fun e => cmd ++ ": " ++ e ++ "\n")), status := 2 }
      | .ok (m, warnings) =>
        let warned : List (Bool × List UInt8) := warnings.map fun w => (false, errLine cmd ("warning: " ++ w))
        let implicit := files.isEmpty && o.recursive
        let files := if files.isEmpty then (if o.recursive then ["."] else ["-"]) else files
        let targets := files.flatMap fun f => grepTargets ws o.recursive implicit f
        let many := o.names.getD (files.length > 1 || (o.recursive && targets.any (·.2.isSome)))
        let (writes, found, failed, readIn) := targets.foldl (fun (r : List (Bool × List UInt8) × Nat × Bool × Bool) (f, below) =>
          let (writes, found, failed, readIn) := r
          if o.quiet && found > 0 then r
          else if f == "-" && below.isNone then
            let (w, k) := grepScan o m cmd o.label many (if readIn then [] else input)
            (writes ++ w, found + k, failed, true)
          else match nodeAt ws (below.getD f) with
            | .ok (_, .file bs) => let (w, k) := grepScan o m cmd f many bs; (writes ++ w, found + k, failed, readIn)
            | .ok (_, .sink) => let (w, k) := grepScan o m cmd f many []; (writes ++ w, found + k, failed, readIn)
            | .ok (_, .dir) =>
              (writes ++ (if o.noMessages then [] else [(false, errLine cmd (f ++ ": Is a directory"))]), found, true, readIn)
            | .error e =>
              (writes ++ (if o.noMessages then [] else [(false, errLine cmd (f ++ ": " ++ IoError.text e))]), found, true, readIn))
          (warned, 0, false, false)
        let status := if o.quiet && found > 0 then 0 else if failed then 2 else if found > 0 then 0 else 1
        ToolRun.ofWrites ws writes status readIn

end Tool

end DefUseCoverage.Shell
