import DefUseCoverage.Shell.Tool.Options
import DefUseCoverage.Text.WideChar
/-!
# Text filters

`cat`, `wc` and `tee`: programs that read files or standard input as lines of
bytes and write what they select or count. Counting and classes of bytes are those of the byte
locale: a character is a byte, and only ASCII prints.
-/

namespace DefUseCoverage.Shell

namespace Tool

/-- The options of `cat`. -/
structure CatOptions where
  /-- `-n`: number every line. -/
  number : Bool := false
  /-- `-b`: number the lines that are not empty. -/
  nonblank : Bool := false
  /-- `-s`: one empty line for several. -/
  squeeze : Bool := false
  /-- `-E`: a `$` at the end of each line. -/
  ends : Bool := false
  /-- `-T`: tabs as `^I`. -/
  tabs : Bool := false
  /-- `-v`: control characters as `^X` and high bytes as `M-X`. -/
  nonprinting : Bool := false

/-- The options of `cat`. -/
def catSpecs : List OptSpec :=
  [OptSpec.flag 'b' ["number-nonblank"], OptSpec.flag 'n' ["number"], OptSpec.flag 's' ["squeeze-blank"],
   OptSpec.flag 'v' ["show-nonprinting"], OptSpec.flag 'E' ["show-ends"], OptSpec.flag 'T' ["show-tabs"],
   OptSpec.flag 'A' ["show-all"], OptSpec.flag 'e', OptSpec.flag 't', OptSpec.flag 'u'] ++ standardOptions

/-- The options of `cat` after one more given. -/
def catOption (o : CatOptions) (g : String × Option String) : CatOptions :=
  match g.1 with
  | "number-nonblank" => { o with nonblank := true }
  | "number" => { o with number := true }
  | "squeeze-blank" => { o with squeeze := true }
  | "show-nonprinting" => { o with nonprinting := true }
  | "show-ends" => { o with ends := true }
  | "show-tabs" => { o with tabs := true }
  | "show-all" => { o with nonprinting := true, ends := true, tabs := true }
  | "e" => { o with nonprinting := true, ends := true }
  | "t" => { o with nonprinting := true, tabs := true }
  | _ => o

/-- Where `cat` stands in its output, across its files: the last line number given, whether
the next byte starts a line, and whether the last line was empty. -/
structure CatState where
  /-- The last line number given. -/
  line : Nat := 0
  /-- Whether the next byte starts a line. -/
  atStart : Bool := true
  /-- Whether the last line was empty. -/
  blank : Bool := false

/-- How `cat` shows a byte that is not a newline. -/
def catByte (o : CatOptions) (b : UInt8) : List UInt8 :=
  let n := b.toNat
  let caret (m : Nat) : List UInt8 :=
    if m < 32 then [94, UInt8.ofNat (m + 64)] else if m == 127 then [94, 63] else [UInt8.ofNat m]
  if n == 9 then (if o.tabs then [94, 73] else [9])
  else if !o.nonprinting then [b]
  else if n < 128 then caret n
  else [77, 45] ++ caret (n - 128)

/-- One line (or the start of one) as `cat` writes it, and where it stands after. -/
def catLine (o : CatOptions) (st : CatState) (line : List UInt8) : List UInt8 × CatState :=
  let nl := line.getLast? == some 10
  let body := if nl then line.dropLast else line
  let empty := st.atStart && body.isEmpty && nl
  if o.squeeze && empty && st.blank then ([], st)
  else
    let numbered := st.atStart && (if o.nonblank then !body.isEmpty else o.number)
    let lineNo := if numbered then st.line + 1 else st.line
    let digits := toString lineNo
    let lead := if numbered then bytes (String.ofList (List.replicate (6 - digits.length) ' ') ++ digits ++ "\t") else []
    let tail : List UInt8 := if nl then (if o.ends then [36, 10] else [10]) else []
    (lead ++ body.flatMap (catByte o) ++ tail,
      { line := lineNo, atStart := nl, blank := if st.atStart then empty else st.blank })

/-- The bytes of a file as `cat` writes them with its options. -/
def catBytes (o : CatOptions) (st : CatState) (bs : List UInt8) : List UInt8 × CatState :=
  if !(o.number || o.nonblank || o.squeeze || o.ends || o.tabs || o.nonprinting) then (bs, st)
  else
    (linesOf bs).foldl (fun (acc : List UInt8 × CatState) l =>
      let (out, st) := acc
      let (more, st) := catLine o st l
      (out ++ more, st)) ([], st)

/-- `cat`: its files, or standard input for none and for `-`, one after the other. It writes
each file as it reads it, so its messages stand between the files. -/
def cat (cmd : String) (args : List String) (input : List UInt8) (ws : Workspace) : ToolRun :=
  let reading := readOptions catSpecs false args
  match reading.error with
  | some e => usageError cmd e.text ws
  | none =>
    let o := reading.given.foldl catOption {}
    let files := reading.operands
    let files := if files.isEmpty then ["-"] else files
    let (r, _) := files.foldl (fun (acc : ToolRun × CatState) f =>
      let (r, st) := acc
      let put (bs : List UInt8) : ToolRun × CatState :=
        let (out, st) := catBytes o st bs
        ({ r with out := r.out ++ out, trace := r.trace ++ [(true, out)] }, st)
      let fail (msg : String) : ToolRun × CatState :=
        let e := errLine cmd (quoteIfNeeded f ++ ": " ++ msg)
        ({ r with err := r.err ++ e, trace := r.trace ++ [(false, e)], status := 1 }, st)
      if f == "-" then
        let (r, st) := put (if r.readsInput then [] else input)
        ({ r with readsInput := true }, st)
      else match nodeAt ws f with
        | .ok (_, .file bs) => put bs
        | .ok (_, .sink) => (r, st)
        | .ok (_, .dir) => fail "Is a directory"
        | .error e => fail (IoError.text e)) (({ ws := ws } : ToolRun), {})
    r

/-- What `wc` counts of a text. -/
structure WcCounts where
  /-- Newlines. -/
  lines : Nat := 0
  /-- Words: runs of printing characters that are not white space. -/
  words : Nat := 0
  /-- Characters: UTF-8 sequences, bytes that begin none left out. -/
  chars : Nat := 0
  /-- Bytes. -/
  bytes : Nat := 0
  /-- The columns of the widest line, tabs reaching the next multiple of eight and characters
  that do not print taking none. -/
  widest : Nat := 0

/-- The counts of two texts together, the widest line the wider of theirs. -/
def WcCounts.add (a b : WcCounts) : WcCounts :=
  { lines := a.lines + b.lines, words := a.words + b.words, chars := a.chars + b.chars,
    bytes := a.bytes + b.bytes, widest := max a.widest b.widest }

/-- Whether a code point is a space that does not break a line; `wc` takes one to end a word
as it does white space. -/
def noBreakSpace (n : Nat) : Bool := n == 0xA0 || n == 0x2007 || n == 0x202F || n == 0x2060

/-- One more piece of a text (a character, or a byte that begins none) in the counts, with
whether a word is open and the column the line has reached. A newline, carriage return or
form feed ends the line; a blank, a tab, a vertical tab and the other white space end a word;
a character that prints opens one and takes its columns; one that does not print, and a byte
that begins no character, change nothing but the bytes. -/
def wcStep (acc : WcCounts × Bool × Nat) (p : List UInt8) : WcCounts × Bool × Nat :=
  let (c, inWord, pos) := acc
  let c := { c with bytes := c.bytes + p.length }
  let code : Option Nat := match p with
    | [b] => if b < 128 then some b.toNat else none
    | _ => some (Utf8.codePoint p)
  match code with
  | none => (c, inWord, pos)
  | some n =>
    let c := { c with chars := c.chars + 1 }
    let apart (c : WcCounts) (pos : Nat) : WcCounts × Bool × Nat :=
      ({ c with words := if inWord then c.words + 1 else c.words }, false, pos)
    if n == 10 then apart { c with lines := c.lines + 1, widest := max c.widest pos } 0
    else if n == 13 || n == 12 then apart { c with widest := max c.widest pos } 0
    else if n == 9 then apart c (pos + 8 - pos % 8)
    else if n == 32 then apart c (pos + 1)
    else if n == 11 then apart c pos
    else
      let ch := Char.ofNat n
      if WideChar.isPrint ch then
        let pos := pos + WideChar.columns ch
        if WideChar.isSpace ch || noBreakSpace n then apart c pos else (c, true, pos)
      else (c, inWord, pos)

/-- The counts of `wc` for some bytes. -/
def wcCount (bs : List UInt8) : WcCounts :=
  let (c, inWord, pos) := (Utf8.pieces bs).foldl wcStep ({}, false, 0)
  { c with words := if inWord then c.words + 1 else c.words, widest := max c.widest pos }

/-- The counts `wc` shows, in its order: lines, words, characters, bytes, widest line. -/
structure WcShown where
  /-- `-l`. -/
  lines : Bool := false
  /-- `-w`. -/
  words : Bool := false
  /-- `-m`. -/
  chars : Bool := false
  /-- `-c`. -/
  bytes : Bool := false
  /-- `-L`. -/
  widest : Bool := false

/-- The counts chosen, in order. -/
def WcShown.pick (s : WcShown) (c : WcCounts) : List Nat :=
  (if s.lines then [c.lines] else []) ++ (if s.words then [c.words] else []) ++
  (if s.chars then [c.chars] else []) ++ (if s.bytes then [c.bytes] else []) ++
  (if s.widest then [c.widest] else [])

/-- The options of `wc`. -/
def wcSpecs : List OptSpec :=
  [OptSpec.flag 'c' ["bytes"], OptSpec.flag 'm' ["chars"],
   { name := "files0-from", longs := ["files0-from"], takes := .required },
   OptSpec.flag 'l' ["lines"], OptSpec.flag 'L' ["max-line-length"], OptSpec.flag 'w' ["words"],
   { name := "total", longs := ["total"], takes := .required }] ++ standardOptions

/-- What `wc` reads for one name: its bytes, or none when it cannot be read; whether it is a
regular file, when it could be looked at; and the message it gives. -/
structure WcInput where
  /-- The bytes read. -/
  text : Option (List UInt8)
  /-- Whether it is a regular file; `none` when it could not be looked at. -/
  regular : Option Bool
  /-- The message for it. -/
  msg : List UInt8 := []

/-- A file name as `wc` prints it in a line of counts: as it is, unless it holds a newline. -/
def wcName (f : String) : String := if f.toList.contains '\n' then quote f else f

/-- `wc`: lines, words and bytes of each file (standard input for none), or the counts its
options ask for, with a total for several files (`--total` says when). The columns are as
wide as the sum of the sizes of the regular files needs, at least seven when some input is
not a regular file, and one for one count of one file, for a first file that cannot be looked
at, for names read from `--files0-from` and for the total alone. -/
def wc (cmd : String) (args : List String) (input : List UInt8) (inputSize : Option Nat) (ws : Workspace) : ToolRun :=
  let r := readOptions wcSpecs false args
  match r.error with
  | some e => usageError cmd e.text ws
  | none =>
  let given := r.given
  match (given.last "total").map (pickChoice · "total" [["auto"], ["always"], ["only"], ["never"]]) with
  | some (.error msg) => usageError cmd msg ws
  | choice =>
  let mode := match choice with
    | some (.ok (m :: _)) => m
    | _ => "auto"
  let shown : WcShown :=
    { lines := given.has "lines"
      words := given.has "words"
      chars := given.has "chars"
      bytes := given.has "bytes"
      widest := given.has "max-line-length" }
  let shown := if shown.pick {} |>.isEmpty then { lines := true, words := true, bytes := true } else shown
  let listFrom := given.last "files0-from"
  match listFrom, r.operands with
  | some _, extra :: _ =>
    usageError cmd ("extra operand " ++ quote extra ++ "\nfile operands cannot be combined with --files0-from") ws
  | _, _ =>
  -- the names to count, each with the message that comes instead of it when it is no name
  let names : Except (List UInt8) (List (Except (List UInt8) String)) :=
    match listFrom with
    | none => .ok ((if r.operands.isEmpty then ["-"] else r.operands).map .ok)
    | some src =>
      let listed : Except (List UInt8) (List UInt8) :=
        if src == "-" then .ok input
        else match nodeAt ws src with
          | .ok (_, .file bs) => .ok bs
          | .ok (_, .sink) => .ok []
          | .ok (_, .dir) => .error (errLine cmd (quoteIfNeeded src ++ ": read error: Is a directory"))
          | .error e => .error (errLine cmd ("cannot open " ++ quote src ++ " for reading: " ++ IoError.text e))
      listed.map fun bs =>
        (recordsWith 0 (bs.length + 1) bs).zipIdx.map fun (rec, i) =>
          let name := rec.filter (· != 0)
          if name.isEmpty then
            .error (errLine cmd (quoteIfNeeded src ++ ":" ++ toString (i + 1) ++ ": invalid zero-length file name"))
          else if src == "-" && name == [45] then
            .error (errLine cmd "when reading file names from stdin, no file name of \x27-\x27 allowed")
          else .ok (String.ofList (Utf8.decodeKeeping name))
  match names with
  | .error msg => { ws := ws, err := msg, status := 1, readsInput := listFrom == some "-" }
  | .ok names =>
  let inputOf (f : String) : WcInput :=
    if f == "-" then { text := some input, regular := some inputSize.isSome }
    else match nodeAt ws f with
      | .ok (_, .file bs) => { text := some bs, regular := some true }
      | .ok (_, .sink) => { text := some [], regular := some false }
      | .ok (_, .dir) => { text := some [], regular := some false, msg := errLine cmd (quoteIfNeeded f ++ ": Is a directory") }
      | .error e => { text := none, regular := none, msg := errLine cmd (quoteIfNeeded f ++ ": " ++ IoError.text e) }
  let inputs : List (Except (List UInt8) (String × WcInput)) := names.map fun n => n.map fun f => (f, inputOf f)
  let looked := inputs.filterMap fun i => match i with
    | .ok (f, inp) => inp.regular.map fun reg => (f, inp, reg)
    | .error _ => none
  let regularTotal := (looked.map fun (f, inp, reg) =>
    if !reg then 0 else if f == "-" then inputSize.getD 0 else (inp.text.map List.length).getD 0).foldl (· + ·) 0
  let firstFailed := match inputs.head? with
    | some (.ok (_, inp)) => inp.regular.isNone
    | _ => true
  let single := names.length == 1 && (shown.pick {}).length == 1
  let minimum := if looked.any (fun (_, _, reg) => !reg) then 7 else 1
  let width := if mode == "only" || listFrom.isSome || single || firstFailed then 1
    else max minimum (toString regularTotal).length
  let row (c : WcCounts) (name : Option String) : List UInt8 :=
    let cells := (shown.pick c).map fun k => let t := toString k; String.ofList (List.replicate (width - t.length) ' ') ++ t
    bytes (" ".intercalate cells ++ ((name.map (" " ++ wcName ·)).getD "") ++ "\n")
  let named := listFrom.isSome || !r.operands.isEmpty
  let (writes, total, failed) := inputs.foldl
    (fun (acc : List (Bool × List UInt8) × WcCounts × Bool) i =>
      let (writes, t, failed) := acc
      match i with
      | .error msg => (writes ++ [(false, msg)], t, true)
      | .ok (f, inp) =>
        let writes := if inp.msg.isEmpty then writes else writes ++ [(false, inp.msg)]
        match inp.text with
        | none => (writes, t, true)
        | some bs =>
          let c := wcCount bs
          let writes := if mode == "only" then writes else writes ++ [(true, row c (if named then some f else none))]
          (writes, t.add c, failed || !inp.msg.isEmpty)) ([], {}, false)
  let withTotal := mode == "always" || mode == "only" || (mode == "auto" && names.length > 1)
  let writes := if withTotal then writes ++ [(true, row total (if mode == "only" then none else some "total"))] else writes
  ToolRun.ofWrites ws writes (if failed then 1 else 0) ((names.any fun n => match n with
    | .ok "-" => true
    | _ => false) || listFrom == some "-")

/-- `tee`: standard input to standard output and to each file (`-a` appends). -/
def tee (cmd : String) (args : List String) (input : List UInt8) (ws : Workspace) : ToolRun :=
  let (os, files) := splitOptions args
  files.foldl (fun (r : ToolRun) f =>
    let written := r.ws.target f >>= fun p => if os.contains 'a' then r.ws.append p input else r.ws.write p input
    match written with
    | .ok w => { r with ws := w }
    | .error e => { r with err := r.err ++ errLine cmd (f ++ ": " ++ IoError.text e), status := 1 })
    { ws := ws, out := input, readsInput := true }

end Tool

end DefUseCoverage.Shell
