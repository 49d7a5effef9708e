import DefUseCoverage.Shell.Tool.Basic
import DefUseCoverage.Shell.Tool.Options
/-!
# Rearranging lines

`tac` writes the lines of each file last first, `rev` each line back to front, and `paste`
the lines of its files side by side (or, with `-s`, each file on one line).

A line is a run of bytes ended by a newline or by the end of the input. `tac` moves each
line with its own newline, so a last line without one joins the line written after it; its
records may also be ended (or, with `-b`, begun) by another separator (`-s`).
-/

namespace DefUseCoverage.Shell

namespace Tool

/-- A text cut at each occurrence of a separator, found left to right: the pieces between
them, one more than the separators (an empty separator cuts nothing). The pieces are built
back to front in `acc`; the fuel bounds the bytes. -/
def cutAtEach (sep : List UInt8) : Nat → List UInt8 → List UInt8 → List (List UInt8)
  | 0, acc, rest => [acc.reverse ++ rest]
  | _, acc, [] => [acc.reverse]
  | k + 1, acc, b :: rest =>
    if !sep.isEmpty && sep.isPrefixOf (b :: rest) then
      acc.reverse :: cutAtEach sep k [] ((b :: rest).drop sep.length)
    else cutAtEach sep k (b :: acc) rest

/-- The records of a text for `tac`: each ended by the separator (the last perhaps not), or,
`before`, each begun by it (the first perhaps not); an empty last (or first) one is none. -/
def tacRecords (sep : List UInt8) (before : Bool) (bs : List UInt8) : List (List UInt8) :=
  match cutAtEach sep (bs.length + 1) [] bs with
  | [] => []
  | first :: more =>
    if before then (if first.isEmpty then [] else [first]) ++ more.map (sep ++ ·)
    else
      let pieces := first :: more
      let ended := pieces.dropLast.map (· ++ sep)
      let last := pieces.getLastD []
      ended ++ (if last.isEmpty then [] else [last])

/-- The options of `tac`. -/
def tacSpecs : List OptSpec :=
  [OptSpec.flag 'b' ["before"], OptSpec.flag 'r' ["regex"],
   { name := "separator", letter := some 's', longs := ["separator"], takes := .required }] ++
  standardOptions

/-- `tac [-b] [-s SEP] [FILE]...`: the records of each file (lines, or those a separator
ends), the last first. It holds its output until it ends, after its messages. -/
def tac (cmd : String) (args : List String) (input : List UInt8) (ws : Workspace) : ToolRun :=
  let r := readOptions tacSpecs false args
  match r.error with
  | some e => usageError cmd e.text ws
  | none =>
    let sep := bytes ((r.given.last "separator").getD "\n")
    let before := r.given.has "before"
    let files := if r.operands.isEmpty then ["-"] else r.operands
    let (run, _) := files.foldl (fun (acc : ToolRun × Bool) f =>
      let (run, usedIn) := acc
      let put (bs : List UInt8) : ToolRun := { run with out := run.out ++ (tacRecords sep before bs).reverse.flatten }
      let fail (msg : String) : ToolRun := { run with err := run.err ++ errLine cmd msg, status := 1 }
      if f == "-" then ({ put (if usedIn then [] else input) with readsInput := true }, true)
      else match nodeAt ws f with
        | .ok (_, .file bs) => (put bs, usedIn)
        | .ok (_, .sink) => (run, usedIn)
        | .ok (_, .dir) => (fail (quoteIfNeeded f ++ ": read error: Invalid argument"), usedIn)
        | .error e => (fail ("failed to open " ++ quote f ++ " for reading: " ++ IoError.text e), usedIn))
      (({ ws := ws } : ToolRun), false)
    run

/-- The options of `rev`. -/
def revSpecs : List OptSpec :=
  [OptSpec.flag '0' ["zero"], OptSpec.flag 'h' ["help"], OptSpec.flag 'V' ["version"]]

/-- A line back to front, character by character (its end stays last); `none` for bytes that
are no text, on which `rev` never gets past reading. -/
def revLine (ending : UInt8) (l : List UInt8) : Option (List UInt8) :=
  let ended := l.getLast? == some ending
  let body := if ended then l.dropLast else l
  (Utf8.decode? body).map fun t =>
    Utf8.encode (String.ofList t.toList.reverse) ++ (if ended then [ending] else [])

/-- `rev [-0] [FILE]...`: each line back to front, character by character. It reads standard
input only without files (`-` is a file name), holds its output until it ends, and never ends
on a file that cannot be read as text. -/
def rev (cmd : String) (args : List String) (input : List UInt8) (ws : Workspace) : ToolRun :=
  let r := readOptions revSpecs false args
  match r.error with
  | some e => usageError cmd e.text ws
  | none =>
    let ending : UInt8 := if r.given.has "zero" then 0 else 10
    let turn (run : ToolRun) (bs : List UInt8) : ToolRun :=
      match (recordsWith ending (bs.length + 1) bs).mapM (revLine ending) with
      | some ls => { run with out := run.out ++ ls.flatten }
      | none => { run with out := [], forever := true }
    let run : ToolRun := { ws := ws }
    if r.operands.isEmpty then { turn run input with readsInput := true }
    else
      r.operands.foldl (fun run f =>
        if run.forever then run
        else match nodeAt ws f with
          | .ok (_, .file bs) => turn run bs
          | .ok (_, .sink) => run
          | .ok (_, .dir) => { run with out := [], forever := true }
          | .error e => { run with err := run.err ++ errLine cmd ("cannot open " ++ f ++ ": " ++ IoError.text e), status := 1 }) run

/-- The delimiters of `paste -d`, as bytes (`none` for no delimiter): the escapes `\0` (none),
`\b`, `\f`, `\n`, `\r`, `\t`, `\v` and `\\` stand for their bytes, and a backslash before
another byte for that byte. An empty list is one empty delimiter; a list ending with a lone
backslash is refused. -/
def pasteDelims (s : String) : Option (List (Option UInt8)) :=
  let escape (c : UInt8) : Option UInt8 :=
    match c.toNat with
    | 48 => none
    | 98 => some 8
    | 102 => some 12
    | 110 => some 10
    | 114 => some 13
    | 116 => some 9
    | 118 => some 11
    | _ => some c
  let rec go : List UInt8 → Option (List (Option UInt8))
    | [] => some []
    | [92] => none
    | 92 :: c :: rest => (escape c :: ·) <$> go rest
    | c :: rest => (some c :: ·) <$> go rest
  if s.isEmpty then some [none] else go (Utf8.encodeKeeping s)

/-- The delimiter after the `i`th piece of a line (from zero), cycling through the list. -/
def delimAt (ds : List (Option UInt8)) (i : Nat) : List UInt8 :=
  match ds[i % max 1 ds.length]? with
  | some (some b) => [b]
  | _ => []

/-- Where an operand of `paste` reads from. -/
inductive PasteSource where
  /-- Standard input, which every `-` shares. -/
  | stdin
  /-- A file's lines. -/
  | lines (ls : List (List UInt8))
  /-- A file that cannot be read (a directory), with the error it reports. -/
  | broken (msg : List UInt8)

/-- The state of `paste` side by side: the sources (`none` once closed), the lines of standard
input left, and the writes so far, in order. -/
structure PasteState where
  /-- The operands' sources; `none` once the operand is done. -/
  sources : List (Option PasteSource)
  /-- The lines of standard input not yet read. -/
  stdinLines : List (List UInt8)
  /-- The writes, `true` for standard output. -/
  writes : List (Bool × List UInt8) := []
  /-- Whether a read failed. -/
  failed : Bool := false

/-- Reading the next line of an operand: the line (with its end, if it had one), or `none` at
its end, closing it (a source that cannot be read says why first). -/
def PasteState.readLine (st : PasteState) (i : Nat) : Option (List UInt8) × PasteState :=
  let close := st.sources.set i none
  match st.sources[i]? with
  | some (some .stdin) =>
    match st.stdinLines with
    | l :: rest => (some l, { st with stdinLines := rest })
    | [] => (none, { st with sources := close })
  | some (some (.lines ls)) =>
    match ls with
    | l :: rest => (some l, { st with sources := st.sources.set i (some (.lines rest)) })
    | [] => (none, { st with sources := close })
  | some (some (.broken msg)) =>
    (none, { st with sources := close, writes := st.writes ++ [(false, msg)], failed := true })
  | _ => (none, st)

/-- One output line of `paste` side by side, from operand `i` on: each operand's next line
without its end, the delimiters between them. The delimiters after operands that are done
are held back and written only before a later line, or at the end of an output line that got
one. The fuel bounds the operands. -/
def pasteRow (ds : List (Option UInt8)) (stop : UInt8) (n : Nat) :
    Nat → Nat → PasteState → List UInt8 → Bool → Nat → PasteState
  | 0, _, st, _, _, _ => st
  | k + 1, i, st, saved, somedone, d =>
    if i ≥ n || st.sources.all Option.isNone then st
    else
      let last := i + 1 == n
      let out (bs : List UInt8) (st : PasteState) : PasteState :=
        if bs.isEmpty then st else { st with writes := st.writes ++ [(true, bs)] }
      match st.readLine i with
      | (some l, st) =>
        let body := if l.getLast? == some stop then l.dropLast else l
        let st := out (saved ++ body) st
        if last then out [stop] st
        else pasteRow ds stop n k (i + 1) (out (delimAt ds d) st) [] true (d + 1)
      | (none, st) =>
        if last then (if somedone then out (saved ++ [stop]) st else st)
        else pasteRow ds stop n k (i + 1) st (saved ++ delimAt ds d) somedone (d + 1)

/-- `paste` side by side: output lines until every operand is done. The fuel bounds the
lines. -/
def pasteRows (ds : List (Option UInt8)) (stop : UInt8) (n : Nat) : Nat → PasteState → PasteState
  | 0, st => st
  | k + 1, st =>
    if st.sources.all Option.isNone then st
    else pasteRows ds stop n k (pasteRow ds stop n (n + 1) 0 st [] false 0)

/-- One operand of `paste -s` on one line: its line ends but the last become the delimiters in
turn, and a missing last end is added. -/
def pasteSerial (ds : List (Option UInt8)) (stop : UInt8) (bs : List UInt8) : List UInt8 :=
  match bs.getLast? with
  | none => [stop]
  | some final =>
    let (body, _) := bs.dropLast.foldl (fun (acc : List UInt8 × Nat) b =>
      let (out, d) := acc
      if b == stop then (out ++ delimAt ds d, d + 1) else (out ++ [b], d)) ([], 0)
    body ++ [final] ++ (if final == stop then [] else [stop])

/-- The options of `paste`. -/
def pasteSpecs : List OptSpec :=
  [{ name := "delimiters", letter := some 'd', longs := ["delimiters"], takes := .required },
   OptSpec.flag 's' ["serial"], OptSpec.flag 'z' ["zero-terminated"]] ++ standardOptions

/-- `paste [-s] [-z] [-d LIST] [FILE...]`: the lines of the files side by side, separated by
the delimiters in turn (a tab by default), or with `-s` each file's lines on one line. Every
`-` reads from the one standard input, so `paste - -` pairs its lines. Side by side, a file
that cannot be opened stops `paste` before it writes; with `-s` it is reported and passed. -/
def paste (cmd : String) (args : List String) (input : List UInt8) (ws : Workspace) : ToolRun :=
  let r := readOptions pasteSpecs false args
  match r.error with
  | some e => usageError cmd e.text ws
  | none =>
    let given := r.given
    let stop : UInt8 := if given.has "zero-terminated" then 0 else 10
    match pasteDelims ((given.last "delimiters").getD "\t") with
    | none =>
      { ws := ws, err := errLine cmd ("delimiter list ends with an unescaped backslash: " ++
          ((given.last "delimiters").getD "")), status := 1 }
    | some ds =>
    let files := if r.operands.isEmpty then ["-"] else r.operands
    let usedIn := files.contains "-"
    let source (f : String) : Except (List UInt8) PasteSource :=
      if f == "-" then .ok .stdin
      else match nodeAt ws f with
        | .ok (_, .file bs) => .ok (.lines (recordsWith stop (bs.length + 1) bs))
        | .ok (_, .sink) => .ok (.lines [])
        | .ok (_, .dir) => .ok (.broken (errLine cmd (quoteIfNeeded f ++ ": Is a directory")))
        | .error e => .error (errLine cmd (quoteIfNeeded f ++ ": " ++ IoError.text e))
    if given.has "serial" then
      let (writes, failed, _) := files.foldl (fun (acc : List (Bool × List UInt8) × Bool × Bool) f =>
        let (writes, failed, inputLeft) := acc
        match source f with
        | .error msg => (writes ++ [(false, msg)], true, inputLeft)
        | .ok .stdin => (writes ++ [(true, pasteSerial ds stop (if inputLeft then input else []))], failed, false)
        | .ok (.lines ls) => (writes ++ [(true, pasteSerial ds stop ls.flatten)], failed, inputLeft)
        | .ok (.broken msg) => (writes ++ [(true, [stop]), (false, msg)], true, inputLeft)) ([], false, true)
      ToolRun.ofWrites ws writes (if failed then 1 else 0) usedIn
    else
      match files.mapM source with
      | .error msg => { ws := ws, err := msg, status := 1, readsInput := usedIn }
      | .ok sources =>
        let total := sources.foldl (fun n s => match s with
          | .lines ls => n + ls.length
          | _ => n) 0
        let stdinLines := recordsWith stop (input.length + 1) input
        let st := pasteRows ds stop files.length (total + stdinLines.length + files.length + 2)
          { sources := sources.map some, stdinLines }
        ToolRun.ofWrites ws st.writes (if st.failed then 1 else 0) usedIn

end Tool

end DefUseCoverage.Shell
