import DefUseCoverage.Shell.Tool.SedScript
import DefUseCoverage.Shell.Tool.Basic
/-!
# The stream editor

`sed` runs a script over the lines of its input. Each cycle puts the next line in the pattern
space, runs the script on it and prints the pattern space (unless `-n` or a first script line
`#n` turns printing off). The hold space keeps text between cycles; text queued by `a` and `r`
follows the line at the end of the cycle, or when `n` or `N` reads the next line.

A line keeps whether it ended with a newline: printing a line without one leaves the output
without it, and anything written after it first writes the missing newline. So the output of
an input whose last line has no newline has none either. With `-z` lines end with a NUL
instead, and the NUL takes the newline's place everywhere: in output, and where `N`, `G`, `H`
join lines and `D`, `P` look for the end of the first.

Ranges keep their state per command, as the tool does: a range starts on a line that its
first address matches; a line-number end at or before that line makes it a one-line range;
otherwise it ends on the line its end matches (a regex end is first tried on the next line).

Files are one stream, numbered on, with `$` its last line; with `-s` or `-i` each file is its
own stream, and with `-i` each file's output replaces it. A script that loops without end is
a run that never ends.
-/

namespace DefUseCoverage.Shell

namespace Sed

/-- A line of input. -/
structure Line where
  /-- Its text. -/
  text : List Char
  /-- Whether it ended with a newline. -/
  newline : Bool
  /-- Its number. -/
  number : Nat
  /-- Whether it is the last line of its stream. -/
  last : Bool
  /-- The name of its file (`-` for standard input). -/
  file : String
  /-- Which operand it came from. -/
  source : Nat
deriving Inhabited

/-- Something queued to follow the current line. -/
inductive Queued where
  /-- Text. -/
  | text (s : List Char)
  /-- The contents of a file. -/
  | file (name : String)
  /-- Bytes as they are. -/
  | raw (bs : List UInt8)

/-- The bytes of text. -/
def enc (cs : List Char) : List UInt8 := Utf8.encodeKeeping (String.ofList cs)

/-- An output stream: its chunks, the latest first, and the end the last line written lacked,
if it lacked one. -/
structure Sink where
  /-- The chunks written, the latest first. -/
  chunks : List (List UInt8) := []
  /-- The newline (or NUL) the last line written did not have. -/
  missing : Option UInt8 := none

namespace Sink

/-- The bytes written. -/
def bytes (s : Sink) : List UInt8 := s.chunks.reverse.flatten

/-- Writing bytes, after the end the last line lacked. -/
def emit (s : Sink) (bs : List UInt8) : Sink :=
  let chunks := match s.missing with
    | some b => [b] :: s.chunks
    | none => s.chunks
  { chunks := bs :: chunks, missing := none }

/-- Writing bytes that are not a line's, which leave a missing end missing. -/
def raw (s : Sink) (bs : List UInt8) : Sink := { s with chunks := bs :: s.chunks }

/-- Writing a line: its text, then its end (a newline, or the NUL of `-z`) unless it is to have
none. -/
def line (s : Sink) (text : List Char) (newline : Bool) (delim : UInt8) : Sink :=
  if newline then s.emit (enc text ++ [delim]) else { s.emit (enc text) with missing := some delim }

end Sink

/-- Why a run stopped early. -/
inductive Fault where
  /-- An empty regex with no regex used before it; it is told as an error of the script. -/
  | noPreviousRegex
  /-- An internal error, with its message. -/
  | internal (msg : String)

/-- What a script runs with. -/
structure Setup where
  /-- The instructions. -/
  prog : Array Instr
  /-- Whether printing at the end of a cycle is off. -/
  quiet : Bool
  /-- The line length of `l`. -/
  lineLength : Nat
  /-- The file tree, for `r` and `R`. -/
  ws : Workspace
  /-- The end of a line: a newline, or a NUL with `-z`. -/
  delim : Char := '\n'
  /-- `--posix`: `N` on the last line ends the run without printing. -/
  posix : Bool := false
  /-- `--debug`: each cycle's line and each command reached are shown, with what they change. -/
  debug : Bool := false

/-- The end of a line as a byte. -/
def Setup.delimByte (cfg : Setup) : UInt8 := cfg.delim.toNat.toUInt8

/-- The state of a run. -/
structure Machine where
  /-- The instruction to run next. -/
  pc : Nat := 0
  /-- The pattern space. -/
  ps : List Char := []
  /-- The hold space. -/
  hold : List Char := []
  /-- Whether the pattern space ends a line that had its newline: it is written with one. -/
  psNewline : Bool := true
  /-- The same for the hold space; copying or appending one space to the other carries it. -/
  holdNewline : Bool := true
  /-- The line read last. -/
  cur : Line
  /-- The lines not yet read. -/
  input : List Line
  /-- Whether a substitution was made since the last line was read or `t` was taken. -/
  replaced : Bool := false
  /-- What follows the current line, the latest first. -/
  queue : List Queued := []
  /-- The output. -/
  out : Sink := {}
  /-- With `-i`, the output of each finished file, by operand. -/
  edited : List (Nat × List UInt8) := []
  /-- The files written by `w`, with their contents. -/
  writes : List (String × Sink) := []
  /-- Text for standard error. -/
  err : List UInt8 := []
  /-- The regex used last. -/
  lastRegex : Option ScriptRegex := none
  /-- The lines of the files of `R` not yet read, by name. -/
  lineFiles : List (String × List (List UInt8)) := []
  /-- Which ranges are open, by instruction. -/
  active : Array Bool
  /-- The last line of each open range with a numeric end. -/
  ends : Array Nat
  /-- The exit code given by `q` or `Q`. -/
  quitCode : Option Nat := none
  /-- A fault that stopped the run. -/
  fault : Option Fault := none
  /-- Whether the run is over. -/
  finished : Bool := false
  /-- With `--debug`, the block depth commands are shown at. -/
  depth : Int := 0
  /-- With `--debug` and `-i`, what is shown (the output goes to the files). -/
  shown : List UInt8 := []

/-- The text a regex of the script is matched in: with `M`, `^` and `$` also match next to
newlines (unless lines end with NUL), and `.` and `[^...]` do not match a newline. -/
def subjectFor (cfg : Setup) (r : ScriptRegex) (text : List Char) : Subject :=
  { chars := text.toArray, ignoreCase := r.ignoreCase, multiline := r.multiline && cfg.delim == '\n',
    newlineStops := r.multiline }

namespace Machine

/-- Showing something for `--debug`: in the output, or with `-i` apart from it. -/
def showDebug (cfg : Setup) (inPlace : Bool) (m : Machine) (bs : List UInt8) : Machine :=
  if !cfg.debug then m
  else if inPlace then { m with shown := m.shown ++ bs } else { m with out := m.out.raw bs }

/-- Showing the pattern space. -/
def showPattern (cfg : Setup) (inPlace : Bool) (m : Machine) : Machine :=
  m.showDebug cfg inPlace (textBytes "PATTERN: ".toList ++ escapedText m.ps ++ [10])

/-- Showing the hold space. -/
def showHold (cfg : Setup) (inPlace : Bool) (m : Machine) : Machine :=
  m.showDebug cfg inPlace (textBytes "HOLD:    ".toList ++ escapedText m.hold ++ [10])

/-- Showing the end of a cycle. -/
def showEnd (cfg : Setup) (inPlace : Bool) (m : Machine) : Machine :=
  m.showDebug cfg inPlace (textBytes "END-OF-CYCLE:\n".toList)

/-- Writing a line to a file of `w`: the output for `/dev/stdout`, standard error for
`/dev/stderr`. Each file keeps whether its last line lacked the newline. -/
def writeTo (m : Machine) (name : String) (text : List Char) (newline : Bool) (delim : UInt8) : Machine :=
  if name == "/dev/stdout" then { m with out := m.out.line text newline delim }
  else if name == "/dev/stderr" then { m with err := m.err ++ enc text ++ (if newline then [delim] else []) }
  else { m with writes := m.writes.map fun (n, old) => if n == name then (n, old.line text newline delim) else (n, old) }

/-- The regex to use: the given one, or, for the empty one, the last one used. -/
def regexFor (m : Machine) (r : ScriptRegex) : Except Fault (ScriptRegex × Regex × Machine) :=
  match r.regex with
  | some re => .ok (r, re, { m with lastRegex := some r })
  | none =>
    match m.lastRegex with
    | some last =>
      match last.regex with
      | some re => .ok (last, re, m)
      | none => .error .noPreviousRegex
    | none => .error .noPreviousRegex


/-- Whether an address matches the current line. -/
def hits (cfg : Setup) (m : Machine) : Addr → Except Fault (Bool × Machine)
  | .line n => .ok (m.cur.number == n, m)
  | .last => .ok (m.cur.last, m)
  | .step first step =>
    .ok (if step == 0 then m.cur.number == first
      else first ≤ m.cur.number && (m.cur.number - first) % step == 0, m)
  | .regex r => do
    let (r, re, m) ← m.regexFor r
    pure (re.found (subjectFor cfg r m.ps), m)

/-- Opening or closing the range of an instruction. -/
def setRange (m : Machine) (i : Nat) (open_ : Bool) (last : Nat) : Machine :=
  { m with active := m.active.set! i open_, ends := m.ends.set! i last }

/-- Whether the instruction at `i` applies to the current line, updating its range. -/
def selects (cfg : Setup) (m : Machine) (i : Nat) (sel : Selector) : Except Fault (Bool × Machine) := do
  let l := m.cur.number
  let (hit, m) ← match sel.first, sel.second with
    | none, _ => pure (true, m)
    | some a, none => m.hits cfg a
    | some a, some e =>
      if m.active.getD i false then
        match e with
        | .addr (.line _) | .plus _ | .multiple _ =>
          let last := m.ends.getD i 0
          if l ≥ last then pure (l ≤ last, m.setRange i false 0) else pure (true, m)
        | .addr b =>
          let (closes, m) ← m.hits cfg b
          pure (true, if closes then m.setRange i false 0 else m)
      else
        let (starts, m) ← m.hits cfg a
        if !starts then pure (false, m)
        else
          match e with
          | .addr (.line n) => pure (true, if n ≤ l then m else m.setRange i true n)
          | .plus n => pure (true, if n == 0 then m else m.setRange i true (l + n))
          | .multiple n =>
            let last := if n == 0 then l else (l / n + 1) * n
            pure (true, if last ≤ l then m else m.setRange i true last)
          | .addr _ => pure (true, m.setRange i true 0)
  pure (hit != sel.negate, m)

/-- Writing what is queued. -/
def flushQueue (cfg : Setup) (m : Machine) : Machine :=
  let out := m.queue.reverse.foldl (fun (s : Sink) q =>
    match q with
    | .text t => s.emit (enc t)
    | .raw bs => s.emit bs
    | .file name =>
      match Tool.nodeAt cfg.ws name with
      | .ok (_, .file bs) => if bs.isEmpty then s else s.emit bs
      | _ => s) m.out
  { m with out := out, queue := [] }

/-- Taking a line as the one read last; with `-i`, a line of the next file first sets the
output of the finished one aside. -/
def take (inPlace : Bool) (m : Machine) (l : Line) : Machine :=
  let m := if inPlace && l.source != m.cur.source then
      { m with edited := m.edited ++ [(m.cur.source, m.out.bytes)], out := {} }
    else m
  { m with cur := l }

/-- The next cycle: what is queued is written, and the next line read; the run ends without
one. -/
def nextCycle (cfg : Setup) (inPlace : Bool) (m : Machine) : Machine :=
  let m := flushQueue cfg m
  match m.input with
  | [] => { m with finished := true }
  | l :: rest =>
    let m := { m.take inPlace l with pc := 0, ps := l.text, psNewline := l.newline, input := rest, replaced := false }
    let name := if l.file == "-" then "STDIN" else l.file
    let m := m.showDebug cfg inPlace (textBytes ("INPUT:   '" ++ name ++ "' line " ++ toString l.number ++ "\n").toList)
    m.showPattern cfg inPlace

/-- The end of the script: the pattern space is printed unless printing is off, and the next
cycle starts. -/
def endCycle (cfg : Setup) (inPlace : Bool) (m : Machine) : Machine :=
  let m := m.showEnd cfg inPlace
  let m := if cfg.quiet then m else { m with out := m.out.line m.ps m.psNewline cfg.delimByte }
  nextCycle cfg inPlace m

end Machine

/-- A case conversion in progress in a replacement: `U` or `L` for the text on, `u` or `l` for
the next character. -/
structure CaseState where
  /-- `U` or `L`, until `E`. -/
  mode : Option Char := none
  /-- `u` or `l`, for the next character. -/
  once : Option Char := none

/-- Text of a replacement after its case conversions, with the case mappings of the UTF-8
locale. -/
def convertCase (st : CaseState) (cs : List Char) : List Char × CaseState :=
  let byMode (d : Char) : Char :=
    match st.mode with
    | some 'U' => WideChar.toUpper d
    | some 'L' => WideChar.toLower d
    | _ => d
  match cs with
  | [] => ([], st)
  | c :: rest =>
    let first := match st.once with
      | some 'u' => WideChar.toUpper c
      | some 'l' => WideChar.toLower c
      | _ => byMode c
    (first :: rest.map byMode, { st with once := none })

/-- The text a replacement gives for a match. -/
def expand (pieces : List ReplPiece) (subject : Array Char) (mt : Match) : List Char :=
  let part (k : Nat) : List Char :=
    let span := if k == 0 then some (mt.start, mt.stop) else groupSpan mt.groups k
    match span with
    | some (a, b) => (subject.extract a b).toList
    | none => []
  (pieces.foldl (fun (acc : List Char × CaseState) p =>
    let (out, st) := acc
    match p with
    | .text s => let (t, st) := convertCase st s.toList; (out ++ t, st)
    | .group k => let (t, st) := convertCase st (part k); (out ++ t, st)
    | .caseMark c =>
      if c == 'U' || c == 'L' then (out, { st with mode := some c })
      else if c == 'E' then (out, { st with mode := none })
      else (out, { st with once := some c })) ([], {})).1

/-- A substitution in a text: the new text, or `none` when nothing was replaced. Bytes that
the replacement put next to each other are joined into the characters they encode. -/
def substitute (s : Subst) (re : Regex) (t : Subject) : Option (List Char) :=
  let subject := t.chars
  let nth := s.nth.getD 1
  let ms := (re.matchesIn t).zipIdx
  let chosen := ms.filter fun (_, k) => if s.global then k + 1 ≥ nth else k + 1 == nth
  if chosen.isEmpty then none
  else
    let (acc, pos) := chosen.foldl (fun (acc : List Char × Nat) (mt, _) =>
      let (out, pos) := acc
      (out ++ (subject.extract pos mt.start).toList ++ expand s.replacement subject mt, mt.stop)) ([], 0)
    let result := acc ++ (subject.extract pos subject.size).toList
    some (if result.any isRawByte then Utf8.rejoin result else result)

/-- The escape `l` shows for a byte. -/
def listByte (b : UInt8) : List UInt8 :=
  let n := b.toNat
  if n == 92 then [92, 92]
  else if n == 7 then [92, 97]
  else if n == 8 then [92, 98]
  else if n == 12 then [92, 102]
  else if n == 10 then [92, 110]
  else if n == 13 then [92, 114]
  else if n == 9 then [92, 116]
  else if n == 11 then [92, 118]
  else if 32 ≤ n && n ≤ 126 then [b]
  else [92, UInt8.ofNat (48 + n / 64), UInt8.ofNat (48 + n / 8 % 8), UInt8.ofNat (48 + n % 8)]

/-- What `l` shows of a text: its escapes, lines broken with a backslash before the line length
is reached (never with a length below two), and a final `$` and line end. -/
def listing (width : Nat) (delim : UInt8) (cs : List Char) : List UInt8 :=
  let (out, _) := (enc cs).foldl (fun (acc : List UInt8 × Nat) b =>
    let (out, w) := acc
    let p := listByte b
    if width > 1 && w + p.length > width - 1 then (out ++ [92, 10] ++ p, p.length)
    else (out ++ p, w + p.length)) ([], 0)
  out ++ [36, delim]

/-- The index after the label a branch names; the end of the script for none. -/
def labelTarget (prog : Array Instr) (name : String) : Nat :=
  if name.isEmpty then prog.size
  else
    let isLabel (i : Nat) : Bool :=
      match (prog[i]?).map Instr.op with
      | some (Op.label n) => n == name
      | _ => false
    let found := (List.range prog.size).find? isLabel
    match found with
    | some i => i + 1
    | none => prog.size

/-- The bytes of the text of `i` or `c`: its last newline is the line end of `-z`. (The text of
`a` keeps its newline.) -/
def insertedText (cfg : Setup) (body : String) : List UInt8 :=
  let cs := body.toList
  if cs.getLast? == some '\n' then enc cs.dropLast ++ [cfg.delimByte] else enc cs

/-- Taking the next line of a file of `R`: the line (with its end, if it has one), or `none`
when the file has no line left or is not there. -/
def nextLineOf (cfg : Setup) (m : Machine) (name : String) : Option (List UInt8) × Machine :=
  let lines := match m.lineFiles.find? (·.1 == name) with
    | some (_, ls) => ls
    | none =>
      match Tool.nodeAt cfg.ws name with
      | .ok (_, .file bs) => Tool.recordsWith cfg.delimByte (bs.length + 1) bs
      | _ => []
  let rest := m.lineFiles.filter (·.1 != name)
  match lines with
  | [] => (none, { m with lineFiles := (name, []) :: rest })
  | l :: more => (some l, { m with lineFiles := (name, more) :: rest })

/-- What `--debug` shows of the first match of a substitution: the spans of the match and of
the groups up to the last one the replacement names, in bytes, until a group that did not
match. -/
def registers (s : Subst) (subject : Array Char) (mt : Match) : List UInt8 :=
  let lastGroup := s.replacement.foldl (fun n p =>
    match p with
    | .group k => max n k
    | _ => n) 0
  let offset (i : Nat) : List UInt8 := showNat (textBytes (subject.extract 0 i).toList).length
  let (out, _) := (List.range (lastGroup + 1)).foldl (fun (acc : List UInt8 × Bool) k =>
    let (out, stopped) := acc
    let span := if k == 0 then some (mt.start, mt.stop) else groupSpan mt.groups k
    match stopped, span with
    | false, some (a, b) =>
      (out ++ textBytes "  regex[".toList ++ showNat k ++ textBytes "] = ".toList ++ offset a ++ [45] ++
        offset b ++ [32, 39] ++ textBytes (subject.extract a b).toList ++ [39, 10], false)
    | _, _ => (out, true)) (textBytes "MATCHED REGEX REGISTERS\n".toList, false)
  out

/-- Running a command the current line is selected for. -/
def exec (cfg : Setup) (inPlace : Bool) (m : Machine) : Op → Machine
  | .blockStart _ | .blockEnd | .label _ => { m with pc := m.pc + 1 }
  | .subst s =>
    match m.regexFor s.regex with
    | .error f => { m with fault := some f, finished := true }
    | .ok (r, re, m) =>
      let t := subjectFor cfg r m.ps
      let m := if cfg.debug then
          match re.searchFrom t 0 none with
          | some mt => m.showDebug cfg inPlace (registers s t.chars mt)
          | none => m
        else m
      match substitute s re t with
      | none => { m with pc := m.pc + 1 }.showPattern cfg inPlace
      | some ps =>
        let m := { m with ps := ps, replaced := true, pc := m.pc + 1 }
        let m := if s.print then { m with out := m.out.line ps m.psNewline cfg.delimByte } else m
        let m := match s.write with
          | some f => m.writeTo f ps m.psNewline cfg.delimByte
          | none => m
        m.showPattern cfg inPlace
  | .translit pairs =>
    let ps := m.ps.map fun c => ((pairs.find? (·.1 == c)).map (·.2)).getD c
    { m with ps := ps, pc := m.pc + 1 }.showPattern cfg inPlace
  | .text kind body =>
    if kind == 'a' then { m with queue := .text body.toList :: m.queue, pc := m.pc + 1 }
    else if kind == 'i' then { m with out := m.out.emit (insertedText cfg body), pc := m.pc + 1 }
    else
      let m := if m.active.getD m.pc false || body.isEmpty then m else { m with out := m.out.emit (insertedText cfg body) }
      (m.showEnd cfg inPlace).nextCycle cfg inPlace
  | .simple c =>
    let next := m.pc + 1
    let nl := cfg.delim
    if c == 'd' then (m.showEnd cfg inPlace).nextCycle cfg inPlace
    else if c == 'D' then
      if m.ps.contains nl then
        let m := Machine.flushQueue cfg m
        { m with ps := (m.ps.dropWhile (· != nl)).drop 1, pc := 0 }.showPattern cfg inPlace
      else m.nextCycle cfg inPlace
    else if c == 'p' then { m with out := m.out.line m.ps m.psNewline cfg.delimByte, pc := next }
    else if c == 'P' then
      if m.ps.contains nl then { m with out := m.out.line (m.ps.takeWhile (· != nl)) true cfg.delimByte, pc := next }
      else { m with out := m.out.line m.ps m.psNewline cfg.delimByte, pc := next }
    else if c == 'n' || c == 'N' then
      match m.input with
      | l :: rest =>
        if m.cur.last then { m with pc := cfg.prog.size }
        else
          let m := if c == 'n' && !cfg.quiet then { m with out := m.out.line m.ps m.psNewline cfg.delimByte } else m
          let m := Machine.flushQueue cfg m
          let ps := if c == 'n' then l.text else m.ps ++ [nl] ++ l.text
          { m.take inPlace l with ps := ps, psNewline := l.newline, input := rest, pc := next }.showPattern cfg inPlace
      | [] =>
        if c == 'n' then
          -- the line is printed, and the run ends without printing it again
          let m := if cfg.quiet then m else { m with out := m.out.line m.ps m.psNewline cfg.delimByte }
          (m.showEnd cfg inPlace).nextCycle cfg inPlace
        else if cfg.posix then { Machine.flushQueue cfg m with finished := true }
        else { m with pc := cfg.prog.size }
    -- `--debug` shows the hold space after `g`, not the pattern space
    else if c == 'g' then { m with ps := m.hold, psNewline := m.holdNewline, pc := next }.showHold cfg inPlace
    else if c == 'G' then
      { m with ps := m.ps ++ [nl] ++ m.hold, psNewline := m.holdNewline, pc := next }.showPattern cfg inPlace
    else if c == 'h' then { m with hold := m.ps, holdNewline := m.psNewline, pc := next }.showHold cfg inPlace
    else if c == 'H' then
      { m with hold := m.hold ++ [nl] ++ m.ps, holdNewline := m.psNewline, pc := next }.showHold cfg inPlace
    else if c == 'x' then
      let m := { m with ps := m.hold, hold := m.ps, psNewline := m.holdNewline, holdNewline := m.psNewline, pc := next }
      (m.showPattern cfg inPlace).showHold cfg inPlace
    else if c == 'z' then { m with ps := [], pc := next }.showPattern cfg inPlace
    else if c == '=' then { m with out := m.out.emit (enc (toString m.cur.number).toList ++ [cfg.delimByte]), pc := next }
    else if c == 'F' then { m with out := m.out.emit (enc m.cur.file.toList ++ [cfg.delimByte]), pc := next }
    else { m with pc := next }
  | .list w => { m with out := m.out.emit (listing (w.getD cfg.lineLength) cfg.delimByte m.ps), pc := m.pc + 1 }
  | .quit print code =>
    if print then
      let m := if cfg.quiet then m else { m with out := m.out.line m.ps m.psNewline cfg.delimByte }
      { Machine.flushQueue cfg m with quitCode := some (code.getD 0), finished := true }
    else { m with quitCode := some (code.getD 0), finished := true }
  | .branch kind name =>
    let target := labelTarget cfg.prog name
    match kind with
    | .always => { m with pc := target }
    | .ifReplaced => if m.replaced then { m with pc := target, replaced := false } else { m with pc := m.pc + 1 }
    | .unlessReplaced => if m.replaced then { m with pc := m.pc + 1, replaced := false } else { m with pc := target }
  | .readFile name => { m with queue := .file name :: m.queue, pc := m.pc + 1 }
  | .readLine name =>
    match nextLineOf cfg m name with
    | (some l, m) => { m with queue := .raw l :: m.queue, pc := m.pc + 1 }
    | (none, m) => { m with pc := m.pc + 1 }
  | .writeFile name => { m.writeTo name m.ps m.psNewline cfg.delimByte with pc := m.pc + 1 }
  | .writeFirst name =>
    { m.writeTo name (m.ps.takeWhile (· != cfg.delim)) true cfg.delimByte with pc := m.pc + 1 }
  | .retired c _ => { m with fault := some (.internal ("INTERNAL ERROR: Bad cmd " ++ c.toString)), finished := true }

/-- One step of a run: a command, or the end of the script. -/
def step (cfg : Setup) (inPlace : Bool) (m : Machine) : Machine :=
  if m.finished then m
  else
    match cfg.prog[m.pc]? with
    | none => m.endCycle cfg inPlace
    | some ins =>
      let m := if cfg.debug then
          let (line, depth) := showInstr m.depth ins
          { m.showDebug cfg inPlace (textBytes "COMMAND: ".toList ++ line) with depth := depth }
        else m
      match m.selects cfg m.pc ins.sel with
      | .error f => { m with fault := some f, finished := true }
      | .ok (true, m) => exec cfg inPlace m ins.op
      | .ok (false, m) =>
        match ins.op with
        | .blockStart close => { m with pc := close }
        | _ => { m with pc := m.pc + 1 }

/-- A run to its end, or `none` when the fuel runs out first. -/
def run (cfg : Setup) (inPlace : Bool) : Nat → Machine → Option Machine
  | 0, _ => none
  | k + 1, m => if m.finished then some m else run cfg inPlace k (step cfg inPlace m)

end Sed

namespace Tool

open Sed

/-- Where the pieces of a script come from. -/
inductive ScriptPart where
  /-- Text given with `-e`. -/
  | text (s : String)
  /-- A file given with `-f`. -/
  | file (name : String)

/-- Where an error of a script is, as the tool tells it: for a piece given with `-e` its number
among those and the characters of it read (zero when not told), for a file its name and the
line reached. -/
def scriptPlace (parts : List ScriptPart) (texts : List String) (k p : Nat) (shown : Bool) : String :=
  match parts[k - 1]? with
  | some (.file f) =>
    let read := ((texts[k - 1]?).getD "").toList.take p
    "file " ++ f ++ " line " ++ toString (read.count '\n' + 1) ++ ": "
  | _ =>
    let number := ((parts.take k).filter fun q => match q with
      | .text _ => true
      | .file _ => false).length
    "-e expression #" ++ toString number ++ ", char " ++ toString (if shown then p else 0) ++ ": "

/-- The options of `sed`. -/
structure SedOptions where
  /-- `-n`. -/
  quiet : Bool := false
  /-- The script's pieces, in order. -/
  parts : List ScriptPart := []
  /-- `-E`, `-r`. -/
  extended : Bool := false
  /-- `-s`. -/
  separate : Bool := false
  /-- `-i`, with the backup suffix. -/
  inPlace : Option String := none
  /-- `-l`. -/
  lineLength : Nat := 70
  /-- `-z`: lines end with NUL. -/
  nullData : Bool := false
  /-- `--posix`. -/
  posix : Bool := false
  /-- `--debug`. -/
  debug : Bool := false
  /-- `--help`. -/
  help : Bool := false
  /-- `--version`. -/
  version : Bool := false

/-- Why the options of `sed` are refused. -/
inductive SedUsage where
  /-- An unknown letter. -/
  | unknown (c : Char)
  /-- An unknown long option. -/
  | unknownLong (a : String)
  /-- A letter without its value. -/
  | missing (c : Char)
  /-- A long option without its value. -/
  | missingLong (a : String)
  /-- A bad line length. -/
  | badLength (v : String)

/-- A line length for `-l`. -/
def lineLengthOf (v : String) : Except SedUsage Nat :=
  if !v.isEmpty && v.toList.all Char.isDigit then .ok v.toNat! else .error (.badLength v)

/-- The letters of one option argument (after its `-`), with the arguments after it. -/
def sedLetters : List Char → List String → SedOptions → Except SedUsage (SedOptions × List String)
  | [], rest, o => .ok (o, rest)
  | c :: cs, rest, o =>
    let valued (f : String → Except SedUsage SedOptions) : Except SedUsage (SedOptions × List String) :=
      if !cs.isEmpty then (f (String.ofList cs)).map (·, rest)
      else
        match rest with
        | v :: more => (f v).map (·, more)
        | [] => .error (.missing c)
    match c with
    | 'n' => sedLetters cs rest { o with quiet := true }
    | 'E' | 'r' => sedLetters cs rest { o with extended := true }
    | 's' => sedLetters cs rest { o with separate := true }
    | 'u' => sedLetters cs rest o
    | 'z' => sedLetters cs rest { o with nullData := true }
    | 'i' => .ok ({ o with inPlace := some (String.ofList cs), separate := true }, rest)
    | 'e' => valued fun v => .ok { o with parts := o.parts ++ [.text v] }
    | 'f' => valued fun v => .ok { o with parts := o.parts ++ [.file v] }
    | 'l' => valued fun v => (lineLengthOf v).map fun n => { o with lineLength := n }
    | _ => .error (.unknown c)

/-- The long names of `sed`'s options. -/
def sedLongNames : List String :=
  ["quiet", "silent", "expression", "file", "regexp-extended", "separate", "in-place", "line-length",
    "unbuffered", "null-data", "posix", "debug", "sandbox", "follow-symlinks", "help", "version"]

/-- A long option (after its `--`), with the arguments after it. -/
def sedLong (a : String) (rest : List String) (o : SedOptions) : Except SedUsage (SedOptions × List String) :=
  let name := (a.drop 2).takeWhile (· != '=')
  let value : Option String := if ((a.drop 2).toString.contains '=') then some ((a.drop 2).dropWhile (· != '=') |>.drop 1).toString else none
  let full := sedLongNames.filter fun n => n.startsWith name.toString
  let chosen := if sedLongNames.contains name.toString then [name.toString] else full
  match chosen with
  | [n] =>
    let valued (f : String → Except SedUsage SedOptions) : Except SedUsage (SedOptions × List String) :=
      match value with
      | some v => (f v).map (·, rest)
      | none =>
        match rest with
        | v :: more => (f v).map (·, more)
        | [] => .error (.missingLong ("--" ++ n))
    if n == "quiet" || n == "silent" then .ok ({ o with quiet := true }, rest)
    else if n == "expression" then valued fun v => .ok { o with parts := o.parts ++ [.text v] }
    else if n == "file" then valued fun v => .ok { o with parts := o.parts ++ [.file v] }
    else if n == "regexp-extended" then .ok ({ o with extended := true }, rest)
    else if n == "separate" then .ok ({ o with separate := true }, rest)
    else if n == "in-place" then .ok ({ o with inPlace := some (value.getD ""), separate := true }, rest)
    else if n == "line-length" then valued fun v => (lineLengthOf v).map fun k => { o with lineLength := k }
    else if n == "null-data" then .ok ({ o with nullData := true }, rest)
    else if n == "posix" then .ok ({ o with posix := true }, rest)
    else if n == "debug" then .ok ({ o with debug := true }, rest)
    else if n == "help" then .ok ({ o with help := true }, rest)
    else if n == "version" then .ok ({ o with version := true }, rest)
    else .ok (o, rest)
  | _ => .error (.unknownLong a)

/-- The options and operands of `sed`, options anywhere before `--`. The fuel bounds the
arguments. -/
def sedOptions : Nat → List String → SedOptions → List String → Except SedUsage (SedOptions × List String)
  | 0, args, o, acc => .ok (o, acc ++ args)
  | _, [], o, acc => .ok (o, acc)
  | k + 1, a :: rest, o, acc =>
    if a == "--" then .ok (o, acc ++ rest)
    else
      match a.toList with
      | '-' :: '-' :: _ =>
        match sedLong a rest o with
        | .ok (o, rest) => sedOptions k rest o acc
        | .error e => .error e
      | '-' :: c :: cs =>
        match sedLetters (c :: cs) rest o with
        | .ok (o, rest) => sedOptions k rest o acc
        | .error e => .error e
      | _ => sedOptions k rest o (acc ++ [a])

/-- How `sed` is used. -/
def sedUsage (cmd : String) : String :=
  "Usage: " ++ cmd ++ " [OPTION]... \x7bscript-only-if-no-other-script\x7d [input-file]...\n\n" ++
  "  -n, --quiet, --silent\n                 suppress automatic printing of pattern space\n" ++
  "      --debug\n                 annotate program execution\n" ++
  "  -e script, --expression=script\n                 add the script to the commands to be executed\n" ++
  "  -f script-file, --file=script-file\n                 add the contents of script-file to the commands to be executed\n" ++
  "  --follow-symlinks\n                 follow symlinks when processing in place\n" ++
  "  -i[SUFFIX], --in-place[=SUFFIX]\n                 edit files in place (makes backup if SUFFIX supplied)\n" ++
  "  -l N, --line-length=N\n                 specify the desired line-wrap length for the `l' command\n" ++
  "  --posix\n                 disable all GNU extensions.\n" ++
  "  -E, -r, --regexp-extended\n                 use extended regular expressions in the script\n                 (for portability use POSIX -E).\n" ++
  "  -s, --separate\n                 consider files as separate rather than as a single\n                 continuous long stream.\n" ++
  "      --sandbox\n                 operate in sandbox mode (disable e/r/w commands).\n" ++
  "  -u, --unbuffered\n                 load minimal amounts of data from the input files and flush\n                 the output buffers more often\n" ++
  "  -z, --null-data\n                 separate lines by NUL characters\n" ++
  "      --help     display this help and exit\n" ++
  "      --version  output version information and exit\n\n" ++
  "If no -e, --expression, -f, or --file option is given, then the first\n" ++
  "non-option argument is taken as the sed script to interpret.  All\n" ++
  "remaining arguments are names of input files; if no input files are\n" ++
  "specified, then the standard input is read.\n\n" ++
  "GNU sed home page: <https://www.gnu.org/software/sed/>.\n" ++
  "General help using GNU software: <https://www.gnu.org/gethelp/>.\n"

/-- The lines of the operands: the lines, the error text, whether an operand failed, whether
standard input was read, and the operands read as files (for `-i`). -/
def sedInput (cmd : String) (files : List String) (input : List UInt8) (ws : Workspace) (o : SedOptions) :
    List Line × List UInt8 × Bool × Bool × List (Nat × String × List UInt8) :=
  let inPlace := o.inPlace.isSome
  let read := files.zipIdx.foldl (fun (acc : List (Nat × String × List UInt8) × List UInt8 × Bool × Bool) (f, j) =>
    let (got, err, bad, usedIn) := acc
    if f == "-" && !inPlace then
      (got ++ [(j, "-", if usedIn then [] else input)], err, bad, true)
    else
      match nodeAt ws f with
      | .ok (_, .file bs) => (got ++ [(j, f, bs)], err, bad, usedIn)
      | .ok (_, .sink) => (if inPlace then got else got ++ [(j, f, [])],
          if inPlace then err ++ errLine cmd ("couldn't edit " ++ f ++ ": not a regular file") else err, bad || inPlace, usedIn)
      | .ok (_, .dir) =>
        (got, err ++ errLine cmd (if inPlace then "couldn't edit " ++ f ++ ": not a regular file"
          else "read error on " ++ f ++ ": Is a directory"), true, usedIn)
      | .error e => (got, err ++ errLine cmd ("can't read " ++ f ++ ": " ++ IoError.text e), true, usedIn))
    ([], [], false, false)
  let (got, err, bad, usedIn) := read
  let delim : UInt8 := if o.nullData then 0 else 10
  let split (bs : List UInt8) : List (List Char × Bool) :=
    (recordsWith delim (bs.length + 1) bs).map fun l =>
      if l.getLast? == some delim then (Utf8.decodeKeeping l.dropLast, true) else (Utf8.decodeKeeping l, false)
  let perFile := got.map fun (j, f, bs) => (j, f, split bs)
  let total := (perFile.map fun (_, _, ls) => ls.length).foldl (· + ·) 0
  let (lines, _, _) := perFile.foldl (fun (acc : List Line × Nat × Nat) (j, f, ls) =>
    let (out, before, seen) := acc
    let base := if o.separate then 0 else before
    let made := ls.zipIdx.map fun ((t, nl), k) =>
      { text := t, newline := nl, number := base + k + 1, file := f, source := j,
        last := if o.separate then k + 1 == ls.length else seen + k + 1 == total : Line }
    (out ++ made, before + ls.length, seen + ls.length)) ([], 0, 0)
  (lines, err, bad, usedIn, got)

/-- The names of the files a script writes with `w`. -/
def writtenFiles (prog : Array Instr) : List String :=
  prog.toList.foldl (fun acc i =>
    let name := match i.op with
      | .writeFile n => some n
      | .writeFirst n => some n
      | .subst s => s.write
      | _ => none
    match name with
    | some n => if acc.contains n || n == "/dev/stdout" || n == "/dev/stderr" then acc else acc ++ [n]
    | none => acc) []

/-- `sed [-n] [-e SCRIPT]... [-f FILE]... [-E] [-s] [-i[SUFFIX]] [SCRIPT] [FILE...]`. -/
def sed (cmd : String) (args : List String) (input : List UInt8) (ws : Workspace) : ToolRun :=
  let usage := sedUsage cmd
  let refuse (msg : String) : ToolRun := { ws := ws, err := bytes (cmd ++ ": " ++ msg ++ "\n" ++ usage), status := 1 }
  match sedOptions (args.length + 1) args {} [] with
  | .error (.unknown c) => refuse ("invalid option -- " ++ quote c.toString)
  | .error (.unknownLong a) => refuse ("unrecognized option " ++ quote a)
  | .error (.missing c) => refuse ("option requires an argument -- " ++ quote c.toString)
  | .error (.missingLong a) => refuse ("option " ++ quote a ++ " requires an argument")
  | .error (.badLength v) => { ws := ws, err := errLine cmd ("invalid line length: " ++ v), status := 1 }
  | .ok (o, operands) =>
    if o.help then { ws := ws, out := bytes usage }
    else if o.version then { ws := ws, out := bytes (cmd ++ " (GNU sed) 4.9\n") }
    else
    let (parts, files) := if o.parts.isEmpty then
        match operands with
        | s :: fs => ([ScriptPart.text s], fs)
        | [] => ([], [])
      else (o.parts, operands)
    if parts.isEmpty then { ws := ws, err := bytes usage, status := 1 }
    else
    let texts : Except String (List String) := parts.mapM fun p =>
      match p with
      | .text s => .ok s
      | .file f =>
        match nodeAt ws f with
        | .ok (_, .file bs) => .ok (String.ofList (Utf8.decodeKeeping bs))
        | _ => .error ("couldn't open file " ++ f ++ ": No such file or directory")
    match texts with
    | .error msg => { ws := ws, err := errLine cmd msg, status := 4 }
    | .ok texts =>
    match Sed.read { extended := o.extended, posix := o.posix } texts with
    | .error (.at_ k p shown msg) =>
      { ws := ws, err := errLine cmd (scriptPlace parts texts k p shown ++ msg), status := 1 }
    | .error (.noLabel n) => { ws := ws, err := errLine cmd ("can't find label for jump to `" ++ n ++ "'"), status := 4 }
    | .ok prog =>
      if o.inPlace.isSome && files.isEmpty then { ws := ws, err := errLine cmd "no input files", status := 1 }
      else
      let files := if files.isEmpty then ["-"] else files
      let (lines, err, bad, usedIn, got) := sedInput cmd files input ws o
      let inPlace := o.inPlace.isSome
      -- the files of `w` are emptied before the run
      let outFiles := writtenFiles prog.instrs
      let delim : Char := if o.nullData then Char.ofNat 0 else '\n'
      let cfg : Setup :=
        { prog := prog.instrs, quiet := o.quiet || prog.quiet, lineLength := o.lineLength, ws := ws, delim,
          posix := o.posix, debug := o.debug }
      let size := prog.instrs.size
      let start : Machine :=
        { cur := lines.headD default, input := lines, writes := outFiles.map (·, {}),
          active := (prog.instrs.map fun i =>
            match i.sel.first, i.sel.second with
            | some (.line 0), some _ => true
            | _, _ => false),
          ends := Array.replicate size 0 }
      let chars := (lines.map (·.text.length)).foldl (· + ·) 0
      let fuel := 200000 + 64 * (chars + lines.length + 1) * (size + 1)
      match run cfg inPlace fuel (Machine.nextCycle cfg inPlace start) with
      | none => { ws := ws, err := err, forever := true, readsInput := usedIn }
      | some m =>
        let edited := if inPlace && !lines.isEmpty then m.edited ++ [(m.cur.source, m.out.bytes)] else m.edited
        let ws1 := outFiles.foldl (fun w f =>
          let bs := ((m.writes.find? (·.1 == f)).map (·.2.bytes)).getD []
          match w.target f >>= fun p => w.write p bs with
          | .ok w => w
          | .error _ => w) ws
        let ws2 := if inPlace then
            got.foldl (fun w (j, f, old) =>
              let new := ((edited.find? (·.1 == j)).map (·.2)).getD (if lines.any (·.source == j) then [] else old)
              let w := match o.inPlace with
                | some suffix =>
                  if suffix.isEmpty then w
                  else match w.target (f ++ suffix) >>= fun p => w.write p old with
                    | .ok w => w
                    | .error _ => w
                | none => w
              match w.target f >>= fun p => w.write p new with
              | .ok w => w
              | .error _ => w) ws1
          else ws1
        let faultErr := match m.fault with
          | some .noPreviousRegex =>
            let last := texts.getLastD ""
            errLine cmd (scriptPlace parts texts parts.length last.length false ++ "no previous regular expression")
          | some (.internal msg) => errLine cmd msg
          | none => []
        let status := match m.fault, m.quitCode with
          | some .noPreviousRegex, _ => 1
          | some (.internal _), _ => 4
          | none, some c => c
          | none, none => if bad then 2 else 0
        let listing := if o.debug then showProgram prog.instrs else []
        { ws := ws2, out := listing ++ (if inPlace then m.shown else m.out.bytes), err := err ++ m.err ++ faultErr,
          status := status, readsInput := usedIn }

end Tool

end DefUseCoverage.Shell
