import DefUseCoverage.Shell.RegexRead
/-!
# Stream editor scripts

A script of the stream editor is a list of commands, each with up to two addresses and an
optional `!` that inverts the selection. Commands are separated by newlines or `;`; blocks
`{ ... }` group them. A script is read into a flat program: a block start holds the index of
its end, so that an unselected block is jumped over; branches name their label.

Addresses are line numbers, `$` (the last line), `/regex/` (or `\cregexc`, with flags `I`
and `M`), `first~step`, and, as a second address, `+N` (the next `N` lines) and `~N` (up to the
next multiple of `N`); `0,/regex/` lets the regex end the range on the first line.

The commands: `s/regex/replacement/flags` (flags `g`, `p`, a number, `i`, `m`, `w file`),
`y/source/dest/`, `a`, `i`, `c` with text, `d`, `D`, `p`, `P`, `n`, `N`, `g`, `G`, `h`, `H`,
`x`, `z`, `=`, `l`, `F`, `q` and `Q` with an exit code, `b`, `t`, `T` with a label, `:label`,
`r file`, `R file` (the file's next line), `w file`, `W file` (the first line of the pattern
space), `v` (a version check) and `#` comments. A replacement may hold `&`, `\1` to `\9`, and
the case conversions `\U`, `\L`, `\u`, `\l`, `\E`.

Regexes, replacements, the text of `a`, `i`, `c` and the strings of `y` know the character
escapes `\n`, `\t`, `\a`, `\f`, `\v`, `\r`, `\cX` (a control character) and `\dNNN`, `\oNNN`,
`\xHH` (a byte by its decimal, octal or hexadecimal value). A byte escape in a regex stands for
its character as if written there, so `\x2e` is a `.` that matches anything; in a replacement
it is plain text, so `\x26` is an `&` and not the match.

With `--posix`, the commands and flags beyond POSIX are unknown, the case conversions are
plain letters, and `a`, `i`, `c` need their backslash.

A script may come in several pieces (one per `-e`); they are read as one text joined by
newlines, and an error is placed in its piece: the piece's number and the character in it.
The character is the count of characters read when the error was found, as the tool reads
them: after an address it has read the next one, and after a regex's flags the next one too.
-/

namespace DefUseCoverage.Shell.Sed

/-- A regex of a script: the regex, the text it was read from, and its flags. -/
structure ScriptRegex where
  /-- The regex; `none` for the empty one, which stands for the last regex used. -/
  regex : Option Regex
  /-- Its text, after the character escapes. -/
  text : List Char
  /-- `I`: letters match in either case. -/
  ignoreCase : Bool := false
  /-- `M`: `^` and `$` also match next to newlines, which `.` and `[^...]` do not match. -/
  multiline : Bool := false
deriving Inhabited

/-- An address. -/
inductive Addr where
  /-- A line number; 0 only before a regex end. -/
  | line (n : Nat)
  /-- The last line. -/
  | last
  /-- Lines matching a regex. -/
  | regex (r : ScriptRegex)
  /-- Lines `first`, `first + step`, ... -/
  | step (first step : Nat)
deriving Inhabited

/-- The end of a range. -/
inductive RangeEnd where
  /-- An address. -/
  | addr (a : Addr)
  /-- The next `n` lines. -/
  | plus (n : Nat)
  /-- Up to the next line number after the first that is a multiple of `n`. -/
  | multiple (n : Nat)
deriving Inhabited

/-- Which lines a command applies to. -/
structure Selector where
  /-- The first address, if any. -/
  first : Option Addr := none
  /-- The end of the range, if any. -/
  second : Option RangeEnd := none
  /-- `!`: the lines not selected. -/
  negate : Bool := false
deriving Inhabited

/-- A piece of a replacement. -/
inductive ReplPiece where
  /-- Literal text. -/
  | text (s : String)
  /-- The whole match (`&` or `\0`), or a group (`\1` to `\9`). -/
  | group (k : Nat)
  /-- A case conversion: `U`, `L` (until `E`), `u`, `l` (the next character), `E`. -/
  | caseMark (c : Char)
deriving Inhabited, DecidableEq

/-- Which branches are taken. -/
inductive BranchKind where
  /-- Always (`b`). -/
  | always
  /-- After a substitution (`t`). -/
  | ifReplaced
  /-- Without a substitution (`T`). -/
  | unlessReplaced
deriving DecidableEq, Inhabited

/-- A substitution. -/
structure Subst where
  /-- The regex, with the flags `i` and `m`. -/
  regex : ScriptRegex
  /-- The replacement. -/
  replacement : List ReplPiece
  /-- `g`: every match from the `nth` on. -/
  global : Bool := false
  /-- A number: which match is replaced first (from one; the first without one). -/
  nth : Option Nat := none
  /-- `p`: whether the result is printed. -/
  print : Bool := false
  /-- `w file`: where the result is also written. -/
  write : Option String := none
deriving Inhabited

/-- A command. -/
inductive Op where
  /-- The start of a block, with the index of its end. -/
  | blockStart (close : Nat)
  /-- The end of a block. -/
  | blockEnd
  /-- A substitution. -/
  | subst (s : Subst)
  /-- Transliteration. -/
  | translit (pairs : List (Char × Char))
  /-- `a`, `i`, `c`: text after, before, or instead of the line. -/
  | text (kind : Char) (body : String)
  /-- A command without arguments: `d D p P n N g G h H x z = F`. -/
  | simple (c : Char)
  /-- `l`, with a line length. -/
  | list (width : Option Nat)
  /-- `q` (printing the line) or `Q`, with an exit code. -/
  | quit (print : Bool) (code : Option Nat)
  /-- A branch to a label (the end of the script when empty). -/
  | branch (kind : BranchKind) (label : String)
  /-- A label. -/
  | label (name : String)
  /-- `r file`. -/
  | readFile (name : String)
  /-- `R file`: the next line of the file. -/
  | readLine (name : String)
  /-- `w file`. -/
  | writeFile (name : String)
  /-- `W file`: the first line of the pattern space. -/
  | writeFirst (name : String)
  /-- A command that is still read but no longer runs (`L`, with its number): running it stops
  the run with an internal error. -/
  | retired (c : Char) (arg : Option Nat)
deriving Inhabited

/-- A command with its selector. -/
structure Instr where
  /-- Which lines it applies to. -/
  sel : Selector
  /-- What it does. -/
  op : Op
deriving Inhabited

/-- The options that change how a script is read. -/
structure ScriptMode where
  /-- `-E`: extended regexes. -/
  extended : Bool := false
  /-- `--posix`: only what POSIX describes. -/
  posix : Bool := false

/-- The regex syntax of a mode. -/
def ScriptMode.regexSyntax (m : ScriptMode) : RegexSyntax :=
  if m.posix then RegexSyntax.sedPosix m.extended
  else if m.extended then RegexSyntax.sedExtended else RegexSyntax.sedBasic

/-- Why a script is refused: the message and the character where it was found, counted from
one in the joined script (zero for none). -/
structure ScriptError where
  /-- Where. -/
  pos : Nat
  /-- The message. -/
  msg : String
  /-- Whether the character is told; an unclosed block is placed at its `{` but tells none. -/
  charShown : Bool := true

/-! ## Reading scripts -/

/-- A script being read: the characters left and the position of the first of them. -/
structure Cursor where
  /-- The characters left. -/
  rest : List Char
  /-- The position of the next character, from one. -/
  pos : Nat

/-- White space as the tool reads it: blanks, newlines, and the vertical tab, form feed and
carriage return. -/
def isSpace (d : Char) : Bool :=
  d == ' ' || d == '\t' || d == '\n' || d.toNat == 11 || d.toNat == 12 || d == '\r'

namespace Cursor

/-- The cursor past `k` characters. -/
def skip (c : Cursor) (k : Nat) : Cursor := ⟨c.rest.drop k, c.pos + min k c.rest.length⟩

/-- The cursor past blanks (not newlines). -/
def skipBlanks (c : Cursor) : Cursor :=
  c.skip (c.rest.takeWhile fun d => d == ' ' || d == '\t').length

/-- The cursor past white space and semicolons. -/
def skipSeparators (c : Cursor) : Cursor :=
  c.skip (c.rest.takeWhile fun d => isSpace d || d == ';').length

/-- The next character. -/
def peek (c : Cursor) : Option Char := c.rest.head?

end Cursor

/-- The error at the last character read before a cursor. -/
def errAt (c : Cursor) (msg : String) : ScriptError := { pos := c.pos - 1, msg }

/-- Digits at the cursor: their value and the cursor after them. -/
def number (c : Cursor) : Option (Nat × Cursor) :=
  let ds := c.rest.takeWhile Char.isDigit
  if ds.isEmpty then none else some (ds.foldl (fun a d => a * 10 + (d.toNat - 48)) 0, c.skip ds.length)

/-- Text up to an unescaped delimiter, which may not be a newline: a backslash before the
delimiter stands for the delimiter (in a replacement only when the delimiter is not `&`), and a
backslash before a newline for the newline; in a regex `\n` is a newline. Other escapes stay
for the regex or the replacement to read. The text and the cursor after the delimiter, or the
cursor where the text stopped. The fuel bounds the characters. -/
def delimited (delim : Char) (forRegex : Bool) : Nat → Cursor → List Char → Except Cursor (List Char × Cursor)
  | 0, c, _ => .error c
  | k + 1, c, acc =>
    match c.rest with
    | [] => .error c
    | '\\' :: d :: _ =>
      if d == delim && (forRegex || d != '&') then delimited delim forRegex k (c.skip 2) (acc ++ [d])
      else if d == '\n' then delimited delim forRegex k (c.skip 2) (acc ++ ['\n'])
      else if forRegex && d == 'n' then delimited delim forRegex k (c.skip 2) (acc ++ ['\n'])
      else delimited delim forRegex k (c.skip 2) (acc ++ ['\\', d])
    | ['\\'] => .error (c.skip 1)
    | d :: _ =>
      if d == delim then .ok (acc, c.skip 1)
      else if d == '\n' then .error c
      else delimited delim forRegex k (c.skip 1) (acc ++ [d])

/-! ## Character escapes -/

/-- The value of a hexadecimal digit. -/
def hexValue (c : Char) : Option Nat :=
  if c.isDigit then some (c.toNat - 48)
  else if 'a' ≤ c ∧ c ≤ 'f' then some (c.toNat - 87)
  else if 'A' ≤ c ∧ c ≤ 'F' then some (c.toNat - 55)
  else none

/-- The digits of a numeric escape in a base, at most `k` of them: how many there are, the
value they add to `acc`, and the characters after them. -/
def escapeDigits (base : Nat) : Nat → Nat → List Char → Nat × Nat × List Char
  | 0, acc, cs => (0, acc, cs)
  | _ + 1, acc, [] => (0, acc, [])
  | k + 1, acc, c :: cs =>
    match hexValue c with
    | some d =>
      if d < base then
        let (n, v, rest) := escapeDigits base k (acc * base + d) cs
        (n + 1, v, rest)
      else (0, acc, c :: cs)
    | none => (0, acc, c :: cs)

/-- A character escape, read from the characters after its backslash. -/
inductive CharEscape where
  /-- The escape stands for a character; the characters after it. -/
  | char (c : Char) (rest : List Char)
  /-- `\c` before a backslash that does not escape another backslash. -/
  | recursive
  /-- Not a character escape. -/
  | other

/-- The control character `\cX` stands for: `X` in upper case with its bit 6 flipped. -/
def controlOf (x : Char) : Char :=
  if x.toNat < 128 then Utf8.byteChar (x.toUpper.toNat ^^^ 64) else x

/-- A numeric escape after its letter: the byte of its digits (as many as a byte can need: two
in base 16, three in bases 8 and 10; the value is taken modulo 256), or the letter itself when
no digit follows. -/
def numericEscape (base : Nat) (letter : Char) (cs : List Char) : CharEscape :=
  let (n, v, rest) := escapeDigits base (if base == 16 then 2 else 3) 0 cs
  if n == 0 then .char letter cs else .char (Utf8.byteChar v) rest

/-- What the characters after a backslash stand for as a character escape. `\c` at the end
stands for a backslash, and `\c\\` for the control character of the backslash. -/
def charEscape : List Char → CharEscape
  | 'a' :: rest => .char (Char.ofNat 7) rest
  | 'f' :: rest => .char (Char.ofNat 12) rest
  | 'n' :: rest => .char '\n' rest
  | 'r' :: rest => .char '\r' rest
  | 't' :: rest => .char '\t' rest
  | 'v' :: rest => .char (Char.ofNat 11) rest
  | 'c' :: '\\' :: '\\' :: rest => .char (controlOf '\\') rest
  | 'c' :: '\\' :: _ => .recursive
  | 'c' :: x :: rest => .char (controlOf x) rest
  | ['c'] => .char '\\' []
  | 'd' :: rest => numericEscape 10 'd' rest
  | 'o' :: rest => numericEscape 8 'o' rest
  | 'x' :: rest => numericEscape 16 'x' rest
  | _ => .other

/-- The message for `\c` before an escape. -/
def recursiveEscapeMessage : String := "recursive escaping after \\c not allowed"

/-- A regex's text after its character escapes: each stands for its character as if written
there (a backslash as an escaped one), and other escapes stay for the regex; `none` for `\c`
before an escape. The fuel bounds the characters. -/
def regexEscapes : Nat → List Char → Option (List Char)
  | 0, cs => some cs
  | _ + 1, [] => some []
  | k + 1, '\\' :: d :: rest =>
    match charEscape (d :: rest) with
    | .char c after => ((if c == '\\' then ['\\', '\\'] else [c]) ++ ·) <$> regexEscapes k after
    | .recursive => none
    | .other => (['\\', d] ++ ·) <$> regexEscapes k rest
  | k + 1, c :: rest => (c :: ·) <$> regexEscapes k rest

/-- The text of `y` after its escapes: the character escapes, `\\` for a backslash, and a
backslash before any other character for that character. The fuel bounds the characters. -/
def plainEscapes : Nat → List Char → List Char
  | 0, cs => cs
  | _ + 1, [] => []
  | k + 1, '\\' :: d :: rest =>
    match charEscape (d :: rest) with
    | .char c after => c :: plainEscapes k after
    | _ => d :: plainEscapes k rest
  | k + 1, c :: rest => c :: plainEscapes k rest

/-! ## Addresses -/

/-- A regex of a script from its text and flags, `none` for the empty one; an error is placed
at the cursor. -/
def scriptRegex (mode : ScriptMode) (text : List Char) (ic ml : Bool) (at_ : Cursor) :
    Except ScriptError ScriptRegex :=
  match regexEscapes (text.length + 1) text with
  | none => .error (errAt at_ recursiveEscapeMessage)
  | some cs =>
    let cs := Utf8.rejoin cs
    if cs.isEmpty then .ok { regex := none, text := [], ignoreCase := ic, multiline := ml }
    else
      match Regex.parse mode.regexSyntax (String.ofList cs) with
      | .ok r => .ok { regex := some r, text := cs, ignoreCase := ic, multiline := ml }
      | .error e => .error (errAt at_ e.message)

/-- The flags `I` and `M` after an address regex, each after blanks: whether each was given,
and the cursor after the blanks that follow them. With `--posix` there are none. The fuel
bounds the flags. -/
def addressFlags (mode : ScriptMode) : Nat → Bool → Bool → Cursor → Bool × Bool × Cursor
  | 0, ic, ml, c => (ic, ml, c)
  | k + 1, ic, ml, c =>
    let c := c.skipBlanks
    if mode.posix then (ic, ml, c)
    else
      match c.rest with
      | 'I' :: _ => addressFlags mode k true ml (c.skip 1)
      | 'M' :: _ => addressFlags mode k ic true (c.skip 1)
      | _ => (ic, ml, c)

/-- An address at the cursor, if one starts there: `$`, a line number (with `~step`; a step
of zero leaves the line number), a regex with its flags, or `+N` and `~N`, which only a range
may end with (without a number, zero). The cursor after a line number is past the blanks that
follow it. -/
def address (mode : ScriptMode) (c : Cursor) : Except ScriptError (Option (RangeEnd × Cursor)) :=
  match c.rest with
  | '$' :: _ => .ok (some (.addr .last, c.skip 1))
  | d :: _ =>
    if d.isDigit then
      match number c with
      | some (n, c) =>
        let c := c.skipBlanks
        match c.rest with
        | '~' :: _ =>
          if mode.posix then .ok (some (.addr (.line n), c))
          else
            let c := (c.skip 1).skipBlanks
            match number c with
            | some (s, c) => .ok (some (.addr (if s > 0 then .step n s else .line n), c))
            | none => .ok (some (.addr (.line n), c))
        | _ => .ok (some (.addr (.line n), c))
      | none => .ok none
    else if (d == '+' || d == '~') && !mode.posix then
      let c := (c.skip 1).skipBlanks
      let (n, c) := (number c).getD (0, c)
      .ok (some (if d == '+' then .plus n else .multiple n, c))
    else if d == '/' || d == '\\' then
      let (delim, c) := if d == '\\' then ((c.rest.drop 1).headD '/', c.skip 2) else ('/', c.skip 1)
      match delimited delim true (c.rest.length + 1) c [] with
      | .error stop => .error (errAt stop "unterminated address regex")
      | .ok (body, c) =>
        let (ic, ml, c) := addressFlags mode 4 false false c
        (scriptRegex mode body ic ml c).map fun r => some (.addr (.regex r), c)
    else .ok none
  | [] => .ok none

/-- A selector at the cursor: addresses and `!`. After the addresses the next character is
read, so an error about them is placed past it. -/
def selector (mode : ScriptMode) (c : Cursor) : Except ScriptError (Selector × Cursor) := do
  let bang (sel : Selector) (c : Cursor) : Except ScriptError (Selector × Cursor) :=
    let c := c.skipBlanks
    match c.rest with
    | '!' :: _ =>
      let c := (c.skip 1).skipBlanks
      match c.rest with
      | '!' :: _ => .error (errAt (c.skip 1) "multiple `!'s")
      | _ => .ok ({ sel with negate := true }, c)
    | _ => .ok (sel, c)
  match ← address mode c with
  | none => bang {} c
  | some (.plus _, c) | some (.multiple _, c) => throw (errAt c "invalid usage of +N or ~N as first address")
  | some (.addr a, c) =>
    let c := c.skipBlanks
    let (second, c) ← match c.rest with
      | ',' :: _ =>
        let c := (c.skip 1).skipBlanks
        match ← address mode c with
        | some (e, c) => pure (some e, c)
        | none => throw (errAt (c.skip 1) "unexpected `,'")
      | _ => pure (none, c)
    let c := c.skipBlanks
    match a, second with
    | .line 0, some (.addr (.regex _)) =>
      if mode.posix then throw (errAt (c.skip 1) "invalid usage of line address 0")
    | .line 0, _ => throw (errAt (c.skip 1) "invalid usage of line address 0")
    | _, _ => pure ()
    bang { first := some a, second := second } c

/-! ## Commands -/

/-- The end of a command: blanks, then a separator, a `}`, a comment or the end. -/
def commandEnd (c : Cursor) : Except ScriptError Cursor :=
  let c := c.skipBlanks
  match c.rest with
  | [] => .ok c
  | d :: _ =>
    if d == ';' || d == '\n' then .ok (c.skip 1)
    else if d == '}' || d == '#' then .ok c
    else .error (errAt (c.skip 1) "extra characters after command")

/-- A label: after blanks, the text up to white space, a semicolon, a `}` or a `#`. -/
def labelArgument (c : Cursor) : String × Cursor :=
  let c := c.skipBlanks
  let body := c.rest.takeWhile fun d => !isSpace d && d != ';' && d != '}' && d != '#'
  (String.ofList body, c.skip body.length)

/-- A file name: after blanks, the rest of the line; the newline after it is read too. An empty
name is refused. -/
def fileArgument (c : Cursor) : Except ScriptError (String × Cursor) :=
  let c := c.skipBlanks
  let body := c.rest.takeWhile (· != '\n')
  let after := c.skip (body.length + 1)
  if body.isEmpty then .error (errAt after "missing filename in r/R/w/W commands")
  else .ok (String.ofList body, after)

/-- The text of `a`, `i` or `c` up to the end of its line: a backslash before a newline
continues the text on the next line, the character escapes stand for their characters, and a
backslash before another character stands for that character. The fuel bounds the
characters. -/
def textArgument : Nat → Cursor → List Char → List Char × Cursor
  | 0, c, acc => (acc, c)
  | k + 1, c, acc =>
    match c.rest with
    | [] => (acc, c)
    | '\n' :: _ => (acc, c.skip 1)
    | '\\' :: d :: rest =>
      match charEscape (d :: rest) with
      | .char ch after => textArgument k (c.skip (c.rest.length - after.length)) (acc ++ [ch])
      | _ => textArgument k (c.skip 2) (acc ++ [d])
    | ['\\'] => (acc, c.skip 1)
    | d :: _ => textArgument k (c.skip 1) (acc ++ [d])

/-- Text of a replacement, as a piece after the pieces so far; bytes put in by escapes are
joined into the characters they encode. -/
def flushText (acc : List ReplPiece) (cur : List Char) : List ReplPiece :=
  if cur.isEmpty then acc else acc ++ [.text (String.ofList (Utf8.rejoin cur))]

/-- The pieces of a replacement's text after `acc`, with the literal text `cur` not yet
flushed; `none` for `\c` before an escape. With `--posix` the case conversions are plain
letters. The fuel bounds the characters. -/
def replacementPieces (posix : Bool) : Nat → List Char → List ReplPiece → List Char → Option (List ReplPiece)
  | 0, _, acc, cur => some (flushText acc cur)
  | _ + 1, [], acc, cur => some (flushText acc cur)
  | k + 1, '&' :: rest, acc, cur => replacementPieces posix k rest (flushText acc cur ++ [.group 0]) []
  | k + 1, '\\' :: d :: rest, acc, cur =>
    if d.isDigit then replacementPieces posix k rest (flushText acc cur ++ [.group (d.toNat - 48)]) []
    else if !posix && (d == 'U' || d == 'L' || d == 'u' || d == 'l' || d == 'E') then
      replacementPieces posix k rest (flushText acc cur ++ [.caseMark d]) []
    else
      match charEscape (d :: rest) with
      | .char c after => replacementPieces posix k after acc (cur ++ [c])
      | .recursive => none
      | .other => replacementPieces posix k rest acc (cur ++ [d])
  | k + 1, d :: rest, acc, cur => replacementPieces posix k rest acc (cur ++ [d])

/-- The largest group number in a regex. -/
def groupCount : Regex → Nat
  | .seq rs => rs.attach.foldl (fun m ⟨r, _⟩ => max m (groupCount r)) 0
  | .alt a b => max (groupCount a) (groupCount b)
  | .rep r _ _ => groupCount r
  | .group k r => max k (groupCount r)
  | _ => 0

/-- The flags of a substitution so far: the substitution, and the flags `i` and `m`. -/
structure SubstFlags where
  /-- The substitution. -/
  subst : Subst
  /-- `i`. -/
  ignoreCase : Bool := false
  /-- `m`. -/
  multiline : Bool := false

/-- The flags of a substitution and the end of the command. With `--posix`, `i`, `m` and `e`
are unknown. The fuel bounds the flags. -/
def substFlags (posix : Bool) (f : SubstFlags) : Nat → Cursor → Except ScriptError (SubstFlags × Cursor)
  | 0, c => .ok (f, c)
  | k + 1, c =>
    let s := f.subst
    match c.rest with
    | [] => .ok (f, c)
    | d :: _ =>
      let unknown : Except ScriptError (SubstFlags × Cursor) := .error (errAt (c.skip 1) "unknown option to `s'")
      if d == 'g' then
        if s.global then .error (errAt (c.skip 1) "multiple `g' options to `s' command")
        else substFlags posix { f with subst := { s with global := true } } k (c.skip 1)
      else if d == 'p' then
        if s.print then .error (errAt (c.skip 1) "multiple `p' options to `s' command")
        else substFlags posix { f with subst := { s with print := true } } k (c.skip 1)
      else if d == 'i' || d == 'I' then
        if posix then unknown else substFlags posix { f with ignoreCase := true } k (c.skip 1)
      else if d == 'm' || d == 'M' then
        if posix then unknown else substFlags posix { f with multiline := true } k (c.skip 1)
      else if d == 'e' then
        if posix then unknown else substFlags posix f k (c.skip 1)
      else if d == ' ' || d == '\t' then substFlags posix f k (c.skip 1)
      else if d == 'w' then
        match fileArgument (c.skip 1) with
        | .ok (name, c) => .ok ({ f with subst := { s with write := some name } }, c)
        | .error e => .error e
      else if d.isDigit then
        match number c with
        | some (0, c) => .error (errAt c "number option to `s' command may not be zero")
        | some (n, c) =>
          if s.nth.isSome then .error (errAt c "multiple number options to `s' command")
          else substFlags posix { f with subst := { s with nth := some n } } k c
        | none => .ok (f, c)
      else if d == ';' || d == '\n' then .ok (f, c.skip 1)
      else if d == '}' || d == '#' then .ok (f, c)
      else unknown

/-- A substitution after its `s`. -/
def substitution (mode : ScriptMode) (c : Cursor) : Except ScriptError (Subst × Cursor) := do
  let some delim := c.peek | throw (errAt c "unterminated `s' command")
  if delim == '\n' || delim == '\\' then throw (errAt (c.skip 1) "unterminated `s' command")
  let c := c.skip 1
  let (pat, c) ← match delimited delim true (c.rest.length + 1) c [] with
    | .ok r => pure r
    | .error stop => throw (errAt stop "unterminated `s' command")
  let (repl, c) ← match delimited delim false (c.rest.length + 1) c [] with
    | .ok r => pure r
    | .error stop => throw (errAt stop "unterminated `s' command")
  let some pieces := replacementPieces mode.posix (repl.length + 1) repl [] []
    | throw (errAt c recursiveEscapeMessage)
  let (f, c) ← substFlags mode.posix { subst := { regex := default, replacement := pieces } } (c.rest.length + 1) c
  let re ← scriptRegex mode pat f.ignoreCase f.multiline c
  let groups := (re.regex.map groupCount).getD 9
  for p in pieces do
    match p with
    | .group k =>
      if k > groups then throw (errAt c ("invalid reference \\" ++ toString k ++ " on `s' command's RHS"))
    | _ => pure ()
  pure ({ f.subst with regex := re }, c)

/-- A transliteration after its `y`: pairs of a character and its image. -/
def transliteration (c : Cursor) : Except ScriptError (List (Char × Char) × Cursor) := do
  let some delim := c.peek | throw (errAt c "unterminated `y' command")
  let c := c.skip 1
  let (src, c) ← match delimited delim true (c.rest.length + 1) c [] with
    | .ok r => pure r
    | .error stop => throw (errAt stop "unterminated `y' command")
  let (dst, c) ← match delimited delim true (c.rest.length + 1) c [] with
    | .ok r => pure r
    | .error stop => throw (errAt stop "unterminated `y' command")
  let src := Utf8.rejoin (plainEscapes (src.length + 1) src)
  let dst := Utf8.rejoin (plainEscapes (dst.length + 1) dst)
  if src.length != dst.length then throw (errAt c "strings for `y' command are different lengths")
  let c ← commandEnd c
  pure (src.zip dst, c)

/-- Version numbers compared as the tool compares them: runs of digits by their value, other
characters by their code. -/
def versionAfter : Nat → List Char → List Char → Bool
  | 0, _, _ => false
  | _ + 1, [], _ => false
  | _ + 1, _ :: _, [] => true
  | k + 1, a :: as, b :: bs =>
    if a.isDigit && b.isDigit then
      let da := (a :: as).takeWhile Char.isDigit
      let db := (b :: bs).takeWhile Char.isDigit
      let va := da.foldl (fun n d => n * 10 + (d.toNat - 48)) 0
      let vb := db.foldl (fun n d => n * 10 + (d.toNat - 48)) 0
      if va != vb then va > vb
      else versionAfter k ((a :: as).drop da.length) ((b :: bs).drop db.length)
    else if a != b then a > b
    else versionAfter k as bs

/-- The version the `v` command compares with. -/
def toolVersion : List Char := "4.9".toList

/-- The number argument of `q`, `Q`, `l` and `L` (none with `--posix`) and the end of the
command. -/
def numberArgument (posix : Bool) (c : Cursor) : Except ScriptError (Option Nat × Cursor) := do
  let c := c.skipBlanks
  let (n, c) := if posix then (none, c) else
    match number c with
    | some (n, c) => (some n, c)
    | none => (none, c)
  let c ← commandEnd c
  pure (n, c)

/-- The instructions of a script from the cursor on, appended to `acc`, with the blocks still
open: the index of each start and the position of its `{`. The fuel bounds the commands. -/
def instructions (mode : ScriptMode) : Nat → Cursor → Array Instr → List (Nat × Nat) → Except ScriptError (Array Instr)
  | 0, _, acc, _ => .ok acc
  | k + 1, c, acc, opens => do
    let c := c.skipSeparators
    if c.rest.isEmpty then
      match opens with
      | [] => return acc
      | (_, at_) :: _ => throw { pos := at_, msg := "unmatched `\x7b'", charShown := false }
    let (sel, c) ← selector mode c
    let some cmd := c.peek | throw (errAt c "missing command")
    let c := c.skip 1
    let push (op : Op) : Array Instr := acc.push { sel, op }
    let noAddress (msg : String) : Except ScriptError Unit :=
      if sel.first.isSome then throw (errAt c msg) else pure ()
    let unknown : Except ScriptError (Array Instr) := throw (errAt c ("unknown command: `" ++ cmd.toString ++ "'"))
    if mode.posix && "eFvzLQTRW".toList.contains cmd then unknown
    else if mode.posix && "ail=r".toList.contains cmd && sel.second.isSome then
      throw (errAt c "command only uses one address")
    else if cmd == '{' then instructions mode k c (push (.blockStart 0)) ((acc.size, c.pos - 1) :: opens)
    else if cmd == '}' then
      match opens with
      | [] => throw (errAt c "unexpected `\x7d'")
      | (o, _) :: more =>
        noAddress "\x7d doesn't want any addresses"
        let acc := acc.modify o fun i => { i with op := .blockStart acc.size }
        let c ← commandEnd c
        instructions mode k c (acc.push { sel := {}, op := .blockEnd }) more
    else if cmd == '#' then
      noAddress "comments don't accept any addresses"
      let body := c.rest.takeWhile (· != '\n')
      instructions mode k (c.skip body.length) acc opens
    else if cmd == 'v' then
      let (name, c) := labelArgument c
      if !name.isEmpty && versionAfter (name.length + 1) name.toList toolVersion then
        throw (errAt c "expected newer version of sed")
      instructions mode k c acc opens
    else if cmd == ':' then
      noAddress ": doesn't want any addresses"
      let (name, c) := labelArgument c
      if name.isEmpty then throw (errAt c "\":\" lacks a label")
      instructions mode k c (push (.label name)) opens
    else if cmd == 'a' || cmd == 'i' || cmd == 'c' then
      let c := c.skipBlanks
      if c.rest.isEmpty then throw (errAt c "expected \\ after `a', `c' or `i'")
      match c.rest with
      | ['\\'] => instructions mode k (c.skip 1) (push (.text cmd "")) opens
      | _ =>
        if mode.posix && c.peek != some '\\' then throw (errAt (c.skip 1) "expected \\ after `a', `c' or `i'")
        let c := match c.rest with
          | '\\' :: '\n' :: _ => c.skip 2
          | '\\' :: _ => c.skip 1
          | _ => c
        let (body, c) := textArgument (c.rest.length + 1) c []
        instructions mode k c (push (.text cmd (String.ofList (body ++ ['\n'])))) opens
    else if cmd == 's' then
      let (s, c) ← substitution mode c
      instructions mode k c (push (.subst s)) opens
    else if cmd == 'y' then
      let (pairs, c) ← transliteration c
      instructions mode k c (push (.translit pairs)) opens
    else if cmd == 'b' || cmd == 't' || cmd == 'T' then
      let (name, c) := labelArgument c
      let kind := if cmd == 'b' then BranchKind.always else if cmd == 't' then .ifReplaced else .unlessReplaced
      instructions mode k c (push (.branch kind name)) opens
    else if cmd == 'q' || cmd == 'Q' then
      if sel.second.isSome then throw (errAt c "command only uses one address")
      let (code, c) ← numberArgument mode.posix c
      instructions mode k c (push (.quit (cmd == 'q') code)) opens
    else if cmd == 'l' then
      let (w, c) ← numberArgument mode.posix c
      instructions mode k c (push (.list w)) opens
    else if cmd == 'L' then
      let (w, c) ← numberArgument mode.posix c
      instructions mode k c (push (.retired 'L' w)) opens
    else if cmd == 'r' || cmd == 'R' || cmd == 'w' || cmd == 'W' then
      let (name, c) ← fileArgument c
      let op := if cmd == 'r' then Op.readFile name else if cmd == 'R' then .readLine name
        else if cmd == 'w' then .writeFile name else .writeFirst name
      instructions mode k c (push op) opens
    else if "=dDpPnNgGhHxzF".toList.contains cmd then
      let c ← commandEnd c
      instructions mode k c (push (.simple cmd)) opens
    else unknown

/-- A label that a branch names but no `:` defines. -/
def missingLabel (prog : Array Instr) : Option String :=
  let defined := prog.toList.filterMap fun i =>
    match i.op with
    | .label n => some n
    | _ => none
  prog.toList.findSome? fun i =>
    match i.op with
    | .branch _ n => if n.isEmpty || defined.contains n then none else some n
    | _ => none

/-- A script that was read: its instructions, and whether it starts with the line `#n`. -/
structure Program where
  /-- The instructions. -/
  instrs : Array Instr
  /-- Whether the script starts with the line `#n`, which turns printing off. -/
  quiet : Bool

/-- Why a script is refused, as the tool says it. -/
inductive ReadError where
  /-- An error in a piece: its number (from one), the characters of it read, whether the tool
  tells that count, and the message. -/
  | at_ (piece pos : Nat) (charShown : Bool) (msg : String)
  /-- A branch to a label that is nowhere. -/
  | noLabel (name : String)

/-- The piece a position of the joined script falls in, and the position in it: the newline
after a piece counts as its end. -/
def placeIn (pieces : List String) (pos : Nat) : Nat × Nat :=
  let rec go : List String → Nat → Nat → Nat × Nat
    | [], k, _ => (k, 0)
    | [_], k, start => (k + 1, pos - start)
    | p :: more, k, start =>
      if pos ≤ start + p.length then (k + 1, pos - start) else go more (k + 1) (start + p.length + 1)
  if pos == 0 then (pieces.length, 0) else go pieces 0 0

/-- A script from its pieces. -/
def read (mode : ScriptMode) (pieces : List String) : Except ReadError Program :=
  let text := "\n".intercalate pieces
  let cs := text.toList
  match instructions mode (cs.length + 1) ⟨cs, 1⟩ #[] [] with
  | .error e =>
    let (k, p) := placeIn pieces e.pos
    .error (.at_ k p e.charShown e.msg)
  | .ok prog =>
    match missingLabel prog with
    | some n => .error (.noLabel n)
    | none =>
      let quiet := match cs with
        | '#' :: 'n' :: rest => rest.isEmpty || rest.head? == some '\n'
        | _ => false
      .ok { instrs := prog, quiet }

/-! ## Showing scripts

`--debug` shows the program as read, and each command as it is reached. Regexes and the
pattern and hold spaces are shown with their bytes escaped: a backslash doubled, the control
characters with their letters, and other bytes outside printable ASCII in octal, as the tool
prints a signed byte (so a byte above 127 shows as `\o37777777...`). Replacements, the strings
of `y`, texts, labels and file names are shown as they are.
-/

/-- Decimal digits of a number. -/
def showNat (n : Nat) : List UInt8 := (toString n).toList.map fun c => c.toNat.toUInt8

/-- The bytes of text. -/
def textBytes (cs : List Char) : List UInt8 := Utf8.encodeKeeping (String.ofList cs)

/-- A byte shown escaped. -/
def escapedByte (b : UInt8) : List UInt8 :=
  let n := b.toNat
  if 32 ≤ n && n < 127 && n != 92 then [b]
  else if n == 92 then [92, 92]
  else if n == 7 then [92, 97]
  else if n == 12 then [92, 102]
  else if n == 13 then [92, 114]
  else if n == 9 then [92, 116]
  else if n == 11 then [92, 118]
  else if n == 10 then [92, 110]
  else
    let v := if n ≥ 128 then 0xFFFFFF00 + n else n
    let ds := Nat.toDigits 8 v
    let ds := List.replicate (3 - ds.length) '0' ++ ds
    [92, 111] ++ ds.map fun c => c.toNat.toUInt8

/-- Text shown with its bytes escaped. -/
def escapedText (cs : List Char) : List UInt8 := (textBytes cs).flatMap escapedByte

/-- A regex shown between slashes, with its flags as an address shows them (`I`, `M`) or as a
substitution does (`i`, `m`). -/
def showRegex (r : ScriptRegex) : List UInt8 := [47] ++ escapedText r.text ++ [47]

/-- The flags of a regex. -/
def regexFlags (r : ScriptRegex) (forAddress : Bool) : List UInt8 :=
  (if r.ignoreCase then [if forAddress then 73 else 105] else []) ++
  (if r.multiline then [if forAddress then 77 else 109] else [])

/-- An address as shown. -/
def showAddr : Addr → List UInt8
  | .line n => showNat n
  | .last => [36]
  | .step first step => showNat first ++ [126] ++ showNat step
  | .regex r => showRegex r ++ regexFlags r true

/-- The end of a range as shown. -/
def showRangeEnd : RangeEnd → List UInt8
  | .addr a => showAddr a
  | .plus n => [43] ++ showNat n
  | .multiple n => [126] ++ showNat n

/-- A replacement as shown. -/
def showReplacement (pieces : List ReplPiece) : List UInt8 :=
  pieces.flatMap fun p =>
    match p with
    | .text t => textBytes t.toList
    | .group 0 => [38]
    | .group k => [92] ++ showNat k
    | .caseMark c => [92, c.toNat.toUInt8]

/-- A number argument as shown: after a space, if there is one. -/
def showArgument : Option Nat → List UInt8
  | some n => [32] ++ showNat n
  | none => []

/-- A command as shown, without its selector. -/
def showOp : Op → List UInt8
  | .blockStart _ => [123]
  | .blockEnd => [125]
  | .subst s =>
    [115] ++ showRegex s.regex ++ showReplacement s.replacement ++ [47] ++ regexFlags s.regex false ++
      (if s.global then [103] else []) ++ (if s.print then [112] else []) ++
      (match s.nth with
        | some n => showNat n
        | none => []) ++
      (match s.write with
        | some f => [119] ++ textBytes f.toList
        | none => [])
  | .translit pairs =>
    [121, 47] ++ textBytes (pairs.map (·.1)) ++ [47] ++ textBytes (pairs.map (·.2)) ++ [47]
  | .text kind body => [kind.toNat.toUInt8, 92] ++ textBytes body.toList
  | .simple c => [c.toNat.toUInt8]
  | .list w => [108] ++ showArgument w
  | .quit print code => [if print then 113 else 81] ++ showArgument code
  | .branch kind label =>
    let c : UInt8 := match kind with
      | .always => 98
      | .ifReplaced => 116
      | .unlessReplaced => 84
    c :: (if label.isEmpty then [] else [32] ++ textBytes label.toList)
  | .label name => [58] ++ textBytes name.toList
  | .readFile name => [114, 32] ++ textBytes name.toList
  | .readLine name => [82, 32] ++ textBytes name.toList
  | .writeFile name => [119] ++ textBytes name.toList
  | .writeFirst name => [87] ++ textBytes name.toList
  | .retired c arg => [c.toNat.toUInt8] ++ showArgument arg

/-- A command as shown at a block depth, with the depth after it: a `}` is shown one level
out, and a `{` makes the commands after it one level deeper. -/
def showInstr (depth : Int) (ins : Instr) : List UInt8 × Int :=
  let depth := match ins.op with
    | .blockEnd => depth - 1
    | _ => depth
  let indent := (List.replicate depth.toNat [32, 32]).flatten
  let sel := ins.sel
  let addrs := (match sel.first with
      | some a => showAddr a
      | none => []) ++
    (match sel.second with
      | some e => [44] ++ showRangeEnd e
      | none => [])
  let line := indent ++ addrs ++ (if sel.negate then [33] else []) ++
    (if sel.first.isSome then [32] else []) ++ showOp ins.op ++ [10]
  let after := match ins.op with
    | .blockStart _ => depth + 1
    | _ => depth
  (line, after)

/-- The program as `--debug` shows it before the run. -/
def showProgram (prog : Array Instr) : List UInt8 :=
  let (lines, _) := prog.toList.foldl (fun (acc : List UInt8 × Int) ins =>
    let (out, depth) := acc
    let (line, depth) := showInstr depth ins
    (out ++ line, depth)) ([], 1)
  textBytes "SED PROGRAM:\n".toList ++ lines

end DefUseCoverage.Shell.Sed
