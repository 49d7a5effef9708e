import DefUseCoverage.Shell.Syntax
/-!
# Reading shell scripts

A script is read one complete command at a time (a list of pipelines up to the end of a line),
as a shell does: the commands before a syntax error have run when the error is found.

* Blanks are spaces and tabs; a backslash before a newline joins two lines; `#` at the start
  of a word starts a comment.
* Operators are `;`, `&`, `&&`, `|`, `||`, `;;`, `(`, `)`, newline and the redirections `<`,
  `>`, `>>`, `>|`, `<>`, `<&`, `>&`, `<<`, `<<-`, each optionally after a descriptor number.
* In a word, single quotes keep everything, double quotes keep everything but `$`, backquotes
  and backslashes before `$`, a backquote, `"`, a backslash or a newline; a backslash outside
  quotes keeps the next character.
* `$name`, `$1`, the special parameters, `${...}` with the forms `:-`, `-`, `:=`, `=`, `:+`,
  `+`, `:?`, `?`, `#`, `##`, `%`, `%%` and `${#name}`, `$(...)`, backquotes and `$((...))`.
* A here-document's lines follow the line of its redirection and end at the delimiter line;
  a quoted delimiter keeps the lines as they are.

Errors carry the line and the message a shell prints after `Syntax error: `.
-/

namespace DefUseCoverage.Shell

/-- Why a script cannot be read, and on which line. -/
structure SyntaxError where
  /-- The line the error was found on. -/
  line : Nat
  /-- What is wrong. -/
  message : String
deriving Repr

/-- The state of reading a script: the text left and the current line. -/
structure Reader where
  /-- The text not read yet. -/
  rest : List Char
  /-- The line the text left starts on. -/
  line : Nat := 1
  /-- Lines of here-documents taken out of the text, counted at the next newline. -/
  pendingLines : Nat := 0
  /-- The aliases in force while the text is read, each name with its value. -/
  aliases : List (String × String) := []
  /-- The aliases whose values are being read, each with the length of the text after its
  value: an alias is not expanded inside its own value. -/
  expanding : List (String × Nat) := []
  /-- The length of the text after an alias value that ended with a blank: the word after
  that value may be an alias too. -/
  aliasAfter : Option Nat := none

/-- Reading actions. -/
abbrev ReadM := StateT Reader (Except SyntaxError)

namespace Read

/-- Stops with a syntax error on the current line. -/
def fail {α : Type} (msg : String) : ReadM α := do
  let r ← get
  throw ⟨r.line, msg⟩

/-- The text not read yet. -/
def peek : ReadM (List Char) := do
  return (← get).rest

/-- The reader after `taken` was read and `rest` is left: each newline read counts a line, and
the first one also the lines of here-documents taken out before it. -/
def advance (r : Reader) (taken rest : List Char) : Reader :=
  let nl := taken.count '\n'
  if nl = 0 then { r with rest := rest }
  else { r with rest := rest, line := r.line + nl + r.pendingLines, pendingLines := 0 }

/-- Reads `k` characters. -/
def skip (k : Nat) : ReadM Unit :=
  modify fun r => advance r (r.rest.take k) (r.rest.drop k)

/-- Characters that end a word outside quotes. -/
def isMeta (c : Char) : Bool :=
  c == ' ' || c == '\t' || c == '\n' || c == ';' || c == '&' || c == '|' || c == '<' ||
  c == '>' || c == '(' || c == ')'

/-- Characters that may start a name. -/
def isNameStart (c : Char) : Bool := c == '_' || (c.isAlpha && c.toNat < 128)

/-- Characters that may continue a name. -/
def isNameChar (c : Char) : Bool := isNameStart c || c.isDigit

/-- Whether a text is a name: a letter or underscore, then letters, digits and underscores. -/
def isName (s : String) : Bool :=
  match s.toList with
  | c :: cs => isNameStart c && cs.all isNameChar
  | [] => false

/-- The text without leading blanks and escaped newlines, and how many newlines it lost. -/
def dropBlanks : List Char → List Char × Nat
  | '\\' :: '\n' :: cs => let (r, k) := dropBlanks cs; (r, k + 1)
  | c :: cs => if c == ' ' || c == '\t' then dropBlanks cs else (c :: cs, 0)
  | [] => ([], 0)

/-- Skips blanks, escaped newlines and a comment, but not the newline ending it. -/
def skipBlanks : ReadM Unit :=
  modify fun r =>
    let (rest, k) := dropBlanks r.rest
    let rest := match rest with
      | '#' :: cs => cs.dropWhile (· != '\n')
      | cs => cs
    advance r (List.replicate k '\n') rest

/-- Kinds of redirection operators. -/
inductive RedirOp where
  | less | great | dgreat | lessAnd | greatAnd | lessGreat | clobber | here | hereStrip
deriving DecidableEq

/-- Operators. -/
inductive Op where
  | newline | semi | dsemi | amp | andIf | orIf | pipe | lparen | rparen
  | redir (fd : Option Nat) (op : RedirOp)
deriving DecidableEq

/-- The redirection operator at the start of a text, with its length. -/
def redirOpAt : List Char → Option (RedirOp × Nat)
  | '<' :: '<' :: '-' :: _ => some (.hereStrip, 3)
  | '<' :: '<' :: _ => some (.here, 2)
  | '<' :: '&' :: _ => some (.lessAnd, 2)
  | '<' :: '>' :: _ => some (.lessGreat, 2)
  | '<' :: _ => some (.less, 1)
  | '>' :: '>' :: _ => some (.dgreat, 2)
  | '>' :: '&' :: _ => some (.greatAnd, 2)
  | '>' :: '|' :: _ => some (.clobber, 2)
  | '>' :: _ => some (.great, 1)
  | _ => none

/-- The number written by decimal digits. -/
def digitsValue (ds : List Char) : Nat := ds.foldl (fun a c => a * 10 + (c.toNat - 48)) 0

/-- The operator at the start of a text, with its length. -/
def opAt : List Char → Option (Op × Nat)
  | '\n' :: _ => some (.newline, 1)
  | ';' :: ';' :: _ => some (.dsemi, 2)
  | ';' :: _ => some (.semi, 1)
  | '&' :: '&' :: _ => some (.andIf, 2)
  | '&' :: _ => some (.amp, 1)
  | '|' :: '|' :: _ => some (.orIf, 2)
  | '|' :: _ => some (.pipe, 1)
  | '(' :: _ => some (.lparen, 1)
  | ')' :: _ => some (.rparen, 1)
  | cs =>
    let ds := cs.takeWhile Char.isDigit
    match redirOpAt (cs.drop ds.length) with
    | some (op, k) => some (.redir (if ds.isEmpty then none else some (digitsValue ds)) op, ds.length + k)
    | none => none

/-- Reserved words. -/
def keywords : List String :=
  ["if", "then", "else", "elif", "fi", "do", "done", "case", "esac", "while", "until", "for",
   "in", "\x7b", "\x7d", "!"]

/-- The reserved word at the start of a text, if one stands there as a whole word. -/
def keywordAt (cs : List Char) : Option String :=
  keywords.find? fun kw =>
    let k := kw.toList
    cs.take k.length == k &&
      (match cs.drop k.length with
       | [] => true
       | c :: _ => isMeta c)

/-- Characters of a word that no quoting or expansion touches. -/
def isPlainWordChar (c : Char) : Bool :=
  !isMeta c && c != '\x27' && c != '"' && c != '\\' && c != '$' && c != '\x60'

/-- Replaces a word at the front of the text by the value of the alias it names: a plain word,
no reserved word, naming an alias whose value is not being read already. The value is read
again from its start, so its first word may be an alias too. The fuel bounds the expansions. -/
def expandAlias : Nat → StateT Reader (Except SyntaxError) Unit
  | 0 => pure ()
  | k + 1 => do
    let r ← get
    let (word, after) := r.rest.span isPlainWordChar
    let whole := match after with
      | [] => true
      | c :: _ => isMeta c
    let active := r.expanding.filter fun (_, len) => r.rest.length > len
    let name := String.ofList word
    if word.isEmpty || !whole || (keywordAt r.rest).isSome || active.any (·.1 == name) then pure ()
    else
      match r.aliases.find? (·.1 == name) with
      | none => pure ()
      | some (_, value) =>
        let blankEnd := value.endsWith " " || value.endsWith "\t"
        let rest := (dropBlanks (value.toList ++ after)).1
        let aliasAfter := if blankEnd then some after.length else r.aliasAfter
        set { r with rest := rest, expanding := (name, after.length) :: active, aliasAfter }
        expandAlias k

/-- Words that end a list of commands. -/
def closers : List String := ["then", "else", "elif", "fi", "do", "done", "esac", "\x7d"]

/-- How a token is named in syntax errors. -/
def tokenName (cs : List Char) : String :=
  match cs with
  | [] => "end of file"
  | _ =>
    match opAt cs with
    | some (.newline, _) => "newline"
    | some (.semi, _) => "\";\""
    | some (.dsemi, _) => "\";;\""
    | some (.amp, _) => "\"&\""
    | some (.andIf, _) => "\"&&\""
    | some (.orIf, _) => "\"||\""
    | some (.pipe, _) => "\"|\""
    | some (.lparen, _) => "\"(\""
    | some (.rparen, _) => "\")\""
    | some (.redir _ _, _) => "redirection"
    | none =>
      match keywordAt cs with
      | some kw => "\"" ++ kw ++ "\""
      | none => "word"

/-- Fails at the next token. A newline token has been read by the time its message is given,
so the message names the line after it. -/
def failAtToken {α : Type} (msg : String) : ReadM α := do
  let r ← get
  throw ⟨if r.rest.head? == some '\n' then r.line + 1 else r.line, msg⟩

/-- Fails at the next token as unexpected. -/
def unexpected {α : Type} : ReadM α := do
  skipBlanks
  failAtToken (tokenName (← peek) ++ " unexpected")

/-- Fails at the next token as unexpected where `what` was expected. -/
def expecting {α : Type} (what : String) : ReadM α := do
  skipBlanks
  failAtToken (tokenName (← peek) ++ " unexpected (expecting \"" ++ what ++ "\")")

/-- Fails at the next token as unexpected where a word was expected. -/
def expectingWord {α : Type} : ReadM α := do
  skipBlanks
  failAtToken (tokenName (← peek) ++ " unexpected (expecting word)")

/-- Fails at the next token, read as a plain word even if it spells a reserved word, as
unexpected where `what` was expected. -/
def expectingPlain {α : Type} (what : String) : ReadM α := do
  skipBlanks
  let cs ← peek
  let name := if (keywordAt cs).isSome then "word" else tokenName cs
  failAtToken (name ++ " unexpected (expecting \"" ++ what ++ "\")")

/-- Reads the reserved word `kw`, or fails expecting it. -/
def expectKeyword (kw : String) : ReadM Unit := do
  skipBlanks
  if keywordAt (← peek) == some kw then skip kw.length else expecting kw

/-- Whether the next token is the reserved word `kw`. -/
def atKeyword (kw : String) : ReadM Bool := do
  skipBlanks
  return keywordAt (← peek) == some kw

/-- Skips blanks, comments and newlines until none is left. -/
def linebreaks : Nat → ReadM Unit
  | 0 => pure ()
  | n + 1 => do
    skipBlanks
    match ← peek with
    | '\n' :: _ => skip 1; linebreaks n
    | _ => pure ()

/-- Whether a list of commands ends here. -/
def atListEnd : ReadM Bool := do
  skipBlanks
  let cs ← peek
  match cs with
  | [] => return true
  | _ =>
    match opAt cs with
    | some (.rparen, _) | some (.dsemi, _) => return true
    | _ => return (keywordAt cs).any closers.contains

/-- Reads the text of single quotes after the opening quote. -/
def singleQuoted : ReadM String := do
  let r ← get
  let (body, rest) := r.rest.span (· != '\x27')
  match rest with
  | [] => do set (advance r body []); fail "Unterminated quoted string"
  | _ :: rest => set (advance r (body ++ ['\x27']) rest); return String.ofList body

/-- Reads a name. -/
def takeName : ReadM String := do
  let r ← get
  let (name, rest) := r.rest.span isNameChar
  set { r with rest := rest }
  return String.ofList name

/-- Adjacent literal pieces with the same quoting, joined. -/
def joinTexts : List Part → List Part
  | .text a q :: .text b q' :: rest =>
    if q == q' then joinTexts (.text (a ++ b) q :: rest) else .text a q :: joinTexts (.text b q' :: rest)
  | p :: rest => p :: joinTexts rest
  | [] => []
termination_by ps => ps.length

/-- The text of `$((...))` after the opening parentheses, and the text after the closing ones. -/
def splitArith : List Char → Nat → Option (List Char × List Char)
  | ')' :: ')' :: rest, 0 => some ([], rest)
  | ')' :: rest, d + 1 => (splitArith rest d).map fun (a, r) => (')' :: a, r)
  | '(' :: rest, d => (splitArith rest (d + 1)).map fun (a, r) => ('(' :: a, r)
  | c :: rest, d => (splitArith rest d).map fun (a, r) => (c :: a, r)
  | [], _ => none

/-- The text of a backquoted command after the opening backquote, with its backslashes before
`$`, a backquote, a backslash (and `"` inside double quotes) removed, and the text after the
closing backquote. -/
def splitBackquote (inQuotes : Bool) : List Char → Option (List Char × List Char)
  | '`' :: rest => some ([], rest)
  | '\\' :: d :: rest =>
    if d == '$' || d == '`' || d == '\\' || (inQuotes && d == '"') then
      (splitBackquote inQuotes rest).map fun (a, r) => (d :: a, r)
    else (splitBackquote inQuotes (d :: rest)).map fun (a, r) => ('\\' :: a, r)
  | c :: rest => (splitBackquote inQuotes rest).map fun (a, r) => (c :: a, r)
  | [] => none

/-- Lines of a text, split at each newline. -/
def splitLines : List Char → List (List Char)
  | [] => [[]]
  | '\n' :: rest => [] :: splitLines rest
  | c :: rest =>
    match splitLines rest with
    | l :: ls => (c :: l) :: ls
    | [] => [[c]]

/-- The lines of a here-document up to its delimiter line (tabs stripped first when asked),
and the lines after it. -/
def hereLines (delim : List Char) (strip : Bool) : List (List Char) → List (List Char) × List (List Char) × Bool
  | [] => ([], [], false)
  | l :: ls =>
    let l := if strip then l.dropWhile (· == '\t') else l
    if l == delim then ([], ls, true)
    else let (b, r, found) := hereLines delim strip ls; (l :: b, r, found)

/-- Lines joined by newlines. -/
def joinLines : List (List Char) → List Char
  | [] => []
  | [l] => l
  | l :: ls => l ++ '\n' :: joinLines ls

/-- Takes a here-document out of the text after the current line: its body, each line ending
with a newline (but for a last line that the text leaves unended), and the reader without it. -/
def takeHere (r : Reader) (delim : String) (strip : Bool) : List Char × Reader :=
  let line := r.rest.takeWhile (· != '\n')
  match r.rest.drop line.length with
  | [] => ([], r)
  | _ :: after =>
    let (lines, rest, found) := hereLines delim.toList strip (splitLines after)
    let body := if found then lines else
      match lines.getLast? with
      | some [] => lines.dropLast
      | _ => lines
    -- without a delimiter line the body runs to the end of the text, a last line unended
    let text := if found then body.foldr (fun l acc => l ++ '\n' :: acc) [] else joinLines lines
    let kept := line ++ '\n' :: joinLines rest
    (text, { r with rest := kept, pendingLines := r.pendingLines + body.length + (if found then 1 else 0) })

/-- Runs a reading action on another text, then goes back to the current one. -/
def within {α : Type} (cs : List Char) (act : ReadM α) : ReadM α := do
  let saved ← get
  set { saved with rest := cs, pendingLines := 0, expanding := [], aliasAfter := none }
  let a ← act
  set saved
  return a

/-- The form of `${name<op>word}` for an operator character, with or without a colon. -/
def formOf (c : Char) (colon : Bool) : Option ParamForm :=
  if c == '-' then some (.orElse colon)
  else if c == '=' then some (.assign colon)
  else if c == '+' then some (.ifSet colon)
  else if c == '?' then some (.required colon)
  else none

/-- Characters naming special parameters. -/
def isSpecialParam (c : Char) : Bool :=
  c == '@' || c == '*' || c == '#' || c == '?' || c == '-' || c == '$' || c == '!'

/-- What the head of `${...}` declares. -/
inductive BraceHead where
  /-- A parameter and its form, the closing brace read: `${x}`, `${#x}`. -/
  | closed (name : String) (form : ParamForm)
  /-- A parameter and its form, with a word to read through the closing brace. -/
  | withWord (name : String) (form : ParamForm)
  /-- A head the shell cannot expand; a word still runs to the closing brace. -/
  | bad

/-- The head of `${...}` after a parameter's name, from the character after it; `length`
when the name followed `#`. A character that is no operator is dropped. -/
def afterName (name : String) (length : Bool) (cs : List Char) : BraceHead × List Char :=
  if length then
    match cs with
    | '\x7d' :: rest => (.closed name .length, rest)
    | _ => (.bad, cs)
  else
    match cs with
    | '\x7d' :: rest => (.closed name .plain, rest)
    | ':' :: c :: rest =>
      if c == '\x7d' then (.withWord name .plain, rest)
      else match formOf c true with
        | some f => (.withWord name f, rest)
        | none => (.bad, rest)
    | '#' :: '#' :: rest => (.withWord name (.dropPrefix true), rest)
    | '#' :: rest => (.withWord name (.dropPrefix false), rest)
    | '%' :: '%' :: rest => (.withWord name (.dropSuffix true), rest)
    | '%' :: rest => (.withWord name (.dropSuffix false), rest)
    | c :: rest =>
      match formOf c false with
      | some f => (.withWord name f, rest)
      | none => (.bad, rest)
    | [] => (.bad, [])

/-- A name, or all the digits of a position, at the start of a text after `${` or `${#`. -/
def nameAt (c : Char) (rest : List Char) : String × List Char :=
  if c.isDigit then
    let (ds, more) := rest.span Char.isDigit
    (String.ofList (c :: ds), more)
  else
    let (cs, more) := rest.span isNameChar
    (String.ofList (c :: cs), more)

/-- The head of `${...}` from the text after the opening brace. A special parameter is one
character; `#` alone is the count of positions unless a single special character and the
closing brace follow, which make the length of that parameter. -/
def braceHead (cs : List Char) : BraceHead × List Char :=
  match cs with
  | c :: rest =>
    if isNameStart c || c.isDigit then
      let (name, more) := nameAt c rest
      afterName name false more
    else if c == '\x7d' then (.bad, cs)
    else if c == '#' then
      match rest with
      | d :: more =>
        if isNameStart d || d.isDigit then
          let (name, after) := nameAt d more
          afterName name true after
        else
          match more with
          | '\x7d' :: after =>
            if d == '\x7d' then afterName "#" false rest
            else if isSpecialParam d then afterName d.toString true ('\x7d' :: after)
            else (.bad, '\x7d' :: after)
          | _ => afterName "#" false rest
      | [] => afterName "#" false []
    else if isSpecialParam c then afterName c.toString false rest
    else (.bad, rest)
  | [] => (.bad, [])

/-- The pieces of a double-quoted text, marked to make a field even when empty; only `"$@"`
alone is not marked, so that it makes no field when there are no positions. -/
def quotedField (ps : List Part) : List Part :=
  match ps with
  | [.param "@" .plain [] true] => ps
  | _ => .text "" true :: ps

/-- A literal piece of one character. -/
def lit (c : Char) (quoted : Bool) : Part := .text c.toString quoted

/-- A whole command list built from its commands in order. -/
def seqOf : List Cmd → Cmd
  | [] => .empty
  | [c] => c
  | c :: cs => .seq c (seqOf cs)

/-- The descriptor a redirection applies to by default. -/
def defaultFd : RedirOp → Nat
  | .less | .lessAnd | .lessGreat | .here | .hereStrip => 0
  | _ => 1

/-- The literal text of a word's pieces, and whether any of them was quoted. -/
def delimiterOf (ps : List Part) : String × Bool :=
  ps.foldl (fun (s, q) p => match p with
    | .text t q' => (s ++ t, q || q')
    | _ => (s, q)) ("", false)

mutual

/-- The pieces of a word up to the next blank or operator. -/
def wordParts : Nat → ReadM (List Part)
  | 0 => fail "too deeply nested"
  | n + 1 => do
    let cs ← peek
    match cs with
    | [] => pure []
    | '\\' :: '\n' :: _ => do skip 2; wordParts n
    | '\\' :: d :: _ => do skip 2; return lit d true :: (← wordParts n)
    | ['\\'] => do skip 1; return [lit '\\' false]
    | '\x27' :: _ => do skip 1; let s ← singleQuoted; return .text s true :: (← wordParts n)
    | '"' :: _ => do skip 1; let ps ← quotedParts n; return quotedField ps ++ (← wordParts n)
    | '$' :: _ => do let ps ← dollar n false; return ps ++ (← wordParts n)
    | '`' :: _ => do let p ← backquoted n false; return p :: (← wordParts n)
    | c :: _ => if isMeta c then pure [] else do skip 1; return lit c false :: (← wordParts n)

/-- The pieces of double-quoted text after the opening quote, through the closing one. -/
def quotedParts : Nat → ReadM (List Part)
  | 0 => fail "too deeply nested"
  | n + 1 => do
    let cs ← peek
    match cs with
    | [] => fail "Unterminated quoted string"
    | '"' :: _ => do skip 1; pure []
    | '\\' :: '\n' :: _ => do skip 2; quotedParts n
    | '\\' :: d :: _ =>
      if d == '$' || d == '`' || d == '"' || d == '\\' then do
        skip 2; return lit d true :: (← quotedParts n)
      else do skip 1; return lit '\\' true :: (← quotedParts n)
    | '$' :: _ => do let ps ← dollar n true; return ps ++ (← quotedParts n)
    | '`' :: _ => do let p ← backquoted n true; return p :: (← quotedParts n)
    | c :: _ => do skip 1; return lit c true :: (← quotedParts n)

/-- The pieces of a here-document's text, or of an arithmetic expression: expansions and
backslashes before `$`, a backquote, a backslash or a newline are read, all else is literal. -/
def hereParts : Nat → ReadM (List Part)
  | 0 => fail "too deeply nested"
  | n + 1 => do
    let cs ← peek
    match cs with
    | [] => pure []
    | '\\' :: '\n' :: _ => do skip 2; hereParts n
    | '\\' :: d :: _ =>
      if d == '$' || d == '`' || d == '\\' then do skip 2; return lit d true :: (← hereParts n)
      else do skip 1; return lit '\\' true :: (← hereParts n)
    | '$' :: _ => do let ps ← dollar n true; return ps ++ (← hereParts n)
    | '`' :: _ => do let p ← backquoted n true; return p :: (← hereParts n)
    | c :: _ => do skip 1; return lit c true :: (← hereParts n)

/-- An expansion starting with `$`. -/
def dollar : Nat → Bool → ReadM (List Part)
  | 0, _ => fail "too deeply nested"
  | n + 1, q => do
    skip 1
    let cs ← peek
    match cs with
    | '\x7b' :: _ => do skip 1; braced n q
    | '(' :: '(' :: rest =>
      match splitArith rest 0 with
      | some (body, after) => do
        let r ← get
        set (advance r ('(' :: '(' :: body) after)
        let ps ← within body (hereParts n)
        return [.arith (joinTexts ps) q]
      | none => do
        -- the whole text is read looking for the end
        let r ← get
        set (advance r cs [])
        fail "Missing '))'"
    | '(' :: _ => do
      skip 1
      let body ← listOrEmpty n
      skipBlanks
      match ← peek with
      | ')' :: _ => do skip 1; return [.subst body q]
      | _ => expecting ")"
    | c :: _ =>
      if isNameStart c then do
        let name ← takeName
        return [.param name .plain [] q]
      else if c.isDigit || isSpecialParam c then do
        skip 1
        return [.param c.toString .plain [] q]
      else return [.text "$" q]
    | [] => return [.text "$" q]

/-- The rest of `${...}` after the opening brace. -/
def braced : Nat → Bool → ReadM (List Part)
  | 0, _ => fail "too deeply nested"
  | n + 1, q => do
    let cs ← peek
    let (head, rest) := braceHead cs
    -- a bad character after the name is taken as part of it: a newline there counts no line
    match head with
    | .bad => modify fun r => { r with rest := rest }
    | _ => skip (cs.length - rest.length)
    match head with
    | .closed name form => return [.param name form [] q]
    | .withWord name .plain =>
      let w ← bracedWord n q
      return .param name .plain [] q :: joinTexts w
    | .withWord name form =>
      -- the pattern of a trimming form is read as outside quotes, even within them
      let trims := match form with
        | .dropPrefix _ | .dropSuffix _ => true
        | _ => false
      let w ← bracedWord n (q && !trims)
      return [.param name form (joinTexts w) q]
    | .bad =>
      let _ ← bracedWord n q
      return [.param "" .bad [] q]

/-- The word inside `${name<op>word}`, through the closing brace. -/
def bracedWord : Nat → Bool → ReadM (List Part)
  | 0, _ => fail "too deeply nested"
  | n + 1, q => do
    let cs ← peek
    match cs with
    | [] => fail (if q then "Unterminated quoted string" else "Missing '\x7d'")
    | '\x7d' :: _ => do skip 1; pure []
    | '\\' :: d :: _ => do skip 2; return lit d true :: (← bracedWord n q)
    | '\x27' :: _ =>
      if q then do skip 1; return lit '\x27' true :: (← bracedWord n q)
      else do skip 1; let s ← singleQuoted; return .text s true :: (← bracedWord n q)
    | '"' :: _ => do skip 1; let ps ← quotedParts n; return quotedField ps ++ (← bracedWord n q)
    | '$' :: _ => do let ps ← dollar n q; return ps ++ (← bracedWord n q)
    | '`' :: _ => do let p ← backquoted n q; return p :: (← bracedWord n q)
    | c :: _ => do skip 1; return lit c q :: (← bracedWord n q)

/-- A backquoted command, from its opening backquote. -/
def backquoted : Nat → Bool → ReadM Part
  | 0, _ => fail "too deeply nested"
  | n + 1, q => do
    skip 1
    let r ← get
    match splitBackquote q r.rest with
    | some (body, after) => do
      set (advance r (body ++ ['`']) after)
      let cmd ← within body (wholeText n)
      return .subst cmd q
    | none => do set (advance r r.rest []); fail "EOF in backquote substitution"

/-- A whole text as one list of commands. -/
def wholeText : Nat → ReadM Cmd
  | 0 => fail "too deeply nested"
  | n + 1 => do
    let c ← listOrEmpty n
    linebreaks (← peek).length
    match ← peek with
    | [] => pure c
    | _ => unexpected

/-- A list of commands, possibly empty. -/
def listOrEmpty : Nat → ReadM Cmd
  | 0 => fail "too deeply nested"
  | n + 1 => do
    linebreaks (← peek).length
    if ← atListEnd then pure .empty else compoundList n

/-- A list of commands separated by `;`, `&` or newlines, up to a reserved word that closes a
construct, `)`, `;;` or the end. At the end of the text the list is empty, and what closes
it is reported missing; a closing word in place of its first command is unexpected. -/
def compoundList : Nat → ReadM Cmd
  | 0 => fail "too deeply nested"
  | n + 1 => do
    linebreaks (← peek).length
    if (← peek).isEmpty then pure .empty
    else
      let first ← andOr n
      listTail n [] first

/-- The rest of a list after a command. -/
def listTail : Nat → List Cmd → Cmd → ReadM Cmd
  | 0, _, _ => fail "too deeply nested"
  | n + 1, done, cur => do
    skipBlanks
    let cs ← peek
    let (sep, done) : Bool × List Cmd := match opAt cs with
      | some (.semi, _) => (true, done ++ [cur])
      | some (.amp, _) => (true, done ++ [Cmd.background cur])
      | some (.newline, _) => (true, done ++ [cur])
      | _ => (false, done ++ [cur])
    if !sep then pure (seqOf done)
    else do
      if opAt cs != some (Op.newline, 1) then skip 1
      linebreaks (← peek).length
      if ← atListEnd then pure (seqOf done)
      else do
        let next ← andOr n
        listTail n done next

/-- Pipelines joined by `&&` and `||`. -/
def andOr : Nat → ReadM Cmd
  | 0 => fail "too deeply nested"
  | n + 1 => do
    let p ← pipeline n
    andOrTail n p

/-- The rest of an `&&`/`||` chain. -/
def andOrTail : Nat → Cmd → ReadM Cmd
  | 0, _ => fail "too deeply nested"
  | n + 1, acc => do
    skipBlanks
    match opAt (← peek) with
    | some (.andIf, _) => do
      skip 2
      linebreaks (← peek).length
      let p ← pipeline n
      andOrTail n (.andThen acc p)
    | some (.orIf, _) => do
      skip 2
      linebreaks (← peek).length
      let p ← pipeline n
      andOrTail n (.orElse acc p)
    | _ => pure acc

/-- Commands joined by pipes, possibly after `!`. -/
def pipeline : Nat → ReadM Cmd
  | 0 => fail "too deeply nested"
  | n + 1 => do
    if ← atKeyword "!" then do
      skip 1
      let c ← command n
      let p ← pipeTail n [c]
      return .negate p
    else do
      let c ← command n
      pipeTail n [c]

/-- The rest of a pipeline. -/
def pipeTail : Nat → List Cmd → ReadM Cmd
  | 0, _ => fail "too deeply nested"
  | n + 1, acc => do
    skipBlanks
    match opAt (← peek) with
    | some (.pipe, _) => do
      skip 1
      linebreaks (← peek).length
      let c ← command n
      pipeTail n (acc ++ [c])
    | _ =>
      match acc with
      | [c] => pure c
      | _ => pure (.pipeline acc)

/-- One command: a compound command with its redirections, or a simple command. -/
def command : Nat → ReadM Cmd
  | 0 => fail "too deeply nested"
  | n + 1 => do
    skipBlanks
    expandAlias ((← get).aliases.length + 1)
    let cs ← peek
    -- a compound command counts from the line of its first word
    let line := (← get).line
    match keywordAt cs with
    | some "if" => do skip 2; let c ← ifRest n; withRedirs n line c
    | some "while" => do skip 5; let c ← loopRest n false; withRedirs n line c
    | some "until" => do skip 5; let c ← loopRest n true; withRedirs n line c
    | some "for" => do skip 3; let c ← forRest n line; withRedirs n line c
    | some "case" => do skip 4; let c ← caseRest n line; withRedirs n line c
    | some "\x7b" => do
      skip 1
      let body ← compoundList n
      expectKeyword "\x7d"
      let rs ← redirs n []
      return .group line body rs
    | some _ => unexpected
    | none =>
      match opAt cs with
      | some (.lparen, _) => do
        skip 1
        let body ← compoundList n
        skipBlanks
        match ← peek with
        | ')' :: _ => do
          skip 1
          let rs ← redirs n []
          return .subshell line body rs
        | _ => expecting ")"
      | _ => simple n

/-- A compound command, starting on a line, with the redirections after it. -/
def withRedirs : Nat → Nat → Cmd → ReadM Cmd
  | 0, _, _ => fail "too deeply nested"
  | n + 1, line, c => do
    let rs ← redirs n []
    if rs.isEmpty then pure c else pure (.group line c rs)

/-- Redirections, as many as follow. -/
def redirs : Nat → List Redir → ReadM (List Redir)
  | 0, _ => fail "too deeply nested"
  | n + 1, acc => do
    skipBlanks
    match opAt (← peek) with
    | some (.redir fd op, k) => do
      skip k
      let r ← redirTarget n fd op
      redirs n (acc ++ [r])
    | _ => pure acc

/-- The target of a redirection after its operator. -/
def redirTarget : Nat → Option Nat → RedirOp → ReadM Redir
  | 0, _, _ => fail "too deeply nested"
  | n + 1, fd, op => do
    skipBlanks
    let cs ← peek
    let isWord := match cs with
      | [] => false
      | c :: _ => !isMeta c
    if !isWord then unexpected
    else do
      let w ← joinTexts <$> wordParts n
      let d := fd.getD (defaultFd op)
      match op with
      | .less => return .file d .read w
      | .great => return .file d .write w
      | .clobber => return .file d .clobber w
      | .dgreat => return .file d .append w
      | .lessGreat => return .file d .readWrite w
      | .lessAnd | .greatAnd => return .dup d w
      | .here | .hereStrip => do
        let (delim, quoted) := delimiterOf w
        let r ← get
        let (text, r) := takeHere r delim (op == .hereStrip)
        set r
        if quoted then return .here d [.text (String.ofList text) true]
        else do
          let ps ← within text (hereParts n)
          return .here d (.text "" true :: joinTexts ps)

/-- The rest of `if` after the word `if`. -/
def ifRest : Nat → ReadM Cmd
  | 0 => fail "too deeply nested"
  | n + 1 => do
    let cond ← compoundList n
    expectKeyword "then"
    let thenPart ← compoundList n
    let elsePart ← elseRest n
    return .ifThen cond thenPart elsePart

/-- The rest of `if` after its `then` part: `elif`, `else` or `fi`. -/
def elseRest : Nat → ReadM Cmd
  | 0 => fail "too deeply nested"
  | n + 1 => do
    skipBlanks
    match keywordAt (← peek) with
    | some "elif" => do
      skip 4
      let cond ← compoundList n
      expectKeyword "then"
      let thenPart ← compoundList n
      let elsePart ← elseRest n
      return .ifThen cond thenPart elsePart
    | some "else" => do
      skip 4
      let e ← compoundList n
      expectKeyword "fi"
      return e
    | some "fi" => do skip 2; return .empty
    | _ => expecting "fi"

/-- The rest of `while` or `until`. -/
def loopRest : Nat → Bool → ReadM Cmd
  | 0, _ => fail "too deeply nested"
  | n + 1, u => do
    let cond ← compoundList n
    expectKeyword "do"
    let body ← compoundList n
    expectKeyword "done"
    return .loop u cond body

/-- Words up to the end of a line or a `;`. -/
def wordList : Nat → List (List Part) → ReadM (List (List Part))
  | 0, _ => fail "too deeply nested"
  | n + 1, acc => do
    skipBlanks
    match ← peek with
    | c :: _ =>
      if isMeta c then pure acc
      else do
        let w ← joinTexts <$> wordParts n
        wordList n (acc ++ [w])
    | [] => pure acc

/-- The rest of `for` after the word `for`. -/
def forRest : Nat → Nat → ReadM Cmd
  | 0, _ => fail "too deeply nested"
  | n + 1, line => do
    skipBlanks
    let cs ← peek
    let w ← match cs with
      | c :: _ => if isMeta c then pure [] else joinTexts <$> wordParts n
      | [] => pure []
    let name := match w with
      | [.text t false] => t
      | _ => ""
    if !isName name then
      if w.isEmpty then failAtToken "Bad for loop variable" else fail "Bad for loop variable"
    linebreaks (← peek).length
    let items ← if ← atKeyword "in" then do
        skip 2
        let ws ← wordList n []
        skipBlanks
        match opAt (← peek) with
        | some (.semi, _) | some (.newline, _) => skip 1
        | _ => unexpected
        pure (some ws)
      else do
        skipBlanks
        match opAt (← peek) with
        | some (.semi, _) => skip 1
        | _ => pure ()
        pure none
    linebreaks (← peek).length
    expectKeyword "do"
    let body ← compoundList n
    expectKeyword "done"
    return .forEach line name items body

/-- Patterns of a `case` arm separated by `|`, through the closing parenthesis. Whatever
token stands where a pattern belongs is taken as one; the token after it must be `|` or
`)`. -/
def patterns : Nat → List (List Part) → ReadM (List (List Part))
  | 0, _ => fail "too deeply nested"
  | n + 1, acc => do
    skipBlanks
    let cs ← peek
    let isWord := match cs with
      | [] => false
      | c :: _ => !isMeta c
    let w ← if isWord then joinTexts <$> wordParts n
      else do
        match opAt cs with
        | some (_, k) => skip k
        | none => pure ()
        pure []
    skipBlanks
    match opAt (← peek) with
    | some (.pipe, _) => do skip 1; patterns n (acc ++ [w])
    | some (.rparen, _) => do skip 1; pure (acc ++ [w])
    | _ => expecting ")"

/-- The arms of a `case`, through `esac`. -/
def caseArms : Nat → List (List (List Part) × Cmd) → ReadM (List (List (List Part) × Cmd))
  | 0, _ => fail "too deeply nested"
  | n + 1, acc => do
    linebreaks (← peek).length
    if ← atKeyword "esac" then do skip 4; pure acc
    else do
      match opAt (← peek) with
      | some (.lparen, _) => skip 1
      | _ => pure ()
      let pats ← patterns n []
      let body ← listOrEmpty n
      skipBlanks
      match opAt (← peek) with
      | some (.dsemi, _) => do skip 2; caseArms n (acc ++ [(pats, body)])
      | _ =>
        if ← atKeyword "esac" then do skip 4; pure (acc ++ [(pats, body)])
        else expecting ";;"

/-- The rest of `case` after the word `case`. -/
def caseRest : Nat → Nat → ReadM Cmd
  | 0, _ => fail "too deeply nested"
  | n + 1, line => do
    skipBlanks
    let cs ← peek
    let isWord := match cs with
      | [] => false
      | c :: _ => !isMeta c
    if !isWord then expectingWord
    else do
      let subject ← joinTexts <$> wordParts n
      linebreaks (← peek).length
      expectKeyword "in"
      let arms ← caseArms n []
      return .caseOf line subject arms

/-- A simple command, or a function definition. -/
def simple : Nat → ReadM Cmd
  | 0 => fail "too deeply nested"
  | n + 1 => do
    let line := (← get).line
    simpleItems n line [] [] []

/-- The assignments, words and redirections of a simple command. -/
def simpleItems : Nat → Nat → List (String × List Part) → List (List Part) → List Redir → ReadM Cmd
  | 0, _, _, _, _ => fail "too deeply nested"
  | n + 1, line, as, ws, rs => do
    skipBlanks
    -- before the command's name, and after an alias value that ended with a blank, a word
    -- may be an alias
    let r ← get
    let follows := match r.aliasAfter with
      | some len => r.rest.length ≤ len
      | none => false
    if follows then set { r with aliasAfter := none }
    if ws.isEmpty || follows then expandAlias (r.aliases.length + 1)
    let cs ← peek
    match opAt cs with
    | some (.redir fd op, k) => do
      skip k
      let r ← redirTarget n fd op
      simpleItems n line as ws (rs ++ [r])
    | some (.lparen, _) =>
      match as, ws, rs with
      | [], [w], [] => do
        skip 1
        skipBlanks
        match opAt (← peek) with
        | some (.rparen, _) => do
          skip 1
          match w with
          | [.text name false] =>
            if isName name && !specialBuiltins.contains name then do
              linebreaks (← peek).length
              let body ← command n
              return .function name body
            else fail "Bad function name"
          | _ => fail "Bad function name"
        | _ => expectingPlain ")"
      | _, _, _ => unexpected
    | some _ =>
      if as.isEmpty && ws.isEmpty && rs.isEmpty then unexpected
      else return .simple line as ws rs
    | none =>
      match cs with
      | [] =>
        if as.isEmpty && ws.isEmpty && rs.isEmpty then unexpected
        else return .simple line as ws rs
      | _ => do
        let w ← joinTexts <$> wordParts n
        match ws, w with
        | [], .text t false :: more =>
          match t.splitOn "=" with
          | name :: value :: values =>
            if isName name then
              let v := "=".intercalate (value :: values)
              simpleItems n line (as ++ [(name, joinTexts (.text v false :: more))]) ws rs
            else simpleItems n line as (ws ++ [w]) rs
          | _ => simpleItems n line as (ws ++ [w]) rs
        | _, _ => simpleItems n line as (ws ++ [w]) rs

end

/-- The next complete command of a script: a list up to the end of a line. -/
def nextCommand (n : Nat) : ReadM (Option Cmd) := do
  linebreaks (← peek).length
  match ← peek with
  | [] => pure none
  | _ => do
    let first ← andOr n
    commandTail n [] first

where
  /-- The rest of a complete command. -/
  commandTail : Nat → List Cmd → Cmd → ReadM (Option Cmd)
    | 0, _, _ => fail "too deeply nested"
    | k + 1, done, cur => do
      skipBlanks
      let cs ← peek
      match opAt cs with
      | some (.semi, _) | some (.amp, _) => do
        let done := done ++ [if opAt cs == some (Op.amp, 1) then Cmd.background cur else cur]
        skip 1
        skipBlanks
        match ← peek with
        | [] => pure (some (seqOf done))
        | '\n' :: _ => do skip 1; pure (some (seqOf done))
        | _ => do
          let next ← andOr k
          commandTail k done next
      | some (.newline, _) => do skip 1; pure (some (seqOf (done ++ [cur])))
      | _ =>
        match cs with
        | [] => pure (some (seqOf (done ++ [cur])))
        | _ => unexpected

end Read

/-- A reader at the start of a script. -/
def Reader.ofString (s : String) : Reader := { rest := s.toList }

/-- The next complete command of the script and the reader after it, or `none` at its end. -/
def Reader.next (r : Reader) : Except SyntaxError (Option Cmd × Reader) :=
  (Read.nextCommand (10 * r.rest.length + 100)).run r

end DefUseCoverage.Shell
