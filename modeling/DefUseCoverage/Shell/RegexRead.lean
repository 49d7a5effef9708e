import DefUseCoverage.Shell.Regex
/-!
# Reading regular expressions

The text of a regular expression is read token by token, the way the GNU C library reads it,
under a dialect that says which characters are operators and how the corners read.

*Basic* syntax writes groups as `\(...\)`, alternatives as `\|`, repetitions as `*`, `\+`, `\?`
and `\{m,n\}`; `^` is an anchor only at the start of the expression, of a group or of an
alternative, and `$` only at the end of one. *Extended* syntax writes `(...)`, `|`, `+`, `?` and
`{m,n}` plainly, with anchors anywhere. Both have `.`, bracket expressions, back-references
`\1` to `\9`, the class escapes `\w \W \s \S` and the boundaries `\b \B \< \>`.

The corners:

* a repetition with nothing before it (at the start, after a group's opening, a bar or an
  anchor) is an ordinary character in basic syntax, is passed over by `grep -E` and makes the
  expression malformed for `sed -E`; `sed` also refuses an interval there, and a `*` or an
  interval right after another repetition;
* a malformed interval makes its `{` an ordinary character for `grep -E` and is an error
  elsewhere; a count above 32767 is too big;
* a `)` that closes nothing is an ordinary character for `grep -E` and an error elsewhere;
* in a bracket expression a class must have a known name, a collating element or equivalence
  class must be one character, and a range may neither start nor end with a class nor run
  backwards (except for `expr`, where such a range is empty).

`grep` selects lines with an automaton that reads a few corners its own way: a repetition with
nothing before it repeats the empty expression (and earns a warning, as does an interval
there), and a repetition after an anchor repeats the anchor. `RegexSyntax.automaton` asks for
that reading; the positions `grep -o` prints come from the library's reading.
-/

namespace DefUseCoverage.Shell

/-- What a repetition operator does where nothing stands before it to repeat. -/
inductive LeadingRepeat where
  /-- It is an ordinary character. -/
  | literal
  /-- It is passed over. -/
  | skipped
  /-- It makes the expression malformed. -/
  | refused
deriving DecidableEq, Repr

/-- A dialect of regular expressions. -/
structure RegexSyntax where
  /-- Extended syntax: `( ) | + ? { }` are operators without a backslash. -/
  extended : Bool
  /-- What a repetition with nothing before it does. -/
  leading : LeadingRepeat := .literal
  /-- An interval with nothing before it, and a `*` or an interval right after another
  repetition, make the expression malformed. -/
  strictRepeats : Bool := false
  /-- A malformed interval makes its `{` an ordinary character. -/
  braceLiteral : Bool := false
  /-- A `)` that closes no group is an ordinary character. -/
  closeLiteral : Bool := false
  /-- Only `*` repeats: `+`, `?` and `|` are ordinary characters. -/
  limited : Bool := false
  /-- The escapes of words and boundaries are ordinary characters. -/
  plain : Bool := false
  /-- A range whose end comes before its start is empty rather than malformed. -/
  emptyRanges : Bool := false
  /-- The reading of `grep`'s line-selecting automaton. -/
  automaton : Bool := false
  /-- A pattern that ends right after the `[` (or `[^`) of a bracket set is malformed as a
  whole rather than an unclosed set. -/
  bareBracketBad : Bool := false

namespace RegexSyntax

/-- `grep` and `grep -G`. -/
def grepBasic : RegexSyntax := { extended := false, bareBracketBad := true }

/-- `grep -E`. -/
def grepExtended : RegexSyntax :=
  { extended := true, leading := .skipped, braceLiteral := true, closeLiteral := true, bareBracketBad := true }

/-- `sed`. -/
def sedBasic : RegexSyntax := { extended := false, strictRepeats := true }

/-- `sed -E`. -/
def sedExtended : RegexSyntax := { extended := true, leading := .refused }

/-- `sed --posix`: no operators beyond those of POSIX, and a lone `)` is ordinary. -/
def sedPosix (extended : Bool) : RegexSyntax :=
  { (if extended then sedExtended else sedBasic) with closeLiteral := true, limited := true, plain := true }

/-- `expr`. -/
def exprBasic : RegexSyntax := { extended := false, emptyRanges := true, bareBracketBad := true }

end RegexSyntax

/-! ## Tokens -/

/-- A token of an expression's text. -/
inductive RegexToken where
  /-- An ordinary character. -/
  | char (c : Char)
  /-- `.`. -/
  | period
  /-- The opening `[` of a bracket expression. -/
  | bracket
  /-- The opening of a group. -/
  | openGroup
  /-- The closing of a group. -/
  | closeGroup
  /-- The bar between alternatives. -/
  | bar
  /-- `*`, `+` or `?`. -/
  | repetition (c : Char)
  /-- The opening of an interval. -/
  | openBrace
  /-- The closing of an interval. -/
  | closeBrace
  /-- An anchor or a word boundary. -/
  | anchor (r : Regex)
  /-- A class escape. -/
  | escapeSet (r : Regex)
  /-- A back-reference. -/
  | backref (k : Nat)
  /-- A backslash that ends the text. -/
  | lone
  /-- The end of the text. -/
  | done
deriving Repr, Inhabited

/-- The character a token is when it stands for itself. -/
def RegexToken.literal : RegexToken → Char
  | .char c => c
  | .repetition c => c
  | .openBrace => '\x7b'
  | .closeBrace => '\x7d'
  | .closeGroup => ')'
  | .openGroup => '('
  | .bar => '|'
  | _ => '\\'

/-- Whether a token is `*` or the opening of an interval, which may not follow a repetition
where repetitions are strict. -/
def RegexToken.repeatsAgain : RegexToken → Bool
  | .repetition '*' => true
  | .openBrace => true
  | _ => false

/-- The token an escaped character makes. -/
def escapedToken (sx : RegexSyntax) (c : Char) : RegexToken :=
  match c with
  | '|' => if !sx.limited && !sx.extended then .bar else .char c
  | '(' => if !sx.extended then .openGroup else .char c
  | ')' => if !sx.extended then .closeGroup else .char c
  | '+' | '?' => if !sx.limited && !sx.extended then .repetition c else .char c
  | '\x7b' => if !sx.extended then .openBrace else .char c
  | '\x7d' => if !sx.extended then .closeBrace else .char c
  | '<' => if sx.plain then .char c else .anchor .wordStart
  | '>' => if sx.plain then .char c else .anchor .wordEnd
  | 'b' => if sx.plain then .char c else .anchor (.boundary true)
  | 'B' => if sx.plain then .char c else .anchor (.boundary false)
  | '\x60' => if sx.plain then .char c else .anchor .bufStart
  | '\x27' => if sx.plain then .char c else .anchor .bufEnd
  | 'w' => if sx.plain then .char c else .escapeSet (.set false [.named "alnum", .single '_'])
  | 'W' => if sx.plain then .char c else .escapeSet (.set true [.named "alnum", .single '_'])
  | 's' => if sx.plain then .char c else .escapeSet (.set false [.named "space"])
  | 'S' => if sx.plain then .char c else .escapeSet (.set true [.named "space"])
  | _ => if '1' ≤ c && c ≤ '9' then .backref (c.toNat - 48) else .char c

/-- Whether a basic `$` before this text is an anchor: at the end, or before the closing of a
group or a bar. -/
def dollarEnds (sx : RegexSyntax) : List Char → Bool
  | [] => true
  | '\\' :: ')' :: _ => true
  | '\\' :: '|' :: _ => !sx.limited
  | _ => false

/-- The token at the front of a text and the text after it. `caret` says that a basic `^` is an
anchor here: at the start of the expression, after a group's opening or after a bar. -/
def tokenAt (sx : RegexSyntax) (caret : Bool) : List Char → RegexToken × List Char
  | [] => (.done, [])
  | ['\\'] => (.lone, [])
  | '\\' :: c :: rest => (escapedToken sx c, rest)
  | c :: rest =>
    let tok : RegexToken := match c with
      | '|' => if sx.extended && !sx.limited then .bar else .char c
      | '*' => .repetition c
      | '+' | '?' => if sx.extended && !sx.limited then .repetition c else .char c
      | '\x7b' => if sx.extended then .openBrace else .char c
      | '\x7d' => if sx.extended then .closeBrace else .char c
      | '(' => if sx.extended then .openGroup else .char c
      | ')' => if sx.extended then .closeGroup else .char c
      | '[' => .bracket
      | '.' => .period
      | '^' => if sx.extended || caret then .anchor .start else .char c
      | '$' => if sx.extended || dollarEnds sx rest then .anchor .stop else .char c
      | _ => .char c
    (tok, rest)

/-! ## Intervals -/

/-- A piece of an interval's text. -/
inductive IntervalPiece where
  /-- The closing brace. -/
  | close
  /-- A comma. -/
  | comma
  /-- A digit. -/
  | digit (d : Nat)
  /-- Anything else. -/
  | other
deriving DecidableEq, Repr

/-- The piece at the front of an interval's text and the text after it; `none` at the end. -/
def intervalPiece (sx : RegexSyntax) : List Char → Option (IntervalPiece × List Char)
  | [] => none
  | ['\\'] => some (.other, [])
  | '\\' :: c :: rest =>
    if !sx.extended && c == '\x7d' then some (.close, rest)
    else if c == ',' then some (.comma, rest)
    else some (.other, rest)
  | c :: rest =>
    if sx.extended && c == '\x7d' then some (.close, rest)
    else if c == ',' then some (.comma, rest)
    else if c.isDigit then some (.digit (c.toNat - 48), rest)
    else some (.other, rest)

/-- A number of an interval up to the next closing brace or comma: `-1` for no digits, `-2`
for something that is no number, else its value (at most 32768); with the piece it stopped at
(`none` at the end of the text) and the text after that piece. The fuel bounds the pieces. -/
def intervalNumber (sx : RegexSyntax) : Nat → Int → List Char → Int × Option IntervalPiece × List Char
  | 0, _, cs => (-2, none, cs)
  | k + 1, num, cs =>
    match intervalPiece sx cs with
    | none => (-2, none, [])
    | some (.close, rest) => (num, some .close, rest)
    | some (.comma, rest) => (num, some .comma, rest)
    | some (.digit d, rest) =>
      intervalNumber sx k (if num == -2 then -2 else if num == -1 then d else min 32768 (num * 10 + d)) rest
    | some (.other, rest) => intervalNumber sx k (-2) rest

/-- How the text after an interval's opening brace reads. -/
inductive IntervalRead where
  /-- The bounds, and the text after the closing brace. -/
  | bounds (lo : Nat) (hi : Option Nat) (rest : List Char)
  /-- Something that is no number; `atEnd` when the text ran out. -/
  | malformed (atEnd : Bool)
  /-- No bounds, bounds out of order, or no closing brace after them. -/
  | badContent
  /-- A bound above 32767. -/
  | tooBig

/-- Reads an interval after its opening brace: `{m}`, `{m,}`, `{,n}`, `{m,n}` and `{,}`. -/
def intervalAt (sx : RegexSyntax) (cs : List Char) : IntervalRead :=
  let fuel := cs.length + 1
  let (first, stopA, restA) := intervalNumber sx fuel (-1) cs
  if first == -1 && stopA != some .comma then .badContent
  else
    let lo := if first == -1 then 0 else first
    let (hi, stop, rest) :=
      if lo == -2 then (lo, stopA, restA)
      else if stopA == some .close then (lo, stopA, restA)
      else intervalNumber sx fuel (-1) restA
    if lo == -2 || hi == -2 then .malformed stop.isNone
    else if (hi != -1 && lo > hi) || stop != some .close then .badContent
    else if 32767 < (if hi == -1 then lo else hi) then .tooBig
    else .bounds lo.toNat (if hi == -1 then none else some hi.toNat) rest

/-! ## Bracket expressions -/

/-- A token inside a bracket expression. -/
inductive BracketToken where
  /-- An ordinary character. -/
  | char (c : Char)
  /-- `[.` -/
  | openColl
  /-- `[=` -/
  | openEquiv
  /-- `[:` -/
  | openClass
  /-- `-` -/
  | dash
  /-- `]` -/
  | close
  /-- The end of the text. -/
  | done
deriving DecidableEq, Repr

/-- The token at the front of a bracket expression's text and the text after it. -/
def bracketToken : List Char → BracketToken × List Char
  | [] => (.done, [])
  | '[' :: '.' :: rest => (.openColl, rest)
  | '[' :: '=' :: rest => (.openEquiv, rest)
  | '[' :: ':' :: rest => (.openClass, rest)
  | '-' :: rest => (.dash, rest)
  | ']' :: rest => (.close, rest)
  | c :: rest => (.char c, rest)

/-- An element of a bracket expression. -/
inductive BracketElem where
  /-- A character. -/
  | char (c : Char)
  /-- A collating element `[.x.]`. -/
  | coll (name : List Char)
  /-- An equivalence class `[=x=]`. -/
  | equiv (name : List Char)
  /-- A class `[:name:]`. -/
  | cls (name : List Char)

/-- The name inside `[. .]`, `[= =]` or `[: :]` up to the delimiter followed by `]`, and the
text after them; `none` when the text ends first or the name reaches 32 characters. -/
def symbolName (delim : Char) : Nat → List Char → List Char → Option (List Char × List Char)
  | 0, _, _ => none
  | k + 1, cs, acc =>
    if acc.length ≥ 32 then none
    else
      match cs with
      | c :: ']' :: rest => if c == delim then some (acc, rest) else symbolName delim k (']' :: rest) (acc ++ [c])
      | [_] | [] => none
      | c :: rest => symbolName delim k rest (acc ++ [c])

/-- Reads one element from its token; a `-` that is not first must come just before the `]`. -/
def bracketElem (tok : BracketToken) (rest : List Char) (first : Bool) :
    Except RegexError (BracketElem × List Char) :=
  let named (delim : Char) (make : List Char → BracketElem) : Except RegexError (BracketElem × List Char) :=
    match symbolName delim (rest.length + 1) rest [] with
    | some (name, after) => .ok (make name, after)
    | none => .error .unmatchedBracket
  match tok with
  | .openColl => named '.' .coll
  | .openEquiv => named '=' .equiv
  | .openClass => named ':' .cls
  | .dash =>
    if !first && (bracketToken rest).1 != .close then .error .badRange else .ok (.char '-', rest)
  | .char c => .ok (.char c, rest)
  | .close => .ok (.char ']', rest)
  | .done => .error .unmatchedBracket

/-- The names of the character classes. -/
def classNames : List String :=
  ["alpha", "upper", "lower", "digit", "xdigit", "space", "print", "punct", "graph", "cntrl",
   "blank", "alnum"]

/-- The one character a collating element or equivalence class names, which must be a single
one-byte character. -/
def singleName (name : List Char) : Except RegexError Char :=
  match name with
  | [c] => if c.toNat < 128 then .ok c else .error .badCollation
  | _ => .error .badCollation

/-- The item an element stands for on its own. -/
def BracketElem.item : BracketElem → Except RegexError SetItem
  | .char c => .ok (.single c)
  | .coll name => (singleName name).map .single
  | .equiv name => (singleName name).map .single
  | .cls name =>
    let n := String.ofList name
    if classNames.contains n then .ok (.named n) else .error .badClass

/-- The character a range starts or ends with. -/
def BracketElem.rangeEnd : BracketElem → Except RegexError Char
  | .char c => .ok c
  | .coll name => singleName name
  | _ => .error .badRange

/-- The items of a range, checked. -/
def rangeItems (sx : RegexSyntax) (a b : BracketElem) : Except RegexError (List SetItem) := do
  match a, b with
  | .cls _, _ | .equiv _, _ | _, .cls _ | _, .equiv _ => throw .badRange
  | _, _ => pure ()
  let lo ← a.rangeEnd
  let hi ← b.rangeEnd
  if lo ≤ hi then pure [.range lo hi]
  else if sx.emptyRanges then pure []
  else throw .badRange

/-- The elements of a bracket expression from the current token on, and the text after its
closing `]`. The fuel bounds the elements. -/
def bracketItems (sx : RegexSyntax) : Nat → BracketToken → List Char → Bool → List SetItem →
    Except RegexError (List SetItem × List Char)
  | 0, _, _, _, _ => .error .unmatchedBracket
  | k + 1, tok, rest, first, acc => do
    let (start, rest) ← bracketElem tok rest first
    let (next, after) := bracketToken rest
    let rangeable := match start with
      | .cls _ | .equiv _ => false
      | _ => true
    if rangeable && next == .done then throw .unmatchedBracket
    let (tok2, rest2) := bracketToken after
    let ranged := rangeable && next == .dash && tok2 != .close
    if ranged && tok2 == .done then throw .unmatchedBracket
    let (items, next, after) ←
      if ranged then do
        let (stop, rest3) ← bracketElem tok2 rest2 true
        let items ← rangeItems sx start stop
        let (n3, a3) := bracketToken rest3
        pure (items, n3, a3)
      else if rangeable && next == .dash then do
        let item ← start.item
        pure ([item], BracketToken.char '-', after)
      else do
        let item ← start.item
        pure ([item], next, after)
    match next with
    | .done => throw .unmatchedBracket
    | .close => pure (acc ++ items, after)
    | _ => bracketItems sx k next after false (acc ++ items)

/-- A bracket expression after its `[`: the set and the text after its `]`. A `^` first negates
it, and a `]` first (after the `^`) is a member. -/
def bracketAt (sx : RegexSyntax) (cs : List Char) : Except RegexError (Regex × List Char) :=
  let (neg, body) := match cs with
    | '^' :: b => (true, b)
    | b => (false, b)
  if sx.bareBracketBad && body.isEmpty then .error .badPattern else
  let (tok, rest) := match bracketToken body with
    | (.close, rest) => (BracketToken.char ']', rest)
    | other => other
  (bracketItems sx (body.length + 1) tok rest true []).map fun (items, after) => (.set neg items, after)

/-! ## Expressions -/

/-- A reader of an expression's text. -/
structure RegexReader where
  /-- The current token. -/
  tok : RegexToken
  /-- The text after it. -/
  rest : List Char
  /-- The next group's number. -/
  nextGroup : Nat
  /-- The groups closed so far. -/
  closed : List Nat
  /-- Whether nothing but anchors has been read in the current branch (the automaton warns
  about a repetition then). -/
  fresh : Bool
  /-- The warnings so far. -/
  warnings : List String

namespace RegexReader

/-- The reader at the next token. -/
def fetch (r : RegexReader) (sx : RegexSyntax) (caret : Bool) : RegexReader :=
  let (t, rest) := tokenAt sx caret r.rest
  { r with tok := t, rest := rest }

/-- The reader with a warning added, when the automaton reads at the start of a branch. -/
def warnFresh (r : RegexReader) (sx : RegexSyntax) (what : String) : RegexReader :=
  if sx.automaton && r.fresh then { r with warnings := r.warnings ++ [what ++ " at start of expression"] }
  else r

/-- Whether the current token ends a branch at nesting depth `nest`. -/
def endsBranch (r : RegexReader) (nest : Nat) : Bool :=
  match r.tok with
  | .bar | .done => true
  | .closeGroup => nest > 0
  | _ => false

end RegexReader

mutual

/-- Alternatives at nesting depth `nest`, from the current token: the expression and the reader
at the token that ended them. -/
def readAlt (sx : RegexSyntax) : Nat → Nat → RegexReader → Except RegexError (Regex × RegexReader)
  | 0, _, _ => .error .unmatchedParen
  | n + 1, nest, r => do
    let (first, r) ← readBranch sx n nest r
    readMoreAlts sx n nest first r

/-- The alternatives after the first, each after a bar. -/
def readMoreAlts (sx : RegexSyntax) : Nat → Nat → Regex → RegexReader → Except RegexError (Regex × RegexReader)
  | 0, _, _, _ => .error .unmatchedParen
  | n + 1, nest, acc, r =>
    match r.tok with
    | .bar => do
      let r := { r.fetch sx true with fresh := true }
      let (branch, r) ← if r.endsBranch nest then pure (Regex.seq [], r) else readBranch sx n nest r
      readMoreAlts sx n nest (.alt acc branch) r
    | _ => pure (acc, r)

/-- A branch: expressions one after the other up to a bar, the end or a closing group. -/
def readBranch (sx : RegexSyntax) : Nat → Nat → RegexReader → Except RegexError (Regex × RegexReader)
  | 0, _, _ => .error .unmatchedParen
  | n + 1, nest, r => do
    let (first, r) ← readExpr sx n nest r
    readMoreExprs sx n nest [first] r

/-- The expressions of a branch after its first. -/
def readMoreExprs (sx : RegexSyntax) : Nat → Nat → List Regex → RegexReader → Except RegexError (Regex × RegexReader)
  | 0, _, _, _ => .error .unmatchedParen
  | n + 1, nest, acc, r =>
    if r.endsBranch nest then pure (.seq acc, r)
    else do
      let (e, r) ← readExpr sx n nest r
      readMoreExprs sx n nest (acc ++ [e]) r

/-- One expression: an atom with the repetitions after it. -/
def readExpr (sx : RegexSyntax) : Nat → Nat → RegexReader → Except RegexError (Regex × RegexReader)
  | 0, _, _ => .error .unmatchedParen
  | n + 1, nest, r =>
    let atom (a : Regex) (r : RegexReader) : Except RegexError (Regex × RegexReader) :=
      readDups sx n a { r.fetch sx false with fresh := false }
    match r.tok with
    | .char c => atom (.lit c) r
    | .period => atom .any r
    | .escapeSet s => atom s r
    | .bracket => do
      let (set, after) ← bracketAt sx r.rest
      atom set { r with rest := after }
    | .openGroup => do
      let k := r.nextGroup
      let r := { r with nextGroup := k + 1, fresh := true }.fetch sx true
      let (inner, r) ← match r.tok with
        | .closeGroup => pure (Regex.seq [], r)
        | _ => readAlt sx n (nest + 1) r
      match r.tok with
      | .closeGroup => atom (.group k inner) { r with closed := k :: r.closed }
      | _ => .error .unmatchedParen
    | .backref k => if r.closed.contains k then atom (.backref k) r else .error .badBackref
    | .closeGroup => if sx.closeLiteral then atom (.lit ')') r else .error .unmatchedClose
    | .closeBrace => atom (.lit '\x7d') r
    | .anchor a =>
      if sx.automaton then readDups sx n a (r.fetch sx false) else pure (a, r.fetch sx false)
    | .bar | .done => pure (.seq [], r)
    | .lone => .error .trailingBackslash
    | .openBrace =>
      if sx.strictRepeats then .error .badRepeat
      else
        match sx.leading with
        | .refused => .error .badRepeat
        | .literal => atom (.lit '\x7b') r
        | .skipped =>
          if sx.automaton then
            match intervalAt sx r.rest with
            | .bounds _ _ after =>
              readExpr sx n nest ({ r.warnFresh sx "\x7b...\x7d" with rest := after }.fetch sx false)
            | _ => atom (.lit '\x7b') r
          else readExpr sx n nest (r.fetch sx false)
    | .repetition c =>
      match sx.leading with
      | .refused => .error .badRepeat
      | .literal => atom (.lit c) r
      | .skipped => readExpr sx n nest ((r.warnFresh sx c.toString).fetch sx false)

/-- The repetitions after an atom. -/
def readDups (sx : RegexSyntax) : Nat → Regex → RegexReader → Except RegexError (Regex × RegexReader)
  | 0, a, r => pure (a, r)
  | n + 1, a, r =>
    let literalAfterAnchor := sx.automaton && r.fresh && sx.leading == .literal
    match r.tok with
    | .repetition c =>
      if literalAfterAnchor then pure (a, r)
      else
        let lo := if c == '+' then 1 else 0
        let hi := if c == '?' then some 1 else none
        let r := (r.warnFresh sx c.toString).fetch sx false
        if sx.strictRepeats && r.tok.repeatsAgain then .error .badRepeat
        else readDups sx n (.rep a lo hi) r
    | .openBrace =>
      if literalAfterAnchor then pure (a, r)
      else
        match intervalAt sx r.rest with
        | .bounds lo hi after =>
          let r := { r.warnFresh sx "\x7b...\x7d" with rest := after }.fetch sx false
          if sx.strictRepeats && r.tok.repeatsAgain then .error .badRepeat
          else readDups sx n (.rep a lo hi) r
        | .malformed atEnd =>
          if sx.braceLiteral then pure (a, { r with tok := .char '\x7b' })
          else .error (if atEnd then .unmatchedBrace else .badBraceContent)
        | .badContent => .error .badBraceContent
        | .tooBig => .error .tooBig
    | _ => pure (a, r)

end

/-- A regular expression read from its text under a dialect, with the warnings of the
reading, or why the text is malformed. -/
def Regex.read (sx : RegexSyntax) (text : String) : Except RegexError (Regex × List String) := do
  let cs := text.toList
  let r : RegexReader := { tok := .done, rest := cs, nextGroup := 1, closed := [], fresh := true, warnings := [] }
  let (re, r) ← readAlt sx (8 * cs.length + 16) 0 (r.fetch sx true)
  match r.tok with
  | .done => pure (re, r.warnings)
  | _ => throw .unmatchedParen

/-- A regular expression read from its text under a dialect, or why the text is malformed. -/
def Regex.parse (sx : RegexSyntax) (text : String) : Except RegexError Regex :=
  (Regex.read sx text).map (·.1)

end DefUseCoverage.Shell
