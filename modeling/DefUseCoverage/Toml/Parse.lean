import DefUseCoverage.Toml.Value
import DefUseCoverage.Json.Double
/-!
# Reading TOML

A reader of TOML 1.0 documents. It refuses what the standard refuses: a key written twice, a
table header repeated or naming a table that dotted keys made, dotted keys reaching into a
table that a header made or into an inline table, a header through a value, control
characters in strings and comments, a carriage return not followed by a line feed,
integers outside 64 bits, and numbers with leading zeros or stray underscores.

The document is first read into a flat list of definitions, each at a path of keys and
array-of-tables positions, which is what the rules on redefinition are about; `tableAt`
then builds the nested value. Every reader here takes a `fuel` argument no smaller than the
length of the text still to read, so each one ends.
-/

namespace DefUseCoverage.Toml

/-- Text still to read. -/
abbrev Input := List Char

/-- A blank inside a line. -/
def isWs (c : Char) : Bool := c == ' ' || c == '\t'

/-- The text without its leading blanks. -/
def skipWs (cs : Input) : Input := cs.dropWhile isWs

/-- A character that no string or comment may hold: a control character other than tab. -/
def isControl (c : Char) : Bool := (c.toNat < 0x20 && c != '\t') || c.toNat == 0x7F

/-- A line break: a line feed, or a carriage return and a line feed. -/
def newline? : Input → Option Input
  | '\n' :: r => some r
  | '\r' :: '\n' :: r => some r
  | _ => none

/-- Skips a comment, up to but not including the line break. -/
def skipComment? : Input → Option Input
  | '#' :: rest =>
    let (body, r) := rest.span (fun c => c != '\n' && c != '\r')
    if body.any isControl then none else some r
  | cs => some cs

/-- The end of a line after an expression: blanks, a comment, then a break or the end. -/
def endOfLine? (cs : Input) : Option Input := do
  let r ← skipComment? (skipWs cs)
  match r with
  | [] => some []
  | _ => newline? r

/-- Blanks, comments and line breaks, as allowed between array items. -/
def skipFiller : Nat → Input → Option Input
  | 0, _ => none
  | fuel + 1, cs =>
    let cs := skipWs cs
    match cs with
    | '#' :: _ => do
      let r ← skipComment? cs
      match r with
      | [] => some []
      | _ => skipFiller fuel (← newline? r)
    | '\n' :: r => skipFiller fuel r
    | '\r' :: '\n' :: r => skipFiller fuel r
    | _ => some cs

/-- A character of a bare key. -/
def isBareKeyChar (c : Char) : Bool := c.isAlphanum || c == '_' || c == '-'

/-- The value of a hexadecimal digit. -/
def hexValue? (c : Char) : Option Nat :=
  if c.isDigit then some (c.toNat - 48)
  else if 'a' ≤ c ∧ c ≤ 'f' then some (c.toNat - 87)
  else if 'A' ≤ c ∧ c ≤ 'F' then some (c.toNat - 55)
  else none

/-- The number written by hexadecimal digits. -/
def hexNumber? (ds : List Char) : Option Nat :=
  ds.foldlM (fun acc d => (hexValue? d).map (acc * 16 + ·)) 0

/-- The character of a Unicode scalar value. -/
def scalarChar? (n : Nat) : Option Char :=
  if n < 0xD800 ∨ (0xDFFF < n ∧ n ≤ 0x10FFFF) then some (Char.ofNat n) else none

/-- The character a one-letter escape stands for. -/
def shortEscape? : Char → Option Char
  | 'b' => some '\x08'
  | 't' => some '\t'
  | 'n' => some '\n'
  | 'f' => some '\x0c'
  | 'r' => some '\r'
  | '"' => some '"'
  | '\\' => some '\\'
  | _ => none

/-- An escape after its backslash: the character and the rest. -/
def escape? : Input → Option (Char × Input)
  | 'u' :: a :: b :: c :: d :: r => do
    let n ← hexNumber? [a, b, c, d]
    pure (← scalarChar? n, r)
  | 'U' :: a :: b :: c :: d :: e :: f :: g :: h :: r => do
    let n ← hexNumber? [a, b, c, d, e, f, g, h]
    pure (← scalarChar? n, r)
  | e :: r => (shortEscape? e).map (·, r)
  | [] => none

/-- A basic string after its opening quote. -/
def basicString : Nat → Input → Option (List Char × Input)
  | 0, _ => none
  | _ + 1, [] => none
  | _ + 1, '"' :: r => some ([], r)
  | fuel + 1, '\\' :: r => do
    let (c, r) ← escape? r
    let (cs, r) ← basicString fuel r
    pure (c :: cs, r)
  | fuel + 1, c :: r =>
    if isControl c || c == '\n' then none
    else (basicString fuel r).map fun (cs, r) => (c :: cs, r)

/-- A literal string after its opening apostrophe. -/
def literalString (cs : Input) : Option (List Char × Input) :=
  let (body, r) := cs.span (fun c => c != '\x27' && c != '\n' && c != '\r')
  match r with
  | '\x27' :: r => if body.any isControl then none else some (body, r)
  | _ => none

/-- The quotes that may close a multi-line string beyond its three: up to two more. -/
def extraQuotes (q : Char) : Input → List Char × Input
  | a :: b :: r => if a == q && b == q then ([q, q], r) else if a == q then ([q], b :: r) else ([], a :: b :: r)
  | [a] => if a == q then ([q], []) else ([], [a])
  | [] => ([], [])

/-- Skips blanks and line breaks after a line-ending backslash. -/
def skipTrimmed : Nat → Input → Input
  | 0, cs => cs
  | fuel + 1, c :: r =>
    if isWs c || c == '\n' then skipTrimmed fuel r
    else match c, r with
      | '\r', '\n' :: r => skipTrimmed fuel r
      | _, _ => c :: r
  | _ + 1, [] => []

/-- A backslash ends a line when only blanks stand between it and a line break. -/
def endsLine (cs : Input) : Bool := (newline? (skipWs cs)).isSome

/-- The body of a multi-line basic string, after the opening quotes and first break. -/
def multiBasic : Nat → Input → Option (List Char × Input)
  | 0, _ => none
  | _ + 1, [] => none
  | _ + 1, '"' :: '"' :: '"' :: r => some (extraQuotes '"' r)
  | fuel + 1, '\\' :: r =>
    if endsLine r then multiBasic fuel (skipTrimmed r.length r)
    else do
      let (c, r) ← escape? r
      let (cs, r) ← multiBasic fuel r
      pure (c :: cs, r)
  | fuel + 1, '\r' :: '\n' :: r => (multiBasic fuel r).map fun (cs, r) => ('\n' :: cs, r)
  | fuel + 1, c :: r =>
    if isControl c && c != '\n' then none
    else (multiBasic fuel r).map fun (cs, r) => (c :: cs, r)

/-- The body of a multi-line literal string, after the opening quotes and first break. -/
def multiLiteral : Nat → Input → Option (List Char × Input)
  | 0, _ => none
  | _ + 1, [] => none
  | _ + 1, '\x27' :: '\x27' :: '\x27' :: r => some (extraQuotes '\x27' r)
  | fuel + 1, '\r' :: '\n' :: r => (multiLiteral fuel r).map fun (cs, r) => ('\n' :: cs, r)
  | fuel + 1, c :: r =>
    if isControl c && c != '\n' then none
    else (multiLiteral fuel r).map fun (cs, r) => (c :: cs, r)

/-- Drops one line break right after the opening quotes of a multi-line string. -/
def dropFirstBreak (cs : Input) : Input := (newline? cs).getD cs

/-- A key part: bare, or a one-line quoted string. -/
def simpleKey? (cs : Input) : Option (String × Input) :=
  match cs with
  | '"' :: r => (basicString cs.length r).map fun (k, r) => (String.ofList k, r)
  | '\x27' :: r => (literalString r).map fun (k, r) => (String.ofList k, r)
  | _ =>
    match cs.span isBareKeyChar with
    | ([], _) => none
    | (k, r) => some (String.ofList k, r)

/-- A dotted key: its parts and the rest. -/
def dottedKey : Nat → Input → Option (List String × Input)
  | 0, _ => none
  | fuel + 1, cs => do
    let (k, r) ← simpleKey? (skipWs cs)
    match skipWs r with
    | '.' :: more => (dottedKey fuel more).map fun (ks, r) => (k :: ks, r)
    | _ => some ([k], r)

/-- Digits with single underscores between them, each digit passing `ok`. -/
def digitsOk (ok : Char → Bool) : List Char → Bool
  | [] => false
  | [d] => ok d
  | d :: '_' :: rest => ok d && digitsOk ok rest
  | d :: rest => ok d && digitsOk ok rest

/-- Digits without their underscores. -/
def stripUnderscores (ds : List Char) : List Char := ds.filter (· != '_')

/-- The value of digits in a base. -/
def digitsValue (base : Nat) (ds : List Char) : Nat :=
  (stripUnderscores ds).foldl (fun acc d => acc * base + ((hexValue? d).getD 0)) 0

/-- A decimal integer without sign: `0`, or digits not starting with `0`. -/
def decimalOk : List Char → Bool
  | ['0'] => true
  | '0' :: _ => false
  | ds => digitsOk Char.isDigit ds

/-- The sign and digits of a signed token. -/
def splitSign : List Char → Int × List Char
  | '+' :: r => (1, r)
  | '-' :: r => (-1, r)
  | r => (1, r)

/-- Fits in a 64-bit signed integer. -/
def fits64 (i : Int) : Bool := -9223372036854775808 ≤ i && i < 9223372036854775808

/-- An integer token. -/
def integer? (tok : List Char) : Option Int :=
  let checked (i : Int) : Option Int := if fits64 i then some i else none
  match tok with
  | '0' :: 'x' :: ds => if digitsOk (fun c => (hexValue? c).isSome) ds then checked (digitsValue 16 ds) else none
  | '0' :: 'o' :: ds => if digitsOk (fun c => '0' ≤ c ∧ c ≤ '7') ds then checked (digitsValue 8 ds) else none
  | '0' :: 'b' :: ds => if digitsOk (fun c => c == '0' || c == '1') ds then checked (digitsValue 2 ds) else none
  | _ =>
    let (sign, ds) := splitSign tok
    if decimalOk ds then checked (sign * digitsValue 10 ds) else none

/-- A float token: an integer part with a fraction, an exponent or both, or `inf`/`nan`. -/
def isFloat (tok : List Char) : Bool :=
  let (_, body) := splitSign tok
  if body == ['i', 'n', 'f'] || body == ['n', 'a', 'n'] then true
  else
    let (intPart, rest) := body.span (fun c => c.isDigit || c == '_')
    let expOk (e : List Char) : Bool :=
      let (_, ds) := splitSign e
      digitsOk Char.isDigit ds
    decimalOk intPart &&
      match rest with
      | '.' :: more =>
        let (frac, after) := more.span (fun c => c.isDigit || c == '_')
        digitsOk Char.isDigit frac &&
          match after with
          | [] => true
          | e :: ex => (e == 'e' || e == 'E') && expOk ex
      | e :: ex => (e == 'e' || e == 'E') && expOk ex
      | [] => false

/-- Whether a float token is a number so large that it rounds to positive infinity, which
a document may not hold. A negative one rounds to negative infinity and stands. -/
def floatOverflows (tok : List Char) : Bool :=
  let (sign, body) := splitSign tok
  if sign < 0 || body == ['i', 'n', 'f'] || body == ['n', 'a', 'n'] then false
  else
    let body := stripUnderscores body
    let (mantissa, rest) := body.span (fun c => c.isDigit || c == '.')
    let (whole, frac) := mantissa.span Char.isDigit
    let frac := frac.drop 1
    let exponent : Int :=
      match rest with
      | _ :: ex =>
        let (s, ds) := splitSign ex
        s * (digitsValue 10 ds : Int)
      | [] => 0
    let m := digitsValue 10 (whole ++ frac)
    let e := exponent - frac.length
    let size : Int := (Nat.toDigits 10 m).length + e
    if m == 0 || size < 300 then false
    else if size > 320 then true
    else
      let value := if 0 ≤ e then Double.round (m * Double.tenPow e.toNat) 1 0
        else Double.round m (Double.tenPow e.natAbs) 0
      value == .infinite

/-- `n` digits. -/
def nDigits (n : Nat) (cs : List Char) : Bool := cs.length == n && cs.all Char.isDigit

/-- A time `HH:MM:SS` with an optional fraction. -/
def timeOk (cs : List Char) : Bool :=
  match cs with
  | h1 :: h2 :: ':' :: m1 :: m2 :: ':' :: s1 :: s2 :: rest =>
    nDigits 2 [h1, h2] && nDigits 2 [m1, m2] && nDigits 2 [s1, s2] &&
      (decide ((h1.toNat - 48) * 10 + (h2.toNat - 48) < 24)) &&
      (decide ((m1.toNat - 48) * 10 + (m2.toNat - 48) < 60)) &&
      (decide ((s1.toNat - 48) * 10 + (s2.toNat - 48) ≤ 60)) &&
      match rest with
      | [] => true
      | '.' :: frac => !frac.isEmpty && frac.all Char.isDigit
      | _ => false
  | _ => false

/-- A time with an optional offset (`Z` or `+HH:MM`/`-HH:MM`). -/
def timeWithOffsetOk (cs : List Char) : Bool :=
  match cs.reverse with
  | 'Z' :: r => timeOk r.reverse
  | 'z' :: r => timeOk r.reverse
  | m2 :: m1 :: ':' :: h2 :: h1 :: s :: r =>
    if s == '+' || s == '-' then
      nDigits 4 [h1, h2, m1, m2] && timeOk r.reverse &&
        (decide ((h1.toNat - 48) * 10 + (h2.toNat - 48) < 24)) &&
        (decide ((m1.toNat - 48) * 10 + (m2.toNat - 48) < 60))
    else timeOk cs
  | _ => timeOk cs

/-- The number of days of a month (1 to 12) of a year of the Gregorian calendar. -/
def monthDays (year month : Nat) : Nat :=
  if month == 2 then
    if year % 4 == 0 && (year % 100 != 0 || year % 400 == 0) then 29 else 28
  else if month == 4 || month == 6 || month == 9 || month == 11 then 30
  else 31

/-- A date `YYYY-MM-DD` whose day exists in its month. -/
def dateOk (cs : List Char) : Bool :=
  match cs with
  | [y1, y2, y3, y4, '-', m1, m2, '-', d1, d2] =>
    let two (a b : Char) : Nat := (a.toNat - 48) * 10 + (b.toNat - 48)
    let year := two y1 y2 * 100 + two y3 y4
    let month := two m1 m2
    let day := two d1 d2
    nDigits 4 [y1, y2, y3, y4] && nDigits 2 [m1, m2] && nDigits 2 [d1, d2] &&
      (decide (1 ≤ month)) && (decide (month ≤ 12)) &&
      (decide (1 ≤ day)) && (decide (day ≤ monthDays year month))
  | _ => false

/-- A date, a time or a date and time joined by `T`, `t` or a space. -/
def datetimeOk (cs : List Char) : Bool :=
  if dateOk cs || timeOk cs then true
  else
    let date := cs.take 10
    match cs.drop 10 with
    | sep :: time => dateOk date && (sep == 'T' || sep == 't' || sep == ' ') && timeWithOffsetOk time
    | [] => false

/-- A character of a number, boolean or date token. -/
def isTokenChar (c : Char) : Bool :=
  c.isAlphanum || c == '_' || c == '+' || c == '-' || c == '.' || c == ':'

/-- A scalar that is not a string: its token and the rest, with a space-separated time
joined to a date. -/
def scalarToken (cs : Input) : List Char × Input :=
  let (tok, r) := cs.span isTokenChar
  match r with
  | ' ' :: d :: more =>
    if dateOk tok && d.isDigit then
      let (time, r2) := (d :: more).span isTokenChar
      (tok ++ ' ' :: time, r2)
    else (tok, r)
  | _ => (tok, r)

/-- The value of a token that is not a string. -/
def bareValue? (tok : List Char) : Option Toml :=
  if tok == ['t', 'r', 'u', 'e'] then some (.boolean true)
  else if tok == ['f', 'a', 'l', 's', 'e'] then some (.boolean false)
  else if tok.isEmpty then none
  else match integer? tok with
    | some i => some (.integer i)
    | none =>
      if isFloat tok then
        if floatOverflows tok then none else some (.float (String.ofList tok))
      else if datetimeOk tok then some (.datetime (String.ofList tok))
      else none

/-- A definition at a path of a document being read. -/
inductive Entry where
  /-- A table opened by its own header. -/
  | explicitTable
  /-- A table made by a header of a table inside it. -/
  | implicitTable
  /-- A table made by a dotted key. -/
  | dottedTable
  /-- An array of tables, with its number of tables. -/
  | tables (count : Nat)
  /-- A value, inline tables and arrays included. -/
  | value (v : Toml)

/-- A step of a path: a key, or a position in an array of tables. -/
inductive Step where
  /-- A key of a table. -/
  | key (k : String)
  /-- A table of an array of tables. -/
  | index (i : Nat)
deriving DecidableEq

/-- The definitions of a document in the order they were made. -/
abbrev Defs := List (List Step × Entry)

/-- The definition at a path. -/
def entryAt (defs : Defs) (p : List Step) : Option Entry :=
  (defs.find? (·.1 == p)).map (·.2)

/-- Replaces the definition at a path, or adds it at the end. -/
def setEntry (defs : Defs) (p : List Step) (e : Entry) : Defs :=
  if defs.any (·.1 == p) then defs.map fun d => if d.1 == p then (p, e) else d
  else defs ++ [(p, e)]

/-- Walks the leading keys of a header from the root, making tables that are missing and
entering the last table of an array of tables. -/
def headerPrefix (defs : Defs) : List Step → List String → Option (Defs × List Step)
  | cur, [] => some (defs, cur)
  | cur, k :: ks =>
    let p := cur ++ [.key k]
    match entryAt defs p with
    | none => headerPrefix (setEntry defs p .implicitTable) p ks
    | some .explicitTable | some .implicitTable | some .dottedTable => headerPrefix defs p ks
    | some (.tables n) => headerPrefix defs (p ++ [.index (n - 1)]) ks
    | some (.value _) => none

/-- A `[table]` header: the definitions after it and the table it opens. -/
def openTable (defs : Defs) (keys : List String) : Option (Defs × List Step) := do
  let (leading, last) ← match keys.reverse with
    | [] => none
    | l :: rs => some (rs.reverse, l)
  let (defs, cur) ← headerPrefix defs [] leading
  let p := cur ++ [.key last]
  match entryAt defs p with
  | none => some (setEntry defs p .explicitTable, p)
  | some .implicitTable => some (setEntry defs p .explicitTable, p)
  | _ => none

/-- A `[[table]]` header: the definitions after it and the new table it opens. -/
def openArrayTable (defs : Defs) (keys : List String) : Option (Defs × List Step) := do
  let (leading, last) ← match keys.reverse with
    | [] => none
    | l :: rs => some (rs.reverse, l)
  let (defs, cur) ← headerPrefix defs [] leading
  let p := cur ++ [.key last]
  match entryAt defs p with
  | none => some (setEntry defs p (.tables 1), p ++ [.index 0])
  | some (.tables n) => some (setEntry defs p (.tables (n + 1)), p ++ [.index n])
  | _ => none

/-- A key-value pair in the table at `cur`: dotted parts make or enter tables that dotted
keys or headers of inner tables made; the last key must be new. -/
def assign (defs : Defs) : List Step → List String → Toml → Option Defs
  | _, [], _ => none
  | cur, [k], v =>
    let p := cur ++ [.key k]
    match entryAt defs p with
    | none => some (setEntry defs p (.value v))
    | some _ => none
  | cur, k :: ks, v =>
    let p := cur ++ [.key k]
    match entryAt defs p with
    | none => assign (setEntry defs p .dottedTable) p ks v
    | some .dottedTable | some .implicitTable => assign defs p ks v
    | _ => none

/-- The entries of the table at a path, in the order they were made. -/
def tableAt (defs : Defs) : Nat → List Step → List (String × Toml)
  | 0, _ => []
  | fuel + 1, p =>
    defs.filterMap fun (q, e) =>
      match q.getLast?, q.dropLast == p with
      | some (.key k), true =>
        match e with
        | .value v => some (k, v)
        | .tables n =>
          some (k, .array ((List.range n).map fun i => .table (tableAt defs fuel (q ++ [.index i]))))
        | _ => some (k, .table (tableAt defs fuel q))
      | _, _ => none

/-- The nested value of a list of definitions. -/
def Defs.toTable (defs : Defs) : Toml := .table (tableAt defs (defs.length + 1) [])

mutual

/-- A value: string, number, boolean, date, array or inline table. -/
def value : Nat → Input → Option (Toml × Input)
  | 0, _ => none
  | fuel + 1, cs =>
    match cs with
    | '"' :: '"' :: '"' :: r =>
      (multiBasic r.length (dropFirstBreak r)).map fun (s, r) => (.string (String.ofList s), r)
    | '"' :: r => (basicString r.length r).map fun (s, r) => (.string (String.ofList s), r)
    | '\x27' :: '\x27' :: '\x27' :: r =>
      (multiLiteral r.length (dropFirstBreak r)).map fun (s, r) => (.string (String.ofList s), r)
    | '\x27' :: r => (literalString r).map fun (s, r) => (.string (String.ofList s), r)
    | '[' :: r => do
      let r ← skipFiller r.length r
      match r with
      | ']' :: r => some (.array [], r)
      | _ => (arrayItems fuel r).map fun (xs, r) => (.array xs, r)
    | '\x7b' :: r =>
      match skipWs r with
      | '\x7d' :: r => some (.table [], r)
      | _ => (inlineEntries fuel [] r).map fun (defs, r) => (defs.toTable, r)
    | _ =>
      let (tok, r) := scalarToken cs
      (bareValue? tok).map (·, r)

/-- Array items after the opening bracket and any filler, up to the closing bracket. -/
def arrayItems : Nat → Input → Option (List Toml × Input)
  | 0, _ => none
  | fuel + 1, cs => do
    let (v, r) ← value fuel cs
    let r ← skipFiller r.length r
    match r with
    | ']' :: r => some ([v], r)
    | ',' :: r =>
      let r ← skipFiller r.length r
      match r with
      | ']' :: r => some ([v], r)
      | _ => (arrayItems fuel r).map fun (vs, r) => (v :: vs, r)
    | _ => none

/-- The entries of an inline table, up to the closing brace. -/
def inlineEntries : Nat → Defs → Input → Option (Defs × Input)
  | 0, _, _ => none
  | fuel + 1, defs, cs => do
    let (keys, r) ← dottedKey cs.length cs
    let r ← match skipWs r with
      | '=' :: r => some (skipWs r)
      | _ => none
    let (v, r) ← value fuel r
    let defs ← assign defs [] keys v
    match skipWs r with
    | '\x7d' :: r => some (defs, r)
    | ',' :: r => inlineEntries fuel defs r
    | _ => none

end

/-- A document being read: its definitions and the table that key-value lines go to. -/
structure Reader where
  /-- The definitions so far. -/
  defs : Defs
  /-- The path of the table opened last. -/
  current : List Step

/-- One line of a document, from its first character that is not a blank. -/
def line (rd : Reader) (cs : Input) : Option (Reader × Input) :=
  match cs with
  | '[' :: '[' :: r => do
    let (keys, r) ← dottedKey r.length r
    let r ← match skipWs r with
      | ']' :: ']' :: r => some r
      | _ => none
    let (defs, cur) ← openArrayTable rd.defs keys
    pure (⟨defs, cur⟩, ← endOfLine? r)
  | '[' :: r => do
    let (keys, r) ← dottedKey r.length r
    let r ← match skipWs r with
      | ']' :: r => some r
      | _ => none
    let (defs, cur) ← openTable rd.defs keys
    pure (⟨defs, cur⟩, ← endOfLine? r)
  | _ => do
    let (keys, r) ← dottedKey cs.length cs
    let r ← match skipWs r with
      | '=' :: r => some (skipWs r)
      | _ => none
    let (v, r) ← value r.length r
    let defs ← assign rd.defs rd.current keys v
    pure (⟨defs, rd.current⟩, ← endOfLine? r)

/-- The lines of a document. -/
def lines : Nat → Reader → Input → Option Reader
  | 0, _, _ => none
  | fuel + 1, rd, cs =>
    match skipWs cs with
    | [] => some rd
    | '#' :: _ => do
      let r ← endOfLine? cs
      lines fuel rd r
    | '\n' :: r => lines fuel rd r
    | '\r' :: '\n' :: r => lines fuel rd r
    | r => do
      let (rd, r) ← line rd r
      lines fuel rd r

/-- The table of a whole TOML document, or `none` when the text is not one. A leading byte
order mark is skipped. -/
def parse? (text : String) : Option Toml :=
  let cs := match text.toList with
    | '﻿' :: r => r
    | r => r
  (lines (cs.length + 1) ⟨[], []⟩ cs).map fun rd => rd.defs.toTable

end DefUseCoverage.Toml
