import DefUseCoverage.Shell.Regex
/-!
# Perl-style regular expressions

The patterns of `grep -P`, read into the same trees as the POSIX ones. Groups are `(...)`,
`(?:...)` and `(?<name>...)`; `(?=...)`, `(?!...)`, `(?<=...)` and `(?<!...)` look around;
`(?i)` (or `(?i:...)`) makes the rest of the group match in either case. Repetitions are `*`,
`+`, `?` and `{m}`, `{m,}`, `{m,n}` (another `{` is an ordinary character); a `?` after one
makes it lazy, a `+` after one changes nothing here. The escapes are the class escapes `\d \D
\w \W \s \S`, the boundaries `\b \B`, the subject's ends `\A \z \Z`, the characters `\t \n \r
\f \e \a`, `\xHH`, `\x{H...}`, quoting `\Q...\E`, back-references `\1` to `\9` and `\k<name>`,
the start-of-match reset `\K` and the properties `\p{...}`; any other escaped letter or digit is
an error, and any other escaped character stands for itself.

A match at a place is the first way in priority order: more repetitions first for greedy
ones, fewer for lazy ones, the first alternative first.
-/

namespace DefUseCoverage.Shell

/-- Why a Perl pattern is malformed. -/
inductive PerlError where
  /-- An escaped letter or digit with no meaning. -/
  | unknownEscape
  /-- A group that does not close. -/
  | missingParen
  /-- A `)` that closes no group. -/
  | unmatchedParen
  /-- A class that does not close. -/
  | missingBracket
  /-- An interval whose bounds are out of order. -/
  | outOfOrder
  /-- A repetition with nothing to repeat. -/
  | nothingToRepeat
  /-- A back-reference to a group that does not exist. -/
  | badBackref
  /-- A backslash at the end. -/
  | trailingBackslash
  /-- Something after `(?` that is not understood. -/
  | badGroup
  /-- An interval bound above 65535. -/
  | tooBig
deriving DecidableEq, Repr

/-- The message for a malformed Perl pattern. -/
def PerlError.message : PerlError → String
  | .unknownEscape => "unrecognized character follows \\"
  | .missingParen => "missing closing parenthesis"
  | .unmatchedParen => "unmatched closing parenthesis"
  | .missingBracket => "missing terminating ] for character class"
  | .outOfOrder => "numbers out of order in \x7b\x7d quantifier"
  | .nothingToRepeat => "quantifier does not follow a repeatable item"
  | .badBackref => "reference to non-existent subpattern"
  | .trailingBackslash => "\\ at end of pattern"
  | .badGroup => "unrecognized character after (? or (?-"
  | .tooBig => "number too big in \x7b\x7d quantifier"

/-- What a Perl reading has seen so far. -/
structure PerlState where
  /-- The next group's number. -/
  nextGroup : Nat
  /-- The named groups. -/
  names : List (String × Nat)
  /-- The highest back-reference used. -/
  maxRef : Nat

/-- The value of a hexadecimal digit. -/
def hexDigitValue (c : Char) : Option Nat :=
  if c.isDigit then some (c.toNat - 48)
  else if 'a' ≤ c && c ≤ 'f' then some (c.toNat - 87)
  else if 'A' ≤ c && c ≤ 'F' then some (c.toNat - 55)
  else none

/-- The value of hexadecimal digits. -/
def hexValue (ds : List Char) : Nat := ds.foldl (fun a d => a * 16 + (hexDigitValue d).getD 0) 0

/-- The character of a `\x` escape after the `x`, and the text after it. -/
def hexEscape (cs : List Char) : Char × List Char :=
  match cs with
  | '\x7b' :: rest =>
    let ds := rest.takeWhile fun c => (hexDigitValue c).isSome
    match rest.drop ds.length with
    | '\x7d' :: after => (Char.ofNat (hexValue ds), after)
    | _ => ('x', cs)
  | _ =>
    let ds := (cs.take 2).takeWhile fun c => (hexDigitValue c).isSome
    (Char.ofNat (hexValue ds), cs.drop ds.length)

/-- The class a letter of `\d \w \s` (or its capital) names, and whether it is negated. -/
def perlClassOf (c : Char) : Option (String × Bool) :=
  match c with
  | 'd' => some ("digit", false)
  | 'D' => some ("digit", true)
  | 'w' => some ("word", false)
  | 'W' => some ("word", true)
  | 's' => some ("space", false)
  | 'S' => some ("space", true)
  | _ => none

/-- The set items of a class name, where `word` is the letters, digits and `_`. -/
def classItems (name : String) (negated : Bool) : List SetItem :=
  if name == "word" then
    if negated then [.outside "alnum"] else [.named "alnum", .single '_']
  else if negated then [.outside name] else [.named name]

/-- The class a property `\p{...}` names. -/
def propertyClass (name : String) : Option String :=
  match name with
  | "Lu" => some "upper"
  | "Ll" => some "lower"
  | "L" | "L&" => some "alpha"
  | "N" | "Nd" => some "digit"
  | "P" => some "punct"
  | "Z" | "Zs" => some "space"
  | _ => none

/-- A character escape that stands for one character: `\t \n \r \f \e \a \0`. -/
def perlCharEscape (c : Char) : Option Char :=
  match c with
  | 't' => some '\t'
  | 'n' => some '\n'
  | 'r' => some '\r'
  | 'f' => some '\x0c'
  | 'e' => some '\x1b'
  | 'a' => some '\x07'
  | '0' => some '\x00'
  | _ => none

/-- The items of a Perl class after its `[` (and `^`), and the text after its `]`. The fuel
bounds the steps. -/
def perlClassItems : Nat → List Char → Bool → List SetItem → Except PerlError (List SetItem × List Char)
  | 0, _, _, _ => .error .missingBracket
  | _ + 1, [], _, _ => .error .missingBracket
  | _ + 1, ']' :: rest, false, acc => .ok (acc, rest)
  | k + 1, '[' :: ':' :: rest, _, acc =>
    let (neg, body) := match rest with
      | '^' :: b => (true, b)
      | b => (false, b)
    let name := body.takeWhile Char.isAlpha
    match body.drop name.length with
    | ':' :: ']' :: after => perlClassItems k after false (acc ++ classItems (String.ofList name) neg)
    | _ => perlClassItems k (':' :: rest) false (acc ++ [.single '['])
  | k + 1, '\\' :: c :: rest, _, acc =>
    match perlClassOf c with
    | some (name, neg) => perlClassItems k rest false (acc ++ classItems name neg)
    | none =>
      let (d, rest) := if c == 'x' then hexEscape rest else ((perlCharEscape c).getD c, rest)
      perlClassItems k rest false (acc ++ [.single d])
  | k + 1, c :: '-' :: d :: rest, _, acc =>
    if d == ']' then perlClassItems k ('-' :: d :: rest) false (acc ++ [.single c])
    else if d == '\\' then perlClassItems k ('-' :: d :: rest) false (acc ++ [.single c])
    else if c ≤ d then perlClassItems k rest false (acc ++ [.range c d])
    else .error .outOfOrder
  | k + 1, c :: rest, _, acc => perlClassItems k rest false (acc ++ [.single c])

/-- An interval `{m}`, `{m,}` or `{m,n}` after its `{`: the bounds and the text after it, or
`none` when the text is no interval (and the `{` is an ordinary character). -/
def perlInterval (cs : List Char) : Option (Nat × Option Nat × List Char) :=
  let num (ds : List Char) : Nat := ds.foldl (fun a d => a * 10 + (d.toNat - 48)) 0
  let m := cs.takeWhile Char.isDigit
  if m.isEmpty then none
  else
    match cs.drop m.length with
    | '\x7d' :: rest => some (num m, some (num m), rest)
    | ',' :: more =>
      let k := more.takeWhile Char.isDigit
      match more.drop k.length with
      | '\x7d' :: rest => some (num m, if k.isEmpty then none else some (num k), rest)
      | _ => none
    | _ => none

/-- The text of `\Q...\E` after the `\Q`, and the text after the `\E`. -/
def quotedText (cs : List Char) : List Char × List Char :=
  let rec go : Nat → List Char → List Char → List Char × List Char
    | 0, acc, rest => (acc, rest)
    | _ + 1, acc, [] => (acc, [])
    | _ + 1, acc, '\\' :: 'E' :: rest => (acc, rest)
    | k + 1, acc, c :: rest => go k (acc ++ [c]) rest
  go (cs.length + 1) [] cs

/-- A literal character, in either case when asked. -/
def perlLit (caseless : Bool) (c : Char) : Regex := if caseless then .caseless (.lit c) else .lit c

mutual

/-- Alternatives up to a `)` or the end. -/
def perlAlt : Nat → Bool → List Char → PerlState → Except PerlError (Regex × List Char × PerlState)
  | 0, _, _, _ => .error .missingParen
  | n + 1, ci, cs, st => do
    let (first, rest, st, ci) ← perlSeq n ci cs [] st
    match rest with
    | '|' :: more =>
      let (second, rest, st) ← perlAlt n ci more st
      pure (.alt first second, rest, st)
    | _ => pure (first, rest, st)

/-- Items up to a `|`, a `)` or the end; also whether case is ignored at the end (for the
alternatives after a `(?i)`). -/
def perlSeq : Nat → Bool → List Char → List Regex → PerlState → Except PerlError (Regex × List Char × PerlState × Bool)
  | 0, ci, cs, acc, st => .ok (.seq acc, cs, st, ci)
  | n + 1, ci, cs, acc, st =>
    match cs with
    | [] | '|' :: _ | ')' :: _ => .ok (.seq acc, cs, st, ci)
    | '(' :: '?' :: 'i' :: ')' :: rest => perlSeq n true rest acc st
    | '(' :: '?' :: '-' :: 'i' :: ')' :: rest => perlSeq n false rest acc st
    | _ => do
      let (atom, rest, st) ← perlAtom n ci cs st
      let (atom, rest) ← perlQuantify atom rest
      perlSeq n ci rest (acc ++ [atom]) st

/-- One atom. -/
def perlAtom : Nat → Bool → List Char → PerlState → Except PerlError (Regex × List Char × PerlState)
  | 0, _, _, _ => .error .missingParen
  | n + 1, ci, cs, st =>
    match cs with
    | '(' :: '?' :: ':' :: rest => perlGroup n ci rest st none
    | '(' :: '?' :: 'i' :: ':' :: rest => perlGroup n true rest st none
    | '(' :: '?' :: '=' :: rest => perlLook n ci rest st true false
    | '(' :: '?' :: '!' :: rest => perlLook n ci rest st true true
    | '(' :: '?' :: '<' :: '=' :: rest => perlLook n ci rest st false false
    | '(' :: '?' :: '<' :: '!' :: rest => perlLook n ci rest st false true
    | '(' :: '?' :: 'P' :: '<' :: rest | '(' :: '?' :: '<' :: rest =>
      let name := rest.takeWhile fun c => c.isAlphanum || c == '_'
      match rest.drop name.length with
      | '>' :: body =>
        let k := st.nextGroup
        perlGroup n ci body { st with nextGroup := k + 1, names := st.names ++ [(String.ofList name, k)] } (some k)
      | _ => .error .badGroup
    | '(' :: '?' :: _ => .error .badGroup
    | '(' :: rest =>
      let k := st.nextGroup
      perlGroup n ci rest { st with nextGroup := k + 1 } (some k)
    | '[' :: rest =>
      let (neg, body) := match rest with
        | '^' :: b => (true, b)
        | b => (false, b)
      (perlClassItems (body.length + 1) body true []).map fun (items, after) =>
        (if ci then .caseless (.set neg items) else .set neg items, after, st)
    | '.' :: rest => .ok (.set true [.single '\n'], rest, st)
    | '^' :: rest => .ok (.start, rest, st)
    | '$' :: rest => .ok (.stop, rest, st)
    | '*' :: _ | '+' :: _ | '?' :: _ => .error .nothingToRepeat
    | '\x7b' :: rest =>
      if (perlInterval rest).isSome then .error .nothingToRepeat else .ok (perlLit ci '\x7b', rest, st)
    | ['\\'] => .error .trailingBackslash
    | '\\' :: c :: rest => perlEscape ci c rest st
    | c :: rest => .ok (perlLit ci c, rest, st)
    | [] => .ok (.seq [], [], st)

/-- A group after its opening, numbered or not. -/
def perlGroup : Nat → Bool → List Char → PerlState → Option Nat → Except PerlError (Regex × List Char × PerlState)
  | 0, _, _, _, _ => .error .missingParen
  | n + 1, ci, cs, st, k => do
    let (inner, rest, st) ← perlAlt n ci cs st
    match rest with
    | ')' :: after =>
      pure (match k with
        | some k => .group k inner
        | none => inner, after, st)
    | _ => throw .missingParen

/-- A look-around after its opening. -/
def perlLook : Nat → Bool → List Char → PerlState → Bool → Bool → Except PerlError (Regex × List Char × PerlState)
  | 0, _, _, _, _, _ => .error .missingParen
  | n + 1, ci, cs, st, ahead, negated => do
    let (inner, rest, st) ← perlAlt n ci cs st
    match rest with
    | ')' :: after => pure (.look ahead negated inner, after, st)
    | _ => throw .missingParen

/-- An escape after its backslash. -/
def perlEscape (ci : Bool) (c : Char) (rest : List Char) (st : PerlState) : Except PerlError (Regex × List Char × PerlState) :=
  match perlClassOf c with
  | some (name, neg) => .ok (.set false (classItems name neg), rest, st)
  | none =>
    match c with
    | 'b' => .ok (.boundary true, rest, st)
    | 'B' => .ok (.boundary false, rest, st)
    | 'A' | 'G' => .ok (.bufStart, rest, st)
    | 'z' | 'Z' => .ok (.bufEnd, rest, st)
    | 'K' => .ok (.group 0 (.seq []), rest, st)
    | 'Q' =>
      let (text, after) := quotedText rest
      .ok (.seq (text.map (perlLit ci)), after, st)
    | 'E' => .ok (.seq [], rest, st)
    | 'x' => let (d, after) := hexEscape rest; .ok (perlLit ci d, after, st)
    | 'p' | 'P' =>
      let (name, after) := match rest with
        | '\x7b' :: more =>
          let nm := more.takeWhile (· != '\x7d')
          (String.ofList nm, (more.drop nm.length).drop 1)
        | d :: more => (d.toString, more)
        | [] => ("", [])
      match propertyClass name with
      | some cls => .ok (.set false (classItems cls (c == 'P')), after, st)
      | none => .error .unknownEscape
    | 'k' =>
      let (name, after) := match rest with
        | '<' :: more | '\x7b' :: more | '\x27' :: more =>
          let nm := more.takeWhile fun d => d.isAlphanum || d == '_'
          (String.ofList nm, (more.drop nm.length).drop 1)
        | _ => ("", rest)
      match st.names.lookup name with
      | some k => .ok (.backref k, after, st)
      | none => .error .badBackref
    | _ =>
      if '1' ≤ c && c ≤ '9' then
        let k := c.toNat - 48
        .ok (.backref k, rest, { st with maxRef := max st.maxRef k })
      else
        match perlCharEscape c with
        | some d => .ok (perlLit ci d, rest, st)
        | none => if c.isAlphanum then .error .unknownEscape else .ok (perlLit ci c, rest, st)

/-- The repetition after an atom, if any. -/
def perlQuantify (atom : Regex) (cs : List Char) : Except PerlError (Regex × List Char) :=
  let bounds : Option (Nat × Option Nat × List Char) :=
    match cs with
    | '*' :: rest => some (0, none, rest)
    | '+' :: rest => some (1, none, rest)
    | '?' :: rest => some (0, some 1, rest)
    | '\x7b' :: rest => perlInterval rest
    | _ => none
  match bounds with
  | none => .ok (atom, cs)
  | some (lo, hi, rest) =>
    if lo > 65535 || (hi.getD 0) > 65535 then .error .tooBig
    else if hi.any (· < lo) then .error .outOfOrder
    else
      match rest with
      | '?' :: after => .ok (.lazyRep atom lo hi, after)
      | '+' :: after => .ok (.rep atom lo hi, after)
      | _ => .ok (.rep atom lo hi, rest)

end

/-- A Perl pattern read into an expression, or why it is malformed. -/
def Regex.readPerl (text : String) : Except PerlError Regex := do
  let cs := text.toList
  let st : PerlState := { nextGroup := 1, names := [], maxRef := 0 }
  let (r, rest, st) ← perlAlt (4 * cs.length + 8) false cs st
  match rest with
  | [] => if st.maxRef ≥ st.nextGroup then throw .badBackref else pure r
  | _ => throw .unmatchedParen

end DefUseCoverage.Shell
