import DefUseCoverage.Text.Utf8
/-!
# Glob patterns

The patterns of `case` arms, `${name#pattern}` and path names: `*` matches any text, `?` one
character, `[...]` one character of a set (`!` or `^` first negates it; `a-z` is a range;
`[:alpha:]` and the other classes name sets), a backslash or quoting makes the next character
literal, and a `[` without its `]` is literal. Bracket sets are shared with regular
expressions.

The shell matches byte by byte: `?` matches one byte of a character of several bytes, so
`byteChars` and `bytePattern` turn text and patterns into one character for each byte first.
-/

namespace DefUseCoverage.Shell

/-- An item of a bracket set. -/
inductive SetItem where
  /-- One character. -/
  | single (c : Char)
  /-- A range of characters. -/
  | range (lo hi : Char)
  /-- A named class such as `alpha`. -/
  | named (name : String)
  /-- The characters outside a named class. -/
  | outside (name : String)
deriving DecidableEq, Repr

/-- Whether a character is in a named class (ASCII classes). -/
def inNamedClass (name : String) (c : Char) : Bool :=
  match name with
  | "alpha" => c.isAlpha
  | "digit" => c.isDigit
  | "alnum" => c.isAlphanum
  | "upper" => c.isUpper
  | "lower" => c.isLower
  | "space" => c == ' ' || c == '\t' || c == '\n' || c == '\r' || c == '\x0b' || c == '\x0c'
  | "blank" => c == ' ' || c == '\t'
  | "punct" => c.toNat > 32 && c.toNat < 127 && !c.isAlphanum
  | "xdigit" => c.isDigit || ('a' ≤ c && c ≤ 'f') || ('A' ≤ c && c ≤ 'F')
  | "print" => c.toNat ≥ 32 && c.toNat < 127
  | "graph" => c.toNat > 32 && c.toNat < 127
  | "cntrl" => c.toNat < 32 || c.toNat == 127
  | _ => false

/-- Whether a character is in a bracket set. -/
def SetItem.matches (c : Char) : SetItem → Bool
  | .single d => c == d
  | .range lo hi => lo ≤ c && c ≤ hi
  | .named n => inNamedClass n c
  | .outside n => !inNamedClass n c

/-- The items of a bracket set after `[` (and after a negation): the items and the text after
the closing `]`, or `none` when it does not close. A `]` first is a member. The fuel bounds the
steps; each reads at least one character. -/
def readSetWith : Nat → List Char → Bool → List SetItem → Option (List SetItem × List Char)
  | 0, _, _, _ => none
  | _ + 1, ']' :: rest, false, acc => some (acc, rest)
  | k + 1, '[' :: ':' :: rest, _, acc =>
    let name := rest.takeWhile (· != ':')
    match rest.drop name.length with
    | ':' :: ']' :: after => readSetWith k after false (acc ++ [.named (String.ofList name)])
    | _ => readSetWith k (':' :: rest) false (acc ++ [.single '['])
  | k + 1, c :: '-' :: d :: rest, _, acc =>
    if d == ']' then readSetWith k ('-' :: d :: rest) false (acc ++ [.single c])
    else readSetWith k rest false (acc ++ [.range c d])
  | k + 1, c :: rest, _, acc => readSetWith k rest false (acc ++ [.single c])
  | _ + 1, [], _, _ => none

/-- The items of a bracket set after `[`, and the text after its closing `]`. -/
def readSet (cs : List Char) (first : Bool) (acc : List SetItem) : Option (List SetItem × List Char) :=
  readSetWith (cs.length + 1) cs first acc

/-- An item of a glob pattern. -/
inductive GlobItem where
  /-- Any text. -/
  | star
  /-- One character. -/
  | one
  /-- One given character. -/
  | lit (c : Char)
  /-- One character of a set, or not of it. -/
  | set (negated : Bool) (items : List SetItem)
deriving DecidableEq, Repr

/-- A glob pattern from its characters, each marked literal when it was quoted. -/
def globOf : List (Char × Bool) → List GlobItem
  | [] => []
  | ('\\', false) :: (c, _) :: rest => .lit c :: globOf rest
  | ('*', false) :: rest => .star :: globOf rest
  | ('?', false) :: rest => .one :: globOf rest
  | ('[', false) :: rest =>
    let cs := rest.map (·.1)
    let (neg, body) := match cs with
      | '!' :: b | '^' :: b => (true, b)
      | b => (false, b)
    match readSet body true [] with
    | some (items, after) => .set neg items :: globOf (rest.drop (rest.length - after.length))
    | none => .lit '[' :: globOf rest
  | (c, _) :: rest => .lit c :: globOf rest
termination_by cs => cs.length

/-- Every suffix of a text, longest first. -/
def suffixes : List Char → List (List Char)
  | [] => [[]]
  | c :: cs => (c :: cs) :: suffixes cs

/-- Whether a text matches a glob pattern. -/
def globMatch : List GlobItem → List Char → Bool
  | [], s => s.isEmpty
  | .star :: ps, s => (suffixes s).any (globMatch ps)
  | .one :: ps, _ :: s => globMatch ps s
  | .lit c :: ps, d :: s => c == d && globMatch ps s
  | .set neg items :: ps, d :: s => (items.any (·.matches d) != neg) && globMatch ps s
  | _ :: _, [] => false

/-- A text one character for each of its bytes, as the shell matches patterns: an ASCII byte
as itself, any other byte as its stand-in character. -/
def byteChars (s : String) : List Char := (Utf8.encodeKeeping s).map fun b => Utf8.byteChar b.toNat

/-- Pattern characters one for each of their bytes, each byte marked literal as its character
was. -/
def bytePattern (cs : List (Char × Bool)) : List (Char × Bool) :=
  cs.flatMap fun (c, q) => (Utf8.encodeCharKeeping c).map fun b => (Utf8.byteChar b.toNat, q)

/-- Whether a text matches a pattern, byte by byte as the shell matches. -/
def matchesBytes (pat : List (Char × Bool)) (s : String) : Bool :=
  globMatch (globOf (bytePattern pat)) (byteChars s)

end DefUseCoverage.Shell
