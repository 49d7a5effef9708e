import DefUseCoverage.Shell.Pattern
import DefUseCoverage.Text.WideChar
import DefUseCoverage.Text.Utf8
/-!
# Regular expressions

The regular expressions of `grep`, `sed` and `expr`, as trees: characters, `.`, bracket sets
(`[a-z]`, `[^...]`, `[[:digit:]]`), anchors and word boundaries, sequences, alternatives,
repetitions, numbered groups and back-references. Reading them from their text is the business
of `RegexRead`.

A search finds the leftmost match, and of those the longest; groups take the values of the
first way (in the greedy order: more repetitions first, the first alternative first) that
reaches that end. Matching collects every end a part can reach, so no search can loop.
-/

namespace DefUseCoverage.Shell

/-- A regular expression. -/
inductive Regex where
  /-- One given character. -/
  | lit (c : Char)
  /-- Any character. -/
  | any
  /-- One character of a set, or not of it. -/
  | set (negated : Bool) (items : List SetItem)
  /-- The start of the line; in a multi-line subject also a place after a newline. -/
  | start
  /-- The end of the line; in a multi-line subject also a place before a newline. -/
  | stop
  /-- The start of the subject (`\\``). -/
  | bufStart
  /-- The end of the subject (`\\'`). -/
  | bufEnd
  /-- A word boundary (`\b`), or a place that is not one (`\B`). -/
  | boundary (at_ : Bool)
  /-- The start of a word (`\<`). -/
  | wordStart
  /-- The end of a word (`\>`). -/
  | wordEnd
  /-- A place not preceded by a word character (`after`) or not followed by one. -/
  | edge (after : Bool)
  /-- Expressions one after the other. -/
  | seq (parts : List Regex)
  /-- Either expression. -/
  | alt (a b : Regex)
  /-- An expression repeated at least `lo` and at most `hi` times, more repetitions first. -/
  | rep (r : Regex) (lo : Nat) (hi : Option Nat)
  /-- An expression repeated at least `lo` and at most `hi` times, fewer repetitions first. -/
  | lazyRep (r : Regex) (lo : Nat) (hi : Option Nat)
  /-- A place where an expression matches from here on (`ahead`) or up to here; `negated`
  when it must not. -/
  | look (ahead negated : Bool) (r : Regex)
  /-- An expression whose letters match in either case. -/
  | caseless (r : Regex)
  /-- A numbered group. -/
  | group (k : Nat) (r : Regex)
  /-- The text a group matched. -/
  | backref (k : Nat)
deriving Repr, Inhabited

/-- Why an expression's text is malformed. -/
inductive RegexError where
  /-- A group that does not close, or closes without opening. -/
  | unmatchedParen
  /-- A bracket set that does not close. -/
  | unmatchedBracket
  /-- A repetition count that does not close. -/
  | unmatchedBrace
  /-- A repetition count that is malformed. -/
  | badBraceContent
  /-- A back-reference to a group not yet closed. -/
  | badBackref
  /-- A backslash at the end. -/
  | trailingBackslash
  /-- A repetition with nothing to repeat. -/
  | badRepeat
  /-- A group that closes without opening. -/
  | unmatchedClose
  /-- A class name that names no class. -/
  | badClass
  /-- A range whose end comes before its start, or that starts or ends with a class. -/
  | badRange
  /-- A collating element or equivalence class of more than one character. -/
  | badCollation
  /-- A repetition count above 32767. -/
  | tooBig
  /-- A pattern that ends right after the `[` (or `[^`) of a bracket set. -/
  | badPattern
deriving DecidableEq, Repr

/-- The message for a malformed expression. -/
def RegexError.message : RegexError → String
  | .unmatchedParen => "Unmatched ( or \\("
  | .unmatchedBracket => "Unmatched [, [^, [:, [., or [="
  | .unmatchedBrace => "Unmatched \\\x7b"
  | .badBraceContent => "Invalid content of \\\x7b\\\x7d"
  | .badBackref => "Invalid back reference"
  | .trailingBackslash => "Trailing backslash"
  | .badRepeat => "Invalid preceding regular expression"
  | .unmatchedClose => "Unmatched ) or \\)"
  | .badClass => "Invalid character class name"
  | .badRange => "Invalid range end"
  | .badCollation => "Invalid collation character"
  | .tooBig => "Regular expression too big"
  | .badPattern => "Invalid regular expression"

/-- Whether a character stands for a byte that is not part of valid UTF-8, which no `.` and no
set matches. -/
def isRawByte (c : Char) : Bool := Utf8.rawBase ≤ c.toNat

/-- Whether a character is part of words: a letter, a digit or `_`. -/
def isWordChar (c : Char) : Bool := WideChar.isAlpha c || WideChar.isDigit c || c == '_'

/-- Whether a character is an item of a set, with the classes of the UTF-8 locale. -/
def SetItem.holds (c : Char) : SetItem → Bool
  | .named n => WideChar.inClass n c
  | .outside n => !WideChar.inClass n c
  | item => item.matches c

/-- The groups matched so far: number, start and end, the latest first. -/
abbrev Groups := List (Nat × Nat × Nat)

/-- The text a line is matched in, and whether case is ignored. -/
structure Subject where
  /-- The characters. -/
  chars : Array Char
  /-- Whether letters match in either case. -/
  ignoreCase : Bool := false
  /-- Whether `^` and `$` also match next to the newlines inside. -/
  multiline : Bool := false
  /-- Whether a match at a place is the first way in priority order (Perl's rule) rather than
  the longest. -/
  firstWins : Bool := false
  /-- Whether `.` and negated sets do not match a newline. -/
  newlineStops : Bool := false

namespace Subject

/-- Whether two characters match: the same, or with case ignored the same in lower or upper
case. -/
def same (t : Subject) (a b : Char) : Bool :=
  a == b || (t.ignoreCase && (WideChar.toLower a == WideChar.toLower b || WideChar.toUpper a == WideChar.toUpper b))

/-- Whether a character is in a set: itself, or with case ignored its lower or upper case. -/
def inSet (t : Subject) (items : List SetItem) (c : Char) : Bool :=
  items.any (·.holds c) ||
    (t.ignoreCase && (items.any (·.holds (WideChar.toLower c)) || items.any (·.holds (WideChar.toUpper c))))

/-- Whether the character at a position is part of words. -/
def wordAt (t : Subject) (i : Nat) : Bool := (t.chars[i]?.map isWordChar).getD false

/-- Whether the text of `[a, b)` is found again at `i`. -/
def repeats (t : Subject) (a b i : Nat) : Bool :=
  (List.range (b - a)).all fun k =>
    match t.chars[a + k]?, t.chars[i + k]? with
    | some x, some y => t.same x y
    | _, _ => false

end Subject

/-- Match states without repeats, first occurrences kept. -/
def dedupStates (xs : List (Nat × Groups)) : List (Nat × Groups) :=
  xs.foldl (fun acc x => if acc.contains x then acc else acc ++ [x]) []

/-- The latest span of a group. -/
def groupSpan (gs : Groups) (k : Nat) : Option (Nat × Nat) :=
  (gs.find? (·.1 == k)).map (·.2)

mutual

/-- Every way a match of an expression starting at `i` can end, with the groups, in the greedy
order. -/
def runs (t : Subject) : Nat → Regex → Nat → Groups → List (Nat × Groups)
  | 0, _, _, _ => []
  | _ + 1, .lit c, i, gs => if (t.chars[i]?.map (t.same c)).getD false then [(i + 1, gs)] else []
  | _ + 1, .any, i, gs =>
    if (t.chars[i]?.map fun c => !isRawByte c && !(t.newlineStops && c == '\n')).getD false then [(i + 1, gs)]
    else []
  | _ + 1, .set neg items, i, gs =>
    match t.chars[i]? with
    | some c =>
      if !isRawByte c && t.inSet items c != neg && !(neg && t.newlineStops && c == '\n') then [(i + 1, gs)]
      else []
    | none => []
  | _ + 1, .start, i, gs =>
    if i = 0 || (t.multiline && t.chars[i - 1]? == some '\n') then [(i, gs)] else []
  | _ + 1, .stop, i, gs =>
    if i = t.chars.size || (t.multiline && t.chars[i]? == some '\n') then [(i, gs)] else []
  | _ + 1, .bufStart, i, gs => if i = 0 then [(i, gs)] else []
  | _ + 1, .bufEnd, i, gs => if i = t.chars.size then [(i, gs)] else []
  | _ + 1, .boundary at_, i, gs =>
    let before := i > 0 && t.wordAt (i - 1)
    if (before != t.wordAt i) == at_ then [(i, gs)] else []
  | _ + 1, .wordStart, i, gs => if !(i > 0 && t.wordAt (i - 1)) && t.wordAt i then [(i, gs)] else []
  | _ + 1, .wordEnd, i, gs => if (i > 0 && t.wordAt (i - 1)) && !t.wordAt i then [(i, gs)] else []
  | _ + 1, .edge after, i, gs =>
    if after then (if i > 0 && t.wordAt (i - 1) then [] else [(i, gs)])
    else if t.wordAt i then [] else [(i, gs)]
  | n + 1, .seq rs, i, gs => seqRuns t n rs [(i, gs)]
  | n + 1, .alt a b, i, gs => dedupStates (runs t n a i gs ++ runs t n b i gs)
  | n + 1, .rep r lo hi, i, gs => repRuns t n r lo hi 0 i gs
  | n + 1, .lazyRep r lo hi, i, gs => lazyRuns t n r lo hi 0 i gs
  | n + 1, .look ahead negated r, i, gs =>
    if ahead then
      match runs t n r i gs, negated with
      | (_, g) :: _, false => [(i, g)]
      | [], true => [(i, gs)]
      | _, _ => []
    else
      let found := (List.range (i + 1)).any fun k => (runs t n r k gs).any (·.1 == i)
      if found != negated then [(i, gs)] else []
  | n + 1, .caseless r, i, gs => runs { t with ignoreCase := true } n r i gs
  | n + 1, .group k r, i, gs => (runs t n r i gs).map fun (e, g) => (e, (k, i, e) :: g)
  | _ + 1, .backref k, i, gs =>
    match groupSpan gs k with
    | some (a, b) => if t.repeats a b i then [(i + (b - a), gs)] else []
    | none => []

/-- Every way a sequence of expressions can end, from several starts. -/
def seqRuns (t : Subject) : Nat → List Regex → List (Nat × Groups) → List (Nat × Groups)
  | 0, _, _ => []
  | _ + 1, [], states => states
  | n + 1, r :: rs, states => seqRuns t n rs (dedupStates (states.flatMap fun (i, g) => runs t n r i g))

/-- Every way `j` or more repetitions can end, from a state after `j` of them; more
repetitions first. A repetition that matches nothing counts only towards the least number. -/
def repRuns (t : Subject) : Nat → Regex → Nat → Option Nat → Nat → Nat → Groups → List (Nat × Groups)
  | 0, _, _, _, _, _, _ => []
  | n + 1, r, lo, hi, j, i, gs =>
    let here := if lo ≤ j then [(i, gs)] else []
    if hi == some j then here
    else
      let steps := dedupStates ((runs t n r i gs).filter fun (e, _) => e != i || j < lo)
      dedupStates (steps.flatMap (fun (e, g) => repRuns t n r lo hi (j + 1) e g) ++ here)

/-- Every way `j` or more repetitions can end, fewer repetitions first. -/
def lazyRuns (t : Subject) : Nat → Regex → Nat → Option Nat → Nat → Nat → Groups → List (Nat × Groups)
  | 0, _, _, _, _, _, _ => []
  | n + 1, r, lo, hi, j, i, gs =>
    let here := if lo ≤ j then [(i, gs)] else []
    if hi == some j then here
    else
      let steps := dedupStates ((runs t n r i gs).filter fun (e, _) => e != i || j < lo)
      dedupStates (here ++ steps.flatMap (fun (e, g) => lazyRuns t n r lo hi (j + 1) e g))

end

/-- The fuel for matching in a line: enough for every nesting and repetition. -/
def matchFuel (t : Subject) : Nat := 8 * (t.chars.size + 8) + 4096

/-- The match starting at `i`, with its groups: the longest, and the first way in greedy order
among the longest; or, when the first way wins, that way. -/
def Regex.longestAt (r : Regex) (t : Subject) (i : Nat) : Option (Nat × Groups) :=
  let ways := runs t (matchFuel t) r i []
  if t.firstWins then ways.head?
  else
    ways.foldl (fun best (e, g) =>
      match best with
      | some (b, _) => if e > b then some (e, g) else best
      | none => some (e, g)) none

/-- A match: where it starts and ends, and its groups. -/
structure Match where
  /-- Where it starts. -/
  start : Nat
  /-- Where it ends. -/
  stop : Nat
  /-- The groups. -/
  groups : Groups

/-- The leftmost-longest match starting at `from` or later; with `nonEmptyAt`, an empty match
at that position is passed over. -/
def Regex.searchFrom (r : Regex) (t : Subject) (from_ : Nat) (nonEmptyAt : Option Nat) : Option Match :=
  (List.range (t.chars.size + 1 - from_)).findSome? fun k =>
    let i := from_ + k
    match r.longestAt t i with
    | some (e, g) => if e == i && nonEmptyAt == some i then none else some { start := i, stop := e, groups := g }
    | none => none

/-- Whether an expression matches somewhere in a line. -/
def Regex.found (r : Regex) (t : Subject) : Bool := (r.searchFrom t 0 none).isSome

/-- Every match in a line from the left, each after the last: after an empty match the search
goes on one character later, and no empty match is taken right where a match ended. The fuel
bounds the matches. -/
def Regex.allMatches (r : Regex) (t : Subject) : Nat → Nat → Option Nat → List Match
  | 0, _, _ => []
  | fuel + 1, from_, after =>
    if from_ > t.chars.size then []
    else
      match r.searchFrom t from_ after with
      | none => []
      | some m =>
        let next := if m.stop == m.start then m.stop + 1 else m.stop
        m :: r.allMatches t fuel next (if m.stop == m.start then none else some m.stop)

/-- Every match in a line from the left. -/
def Regex.matchesIn (r : Regex) (t : Subject) : List Match :=
  r.allMatches t (t.chars.size + 2) 0 none

/-- Whether an expression refers back to a group. -/
def Regex.hasBackref : Regex → Bool
  | .backref _ => true
  | .seq rs => rs.attach.any fun ⟨r, _⟩ => r.hasBackref
  | .alt a b => a.hasBackref || b.hasBackref
  | .rep r _ _ => r.hasBackref
  | .lazyRep r _ _ => r.hasBackref
  | .group _ r => r.hasBackref
  | .look _ _ r => r.hasBackref
  | .caseless r => r.hasBackref
  | _ => false

/-- Whether an expression has a word boundary. -/
def Regex.hasWordAnchor : Regex → Bool
  | .boundary _ | .wordStart | .wordEnd => true
  | .seq rs => rs.attach.any fun ⟨r, _⟩ => r.hasWordAnchor
  | .alt a b => a.hasWordAnchor || b.hasWordAnchor
  | .rep r _ _ => r.hasWordAnchor
  | .lazyRep r _ _ => r.hasWordAnchor
  | .group _ r => r.hasWordAnchor
  | .look _ _ r => r.hasWordAnchor
  | .caseless r => r.hasWordAnchor
  | _ => false

/-- A fixed string as a regular expression. -/
def Regex.fixed (text : String) : Regex := .seq (text.toList.map .lit)

end DefUseCoverage.Shell
