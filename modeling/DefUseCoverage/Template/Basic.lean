import DefUseCoverage.Text.Identifier
import DefUseCoverage.Text.Blank
import DefUseCoverage.Pair
/-!
# Stub templates

A template is text with placeholders in braces. `{{` stands for `{` and `}}` for `}`; a `}`
on its own is plain text. A `{` that does not start `{{` opens a placeholder whose key runs
to the next `}`, whatever it holds. Eight keys are known: the four full names `type`,
`field`, `def` and `use`, the short names `field_short`, `def_short` and `use_short`, and
`name`, an identifier made from the three short names.

* `parse` turns text into segments and reports the leftmost fault: a key that is not known,
  or a `{` with no `}` after it, located by its byte offset in UTF-8.
* `render` fills the placeholders in for one pair; `generate` also refuses a body that is
  blank.
-/

namespace DefUseCoverage.Template

open DefUseCoverage.Identifier

/-- The values a placeholder can stand for. -/
inductive Hole where
  /-- The declaring type. -/
  | type
  /-- The field's full name. -/
  | field
  /-- The writing method's full name. -/
  | definition
  /-- The reading method's full name. -/
  | usage
  /-- The field's short name. -/
  | fieldShort
  /-- The writing method's short name. -/
  | definitionShort
  /-- The reading method's short name. -/
  | usageShort
  /-- An identifier made from the three short names. -/
  | name
deriving DecidableEq, Repr

namespace Hole

/-- The key written between braces for a placeholder. -/
def key : Hole → String
  | .type => "type"
  | .field => "field"
  | .definition => "def"
  | .usage => "use"
  | .fieldShort => "field_short"
  | .definitionShort => "def_short"
  | .usageShort => "use_short"
  | .name => "name"

/-- The placeholder a key names, if any. -/
def ofKey? (k : String) : Option Hole :=
  [Hole.type, .field, .definition, .usage, .fieldShort, .definitionShort, .usageShort,
    .name].find? (fun h => h.key == k)

/-- The identifier a stub for the pair is named by. -/
def stubName (p : Pair) : String :=
  sanitize ("du_" ++ shortName p.field ++ "_" ++ shortName p.defMethod ++ "_" ++
    shortName p.useMethod)

/-- What the placeholder stands for in the stub of a pair. -/
def expand (p : Pair) : Hole → String
  | .type => p.declaringType
  | .field => p.field
  | .definition => p.defMethod
  | .usage => p.useMethod
  | .fieldShort => shortName p.field
  | .definitionShort => shortName p.defMethod
  | .usageShort => shortName p.useMethod
  | .name => stubName p

end Hole

/-- A piece of a parsed template: plain text or a placeholder. -/
inductive Segment where
  /-- Text copied as it is. -/
  | text (s : String)
  /-- A placeholder. -/
  | hole (h : Hole)
deriving DecidableEq, Repr

/-- Why no stub could be made. -/
inductive GenerationError where
  /-- A placeholder key that is not one of the eight. -/
  | unknownPlaceholder (key : String)
  /-- A `{` with no closing `}` after it, at this byte offset. -/
  | unterminatedPlaceholder (offset : Nat)
  /-- The stub for this pair (given as text) was blank. -/
  | emptyBody (pair : String)
deriving DecidableEq, Repr

/-- The text of a generation error. -/
def GenerationError.message : GenerationError → String
  | .unknownPlaceholder k => "Unknown placeholder '\x7b" ++ k ++ "\x7d' in PUT template"
  | .unterminatedPlaceholder n =>
    "Unterminated placeholder starting at byte " ++ toString n ++ " of PUT template"
  | .emptyBody p => "Generated PUT body for " ++ p ++ " is empty"

/-- Puts one character of text in front of a segment list, joining it to leading text. -/
def consChar (c : Char) : List Segment → List Segment
  | .text s :: rest => .text (String.singleton c ++ s) :: rest
  | segs => .text (String.singleton c) :: segs

mutual

/-- Reads template text from byte offset `pos`. -/
def parseText (pos : Nat) : List Char → Except GenerationError (List Segment)
  | [] => .ok []
  | '{' :: '{' :: rest => (parseText (pos + 2) rest).map (consChar '{')
  | '{' :: rest => parseKey pos (pos + 1) [] rest
  | '}' :: '}' :: rest => (parseText (pos + 2) rest).map (consChar '}')
  | c :: rest => (parseText (pos + c.utf8Size) rest).map (consChar c)

/-- Reads the key of a placeholder opened at byte `start`; `key` holds what was read so
far, last character first, and `pos` is the offset of the next character. -/
def parseKey (start pos : Nat) (key : List Char) : List Char → Except GenerationError (List Segment)
  | [] => .error (.unterminatedPlaceholder start)
  | '}' :: rest =>
    let k := String.ofList key.reverse
    match Hole.ofKey? k with
    | none => .error (.unknownPlaceholder k)
    | some h => (parseText (pos + 1) rest).map (Segment.hole h :: ·)
  | c :: rest => parseKey start (pos + c.utf8Size) (c :: key) rest

end

/-- The segments of a template text, or the leftmost fault in it. -/
def parse (s : String) : Except GenerationError (List Segment) := parseText 0 s.toList

/-- The text of one segment for a pair. -/
def Segment.render (p : Pair) : Segment → String
  | .text s => s
  | .hole h => h.expand p

/-- The stub text of a pair: the segments rendered one after the other. -/
def render (segs : List Segment) (p : Pair) : String :=
  String.join (segs.map (Segment.render p))

/-- The stub of a pair, refused when it is blank. -/
def generate (segs : List Segment) (p : Pair) : Except GenerationError String :=
  let body := render segs p
  if Blank.allBlank body then .error (.emptyBody p.display) else .ok body

/-- The template used when none is configured. -/
def defaultText : String :=
  "// \x7bfield\x7d defined by \x7bdef\x7d, used by \x7buse\x7d\n" ++
  "put \x7bname\x7d(target: \x7btype\x7d, def_args: params, use_args: params) \x7b\x7b\n" ++
  "    call target.\x7bdef_short\x7d(def_args)\n" ++
  "    call target.\x7buse_short\x7d(use_args)\n" ++
  "    observe target.\x7bfield_short\x7d\n" ++
  "\x7d\x7d\n"

end DefUseCoverage.Template
