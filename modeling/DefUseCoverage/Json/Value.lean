/-!
# JSON values and their pretty form

Batches for the test engine and saved snapshots are JSON documents. A value keeps its object
members in the order written, duplicates included, so that a reader can refuse a repeated
member. A string whose content is not Unicode text (invalid UTF-8, or an unpaired surrogate
escape) is kept as `string none`: it is well-formed JSON, but no text can be read from it.

`pretty` writes a value with two spaces of indentation per level, `": "` between a member's
name and value, and `[]` or `{}` for empty containers. Strings escape the quote, the
backslash and control characters: `\b \f \n \r \t` by name, the others as `\u00XX` with
lowercase digits; everything else is written as it is.
-/

namespace DefUseCoverage

/-- A JSON value. -/
inductive Json where
  /-- `null`. -/
  | null
  /-- `true` or `false`. -/
  | bool (b : Bool)
  /-- A number, as written. -/
  | number (text : String)
  /-- A string, or `none` when its content is not Unicode text. -/
  | string (s : Option String)
  /-- An array. -/
  | array (items : List Json)
  /-- An object: its members in order, names that are not text as `none`. -/
  | object (members : List (Option String × Json))
deriving Repr, Inhabited

namespace Json

/-- A string value. -/
def str (s : String) : Json := .string (some s)

/-- An object with text names. -/
def obj (members : List (String × Json)) : Json :=
  .object (members.map fun (k, v) => (some k, v))

/-- The lowercase hexadecimal digit of a number below 16. -/
def hexDigit (n : Nat) : Char :=
  if n < 10 then Char.ofNat (48 + n) else Char.ofNat (87 + n)

/-- How one character is written inside a JSON string. -/
def escapeChar (c : Char) : List Char :=
  match c with
  | '"' => ['\\', '"']
  | '\\' => ['\\', '\\']
  | '\n' => ['\\', 'n']
  | '\r' => ['\\', 'r']
  | '\t' => ['\\', 't']
  | '\x08' => ['\\', 'b']
  | '\x0c' => ['\\', 'f']
  | c =>
    if c.toNat < 0x20 then ['\\', 'u', '0', '0', hexDigit (c.toNat / 16), hexDigit (c.toNat % 16)]
    else [c]

/-- A text as a JSON string, quotes included. -/
def quote (s : String) : String :=
  String.ofList ('"' :: s.toList.flatMap escapeChar ++ ['"'])

/-- The indentation of a nesting level. -/
def indent (level : Nat) : String := String.ofList (List.replicate (2 * level) ' ')

mutual

/-- A value in the pretty form, its first line already indented to `level`. -/
def prettyAt (level : Nat) : Json → String
  | .null => "null"
  | .bool true => "true"
  | .bool false => "false"
  | .number t => t
  | .string (some s) => quote s
  | .string none => quote ""
  | .array [] => "[]"
  | .array items => "[\n" ++ prettyItems (level + 1) items ++ "\n" ++ indent level ++ "]"
  | .object [] => "\x7b\x7d"
  | .object members =>
    "\x7b\n" ++ prettyMembers (level + 1) members ++ "\n" ++ indent level ++ "\x7d"

/-- The items of an array, one per line, separated by commas. -/
def prettyItems (level : Nat) : List Json → String
  | [] => ""
  | [v] => indent level ++ prettyAt level v
  | v :: rest => indent level ++ prettyAt level v ++ ",\n" ++ prettyItems level rest

/-- The members of an object, one per line, separated by commas. -/
def prettyMembers (level : Nat) : List (Option String × Json) → String
  | [] => ""
  | [(k, v)] => indent level ++ quote (k.getD "") ++ ": " ++ prettyAt level v
  | (k, v) :: rest =>
    indent level ++ quote (k.getD "") ++ ": " ++ prettyAt level v ++ ",\n" ++
      prettyMembers level rest

end

/-- A value in the pretty form, with no newline at the end. -/
def pretty (v : Json) : String := prettyAt 0 v

end Json

end DefUseCoverage
