import DefUseCoverage.Shell.Tool.Basic
import DefUseCoverage.Text.WideChar
/-!
# How `ls` writes names

`ls` writes each name in one of several styles (`--quoting-style`):

* `literal`: the name as it is;
* `shell`, `shell-always`: in single quotes when the shell would read the name as more than
  itself (always, for the second), other bytes as they are;
* `shell-escape`, `shell-escape-always`: the same, a byte that does not print written as a
  `$'...'` escape;
* `c`: in double quotes, with the escapes of C (`-Q`); `c-maybe` only when a character other
  than the backslash needs an escape;
* `escape`: the escapes of C without the quotes, a blank escaped too (`-b`);
* `locale`, `clocale`: in the curly quotes of the UTF-8 locale, with the escapes of C.

In the escaping styles the marks that `-F` or `--file-type` put after names are escaped
where a name holds them. `-q` then writes every character that does not print as `?`.

The columns a name takes (`displayWidth`) count each printable character by its width and a
control character as none.
-/

namespace DefUseCoverage.Shell

namespace Tool

/-- The styles in which `ls` writes names. -/
inductive NameStyle where
  /-- The name as it is. -/
  | literal
  /-- Single quotes where needed, other bytes as they are. -/
  | shell
  /-- Single quotes always, other bytes as they are. -/
  | shellAlways
  /-- Single quotes where needed, `$'...'` escapes. -/
  | shellEscape
  /-- Single quotes always, `$'...'` escapes. -/
  | shellEscapeAlways
  /-- Double quotes and the escapes of C. -/
  | c
  /-- The escapes of C, double quotes only when one is needed. -/
  | cMaybe
  /-- The escapes of C without quotes. -/
  | escape
  /-- Curly quotes and the escapes of C. -/
  | locale
deriving DecidableEq, Repr

/-- The names of the styles, as `--quoting-style` takes them, each with its style. -/
def nameStyles : List (String × NameStyle) :=
  [("literal", .literal), ("shell", .shell), ("shell-always", .shellAlways),
   ("shell-escape", .shellEscape), ("shell-escape-always", .shellEscapeAlways), ("c", .c),
   ("c-maybe", .cMaybe), ("escape", .escape), ("locale", .locale), ("clocale", .locale)]

/-- A piece of a name (a character, or a byte that begins none) with the escapes of C: a
control character by its letter or in octal, a backslash doubled, the quote and the `extra`
characters after a backslash, a byte that begins no character and a character of several
bytes that does not print in octal, byte by byte. -/
def escapedPiece (quote : Option Char) (extra : List Char) (p : List UInt8) : String :=
  match p with
  | [b] =>
    let c := Char.ofNat b.toNat
    if b.toNat ≥ 128 then octalEscape b
    else match escapeLetter? b with
      | some l => "\\" ++ l.toString
      | none =>
        if c == '\\' then "\\\\"
        else if b.toNat < 32 || b.toNat == 127 then octalEscape b
        else if quote == some c || extra.contains c then "\\" ++ c.toString
        else c.toString
  | _ => if widePrints p then pieceText p else String.join (p.map octalEscape)

/-- A name with the escapes of C. -/
def escapedName (quote : Option Char) (extra : List Char) (s : String) : String :=
  String.join ((Utf8.pieces (bytes s)).map (escapedPiece quote extra))

/-- Whether a byte makes the shell styles quote a name: a byte special to the shell (`#` and
`~` first, `{` or `}` alone) or a control character with a C letter. Other bytes that do not
print stand as they are. -/
def shellQuotes (b : UInt8) (i len : Nat) : Bool :=
  let c := b.toNat
  (7 ≤ c && c ≤ 13) || (32 ≤ c && c < 127 && shellSpecial b i len)

/-- A name in single quotes, a single quote in it written `'\''`, other bytes as they are; a
name whose only troublesome character is the single quote goes in double quotes instead. -/
def singleQuotedRaw (s : String) : String :=
  let ps := Utf8.pieces (bytes s)
  let plain (p : List UInt8) (i : Nat) : Bool :=
    match p with
    | [b] => doubleQuotable b i
    | _ => widePrints p
  if (bytes s).contains 39 && ps.zipIdx.all (fun (p, i) => plain p i) then "\"" ++ s ++ "\""
  else "\x27" ++ String.join (s.toList.map fun c => if c == '\x27' then "\x27\\\x27\x27" else c.toString) ++ "\x27"

/-- A name in a style, the characters `extra` escaped where the style escapes. -/
def styledName (style : NameStyle) (extra : List Char) (s : String) : String :=
  match style with
  | .literal => s
  | .shell =>
    let bs := bytes s
    if !bs.isEmpty && !(bs.zipIdx.any fun (b, i) => shellQuotes b i bs.length) then s
    else singleQuotedRaw s
  | .shellAlways => singleQuotedRaw s
  | .shellEscape => quoteIfNeeded s
  | .shellEscapeAlways => quote s
  | .c => "\"" ++ escapedName (some '"') extra s ++ "\""
  | .cMaybe =>
    -- a backslash alone does not call for the quotes
    let bare := String.ofList (s.toList.filter (· != '\\'))
    if escapedName (some '"') extra bare == bare then s
    else "\"" ++ escapedName (some '"') extra s ++ "\""
  | .escape => escapedName none (' ' :: extra) s
  | .locale => quoteArg s

/-- A text with every character that does not print written as `?`: a character of several
bytes as one, a byte that begins none as one each. -/
def hideUnprintable (s : String) : String :=
  String.join ((Utf8.pieces (bytes s)).map fun p =>
    match p with
    | [b] => if 32 ≤ b.toNat && b.toNat < 127 then (Char.ofNat b.toNat).toString else "?"
    | _ => if widePrints p then pieceText p else "?")

/-- The columns a text takes on a terminal: a printable character its width, a control
character none, any other character and each byte that begins none one. -/
def displayWidth (s : String) : Nat :=
  (Utf8.pieces (bytes s)).foldl (fun n p =>
    match p with
    | [b] =>
      if b.toNat ≥ 128 then n + 1
      else if 32 ≤ b.toNat && b.toNat < 127 then n + 1 else n
    | _ =>
      let c := Char.ofNat (Utf8.codePoint p)
      if WideChar.isPrint c then n + WideChar.columns c
      else if WideChar.inClass "cntrl" c then n else n + 1) 0

end Tool

end DefUseCoverage.Shell
