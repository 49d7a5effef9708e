import DefUseCoverage.Text.Utf8
/-!
# Quoting words in messages

The GNU tools run in a UTF-8 locale, and a message of theirs quotes a word in curly quotes:
`‘word’`. Inside, a backslash and a closing curly quote get a backslash before them, the
control characters with a C letter are written with it, a character of several bytes that
prints stands as it is, and every other byte that is no printable ASCII character is written as
a backslash and three octal digits.
-/

namespace DefUseCoverage.Shell.Tool

/-- Whether a character of two to four bytes prints in the UTF-8 locale the tools run in:
every one but the C1 controls and the line and paragraph separators. -/
def widePrints (piece : List UInt8) : Bool :=
  let c := Utf8.codePoint piece
  piece.length ≥ 2 && !(0x80 ≤ c && c < 0xA0) && c != 0x2028 && c != 0x2029

/-- The text of bytes that are well-formed UTF-8. -/
def pieceText (piece : List UInt8) : String := String.ofList (Utf8.decodeKeeping piece)

/-- A byte as a three-digit octal escape. -/
def octalEscape (b : UInt8) : String :=
  let n := b.toNat
  String.ofList ['\\', Char.ofNat (48 + n / 64), Char.ofNat (48 + n / 8 % 8), Char.ofNat (48 + n % 8)]

/-- An argument quoted as the GNU tools quote one in a message, in the UTF-8 locale they run
in: in curly quotes, with a backslash before a backslash or a closing curly quote, the control
characters as C escapes, a character of several bytes that prints as it is, and every other
byte that is no printable ASCII character in octal. -/
def quoteArg (s : String) : String :=
  let body := (Utf8.pieces (Utf8.encodeKeeping s)).map fun p =>
    match p with
    | [b] =>
      match b.toNat with
      | 7 => "\\a"
      | 8 => "\\b"
      | 9 => "\\t"
      | 10 => "\\n"
      | 11 => "\\v"
      | 12 => "\\f"
      | 13 => "\\r"
      | 92 => "\\\\"
      | n => if n ≥ 32 && n < 127 then (Char.ofNat n).toString else octalEscape b
    | _ =>
      if !widePrints p then String.join (p.map octalEscape)
      else if p == [0xE2, 0x80, 0x99] then "\\’"
      else pieceText p
  "‘" ++ String.join body ++ "’"

end DefUseCoverage.Shell.Tool
