/-!
# Blank characters

The characters with the Unicode `White_Space` property, and trimming by them. A generated
stub body counts as empty when nothing but such characters remain after trimming, so the
table is the whole Unicode property, not only its ASCII part.
-/

namespace DefUseCoverage.Blank

/-- The Unicode `White_Space` property: tab to carriage return, space, next line,
no-break space, ogham space mark, the spaces from en quad to hair space, line and paragraph
separators, narrow no-break space, medium mathematical space and ideographic space. -/
def isBlank (c : Char) : Bool :=
  let n := c.toNat
  (0x09 ≤ n && n ≤ 0x0D) || n == 0x20 || n == 0x85 || n == 0xA0 || n == 0x1680 ||
    (0x2000 ≤ n && n ≤ 0x200A) || n == 0x2028 || n == 0x2029 || n == 0x202F ||
    n == 0x205F || n == 0x3000

/-- Only blank characters (the empty text included). -/
def allBlank (s : String) : Bool := s.toList.all isBlank

/-- The characters of a list without its leading and trailing blanks. -/
def trimList (cs : List Char) : List Char :=
  ((cs.dropWhile isBlank).reverse.dropWhile isBlank).reverse

/-- A text without its leading and trailing blank characters. -/
def trim (s : String) : String := String.ofList (trimList s.toList)

/-- ASCII whitespace in the narrow sense: space, tab, line feed, carriage return and
form feed, but not the vertical tab. -/
def isAsciiSpace (c : Char) : Bool :=
  c == ' ' || c == '\t' || c == '\n' || c == '\r' || c == '\x0c'

end DefUseCoverage.Blank
