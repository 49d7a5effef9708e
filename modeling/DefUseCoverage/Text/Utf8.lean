/-!
# UTF-8

Reading bytes as UTF-8 text (RFC 3629). `decodeLossy` reads every byte string: each maximal
part of an ill-formed sequence becomes one U+FFFD. `decode?` reads only well-formed strings.
`decodeKeeping` reads every byte string without losing a byte: each byte of an ill-formed part
becomes a stand-in character that `encodeKeeping` turns back into that byte, so text that
passes through a program unchanged comes out as the bytes that went in.
-/

namespace DefUseCoverage.Utf8

/-- A continuation byte. -/
def isTail (b : UInt8) : Bool := 0x80 ≤ b && b ≤ 0xBF

/-- The range the second byte of a sequence must lie in, given the first byte, or `none`
when the first byte starts no multi-byte sequence. -/
def secondRange (b : UInt8) : Option (UInt8 × UInt8) :=
  if 0xC2 ≤ b && b ≤ 0xDF then some (0x80, 0xBF)
  else if b == 0xE0 then some (0xA0, 0xBF)
  else if (0xE1 ≤ b && b ≤ 0xEC) || b == 0xEE || b == 0xEF then some (0x80, 0xBF)
  else if b == 0xED then some (0x80, 0x9F)
  else if b == 0xF0 then some (0x90, 0xBF)
  else if 0xF1 ≤ b && b ≤ 0xF3 then some (0x80, 0xBF)
  else if b == 0xF4 then some (0x80, 0x8F)
  else none

/-- The number of bytes of the sequence a first byte starts. -/
def seqLength (b : UInt8) : Nat :=
  if b < 0x80 then 1 else if b < 0xE0 then 2 else if b < 0xF0 then 3 else 4

/-- How many bytes at the front of `rest` continue a sequence started by `b`, up to the
`need` the sequence needs; stops at the first byte that does not fit. -/
def validTails (b : UInt8) (rest : List UInt8) (need : Nat) : Nat :=
  match rest, secondRange b with
  | b1 :: more, some (lo, hi) =>
    if need > 0 && lo ≤ b1 && b1 ≤ hi then 1 + ((more.take (need - 1)).takeWhile isTail).length
    else 0
  | _, _ => 0

/-- The code point of a well-formed sequence. -/
def codePoint : List UInt8 → Nat
  | [b] => b.toNat
  | [b0, b1] => (b0.toNat % 32) * 64 + b1.toNat % 64
  | [b0, b1, b2] => (b0.toNat % 16) * 4096 + (b1.toNat % 64) * 64 + b2.toNat % 64
  | [b0, b1, b2, b3] =>
    (b0.toNat % 8) * 262144 + (b1.toNat % 64) * 4096 + (b2.toNat % 64) * 64 + b3.toNat % 64
  | _ => 0xFFFD

/-- The next character at the front of a byte string: the character (or `none` for an
ill-formed part) and how many bytes it takes, at least one. -/
def next (b : UInt8) (rest : List UInt8) : Option Char × Nat :=
  if b < 0x80 then (some (Char.ofNat b.toNat), 1)
  else
    match secondRange b with
    | none => (none, 1)
    | some _ =>
      let need := seqLength b - 1
      let got := validTails b rest need
      if got = need then (some (Char.ofNat (codePoint (b :: rest.take need))), need + 1)
      else (none, got + 1)

/-- Text from bytes, with one U+FFFD for each maximal ill-formed part. -/
def decodeLossy (bs : List UInt8) : List Char :=
  match bs with
  | [] => []
  | b :: rest =>
    let (c, n) := next b rest
    c.getD '�' :: decodeLossy (rest.drop (n - 1))
termination_by bs.length
decreasing_by
  simp only [List.length_drop, List.length_cons]
  omega

/-- Text from bytes, when they are well-formed UTF-8. -/
def decode? (bs : List UInt8) : Option String :=
  String.fromUTF8? ⟨bs.toArray⟩

/-- The UTF-8 bytes of a text. -/
def encode (s : String) : List UInt8 := s.toUTF8.toList

/-- The first of the characters that stand for raw bytes: byte `b` is U+10FF00 + `b`, in the
last private-use plane, where text does not otherwise reach. -/
def rawBase : Nat := 0x10FF00

/-- Text from bytes, keeping every byte: a well-formed sequence is its character, and each
byte of an ill-formed part is the stand-in character for that byte. -/
def decodeKeeping (bs : List UInt8) : List Char :=
  match bs with
  | [] => []
  | b :: rest =>
    match next b rest with
    | (some c, n) => c :: decodeKeeping (rest.drop (n - 1))
    | (none, _) => Char.ofNat (rawBase + b.toNat) :: decodeKeeping rest
termination_by bs.length
decreasing_by
  all_goals simp only [List.length_drop, List.length_cons]
  all_goals omega

/-- A byte string cut into characters: each well-formed sequence is one piece, and each byte
of an ill-formed part is a piece of its own. Joined again, the pieces are the bytes. -/
def pieces (bs : List UInt8) : List (List UInt8) :=
  match bs with
  | [] => []
  | b :: rest =>
    match next b rest with
    | (some _, n) => (b :: rest.take (n - 1)) :: pieces (rest.drop (n - 1))
    | (none, _) => [b] :: pieces rest
termination_by bs.length
decreasing_by
  all_goals simp only [List.length_drop, List.length_cons]
  all_goals omega

/-- The bytes of a character: its UTF-8 bytes, or the raw byte it stands for. -/
def encodeCharKeeping (c : Char) : List UInt8 :=
  if rawBase ≤ c.toNat then [UInt8.ofNat (c.toNat - rawBase)] else encode c.toString

/-- The bytes of a text read with `decodeKeeping`: stand-in characters become their bytes
again. -/
def encodeKeeping (s : String) : List UInt8 :=
  if s.toList.any (fun (c : Char) => rawBase ≤ c.toNat) then s.toList.flatMap encodeCharKeeping else encode s

/-- The character that stands for a byte in text read with `decodeKeeping`: the ASCII character
itself, or the stand-in for a byte above it. -/
def byteChar (b : Nat) : Char :=
  if b % 256 < 128 then Char.ofNat (b % 256) else Char.ofNat (rawBase + b % 256)

/-- Text read again after bytes were put into it: stand-ins that together are well-formed UTF-8
become the characters they encode. -/
def rejoin (cs : List Char) : List Char := decodeKeeping (encodeKeeping (String.ofList cs))

end DefUseCoverage.Utf8
