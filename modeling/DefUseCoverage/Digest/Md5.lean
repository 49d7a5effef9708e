/-!
# MD5

The MD5 message digest (RFC 1321). Stub files are named by the hexadecimal digest of their
body, and the seed stream of a pair is keyed by the digest of the pair's text.

The message is padded with one `0x80` byte, zeros up to 56 bytes modulo 64 and the bit length
as a 64-bit little-endian number; each 64-byte block then goes through the four rounds of
sixteen steps.
-/

namespace DefUseCoverage.Md5

/-- The additive constants: the integer part of `2^32 * |sin (i + 1)|`. -/
def sines : Array UInt32 := #[
  0xd76aa478, 0xe8c7b756, 0x242070db, 0xc1bdceee, 0xf57c0faf, 0x4787c62a, 0xa8304613,
  0xfd469501, 0x698098d8, 0x8b44f7af, 0xffff5bb1, 0x895cd7be, 0x6b901122, 0xfd987193,
  0xa679438e, 0x49b40821, 0xf61e2562, 0xc040b340, 0x265e5a51, 0xe9b6c7aa, 0xd62f105d,
  0x02441453, 0xd8a1e681, 0xe7d3fbc8, 0x21e1cde6, 0xc33707d6, 0xf4d50d87, 0x455a14ed,
  0xa9e3e905, 0xfcefa3f8, 0x676f02d9, 0x8d2a4c8a, 0xfffa3942, 0x8771f681, 0x6d9d6122,
  0xfde5380c, 0xa4beea44, 0x4bdecfa9, 0xf6bb4b60, 0xbebfbc70, 0x289b7ec6, 0xeaa127fa,
  0xd4ef3085, 0x04881d05, 0xd9d4d039, 0xe6db99e5, 0x1fa27cf8, 0xc4ac5665, 0xf4292244,
  0x432aff97, 0xab9423a7, 0xfc93a039, 0x655b59c3, 0x8f0ccc92, 0xffeff47d, 0x85845dd1,
  0x6fa87e4f, 0xfe2ce6e0, 0xa3014314, 0x4e0811a1, 0xf7537e82, 0xbd3af235, 0x2ad7d2bb,
  0xeb86d391]

/-- The rotation of step `i`: four amounts per round, repeated four times. -/
def rotation (i : Nat) : UInt32 :=
  let table : Array UInt32 := #[7, 12, 17, 22, 5, 9, 14, 20, 4, 11, 16, 23, 6, 10, 15, 21]
  table[(i / 16) * 4 + i % 4]!

/-- Rotation to the left within 32 bits. -/
def rotl (x s : UInt32) : UInt32 := (x <<< s) ||| (x >>> (32 - s))

/-- The four chaining words. -/
structure State where
  a : UInt32
  b : UInt32
  c : UInt32
  d : UInt32

/-- The chaining words before the first block. -/
def State.init : State := ⟨0x67452301, 0xefcdab89, 0x98badcfe, 0x10325476⟩

/-- The little-endian word at byte offset `off`. -/
def wordAt (bytes : ByteArray) (off : Nat) : UInt32 :=
  bytes[off]!.toUInt32 ||| (bytes[off + 1]!.toUInt32 <<< 8) |||
    (bytes[off + 2]!.toUInt32 <<< 16) ||| (bytes[off + 3]!.toUInt32 <<< 24)

/-- One of the 64 steps of a block: the round's mixing function and message word. -/
def step (m : Array UInt32) (s : State) (i : Nat) : State :=
  let (f, g) :=
    if i < 16 then ((s.b &&& s.c) ||| (~~~s.b &&& s.d), i)
    else if i < 32 then ((s.d &&& s.b) ||| (~~~s.d &&& s.c), (5 * i + 1) % 16)
    else if i < 48 then (s.b ^^^ s.c ^^^ s.d, (3 * i + 5) % 16)
    else (s.c ^^^ (s.b ||| ~~~s.d), (7 * i) % 16)
  let f := f + s.a + sines[i]! + m[g]!
  ⟨s.d, s.b + rotl f (rotation i), s.b, s.c⟩

/-- The chaining words after one 64-byte block starting at `off`. -/
def block (bytes : ByteArray) (s : State) (off : Nat) : State :=
  let m := (List.range 16).toArray.map (fun j => wordAt bytes (off + 4 * j))
  let t := (List.range 64).foldl (step m) s
  ⟨s.a + t.a, s.b + t.b, s.c + t.c, s.d + t.d⟩

/-- The message, padded to a whole number of blocks with its bit length at the end. -/
def pad (msg : ByteArray) : ByteArray :=
  let len := msg.size
  let zeros := (119 - len % 64) % 64
  let bits := len * 8
  let lenBytes := (List.range 8).map (fun k => (bits / Nat.pow 2 (8 * k)).toUInt8)
  msg ++ ⟨#[0x80]⟩ ++ ⟨Array.replicate zeros 0⟩ ++ ⟨lenBytes.toArray⟩

/-- The four bytes of a word, least significant first. -/
def wordBytes (w : UInt32) : List UInt8 :=
  [w.toUInt8, (w >>> 8).toUInt8, (w >>> 16).toUInt8, (w >>> 24).toUInt8]

/-- The 16-byte digest of a byte string. -/
def digest (msg : ByteArray) : List UInt8 :=
  let p := pad msg
  let s := (List.range (p.size / 64)).foldl (fun s k => block p s (64 * k)) State.init
  wordBytes s.a ++ wordBytes s.b ++ wordBytes s.c ++ wordBytes s.d

/-- The lowercase hexadecimal digit of a number below 16. -/
def hexDigit (n : Nat) : Char :=
  if n < 10 then Char.ofNat (48 + n) else Char.ofNat (87 + n)

/-- Bytes as lowercase hexadecimal, two digits each. -/
def hex (bytes : List UInt8) : String :=
  String.ofList (bytes.flatMap fun b => [hexDigit (b.toNat / 16), hexDigit (b.toNat % 16)])

/-- The hexadecimal digest of a text's UTF-8 bytes. -/
def hexOfString (s : String) : String := hex (digest s.toUTF8)

end DefUseCoverage.Md5
