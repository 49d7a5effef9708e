/-!
# The ChaCha8 stream

The ChaCha stream cipher with eight rounds, used as a seeded random generator. A 32-byte
seed is the key; the nonce is zero and blocks are numbered from zero with a 64-bit counter.
The generator hands out the keystream's 32-bit words in order, and a 64-bit draw takes two
consecutive words, the first as the low half.
-/

namespace DefUseCoverage.ChaCha

/-- Rotation to the left within 32 bits. -/
def rotl (x s : UInt32) : UInt32 := (x <<< s) ||| (x >>> (32 - s))

/-- The quarter round on words `a`, `b`, `c`, `d` of the state. -/
def quarter (x : Array UInt32) (a b c d : Nat) : Array UInt32 :=
  let xa := x[a]! + x[b]!
  let xd := rotl (x[d]! ^^^ xa) 16
  let xc := x[c]! + xd
  let xb := rotl (x[b]! ^^^ xc) 12
  let xa := xa + xb
  let xd := rotl (xd ^^^ xa) 8
  let xc := xc + xd
  let xb := rotl (xb ^^^ xc) 7
  ((((x.set! a xa).set! b xb).set! c xc).set! d xd)

/-- A column round followed by a diagonal round. -/
def doubleRound (x : Array UInt32) : Array UInt32 :=
  let x := quarter x 0 4 8 12
  let x := quarter x 1 5 9 13
  let x := quarter x 2 6 10 14
  let x := quarter x 3 7 11 15
  let x := quarter x 0 5 10 15
  let x := quarter x 1 6 11 12
  let x := quarter x 2 7 8 13
  quarter x 3 4 9 14

/-- The sixteen keystream words of block `n` under an eight-word key, with nonce zero. -/
def block (key : Array UInt32) (n : UInt64) : Array UInt32 :=
  let init : Array UInt32 :=
    (#[0x61707865, 0x3320646e, 0x79622d32, 0x6b206574] : Array UInt32) ++ key ++
      #[n.toUInt32, (n >>> 32).toUInt32, 0, 0]
  let mixed := (List.range 4).foldl (fun x _ => doubleRound x) init
  (List.range 16).toArray.map (fun i => mixed[i]! + init[i]!)

/-- A seeded generator: its key, the next block to compute and the 64-bit draws left over
from the current block. -/
structure Generator where
  /-- The eight key words. -/
  key : Array UInt32
  /-- The number of the next block. -/
  nextBlock : UInt64
  /-- Draws not yet handed out from the last block. -/
  pending : List UInt64

/-- The little-endian word at byte offset `off` of a seed. -/
def seedWord (seed : List UInt8) (off : Nat) : UInt32 :=
  (seed.getD off 0).toUInt32 ||| ((seed.getD (off + 1) 0).toUInt32 <<< 8) |||
    ((seed.getD (off + 2) 0).toUInt32 <<< 16) ||| ((seed.getD (off + 3) 0).toUInt32 <<< 24)

/-- The generator keyed by a 32-byte seed. -/
def Generator.ofSeed (seed : List UInt8) : Generator :=
  ⟨(List.range 8).toArray.map (fun i => seedWord seed (4 * i)), 0, []⟩

/-- The eight 64-bit draws of one block: pairs of words, the first word low. -/
def draws (words : Array UInt32) : List UInt64 :=
  (List.range 8).map fun i =>
    words[2 * i]!.toUInt64 ||| (words[2 * i + 1]!.toUInt64 <<< 32)

/-- The next 64-bit draw and the generator after it. -/
def Generator.next (g : Generator) : UInt64 × Generator :=
  match g.pending with
  | x :: rest => (x, { g with pending := rest })
  | [] =>
    match draws (block g.key g.nextBlock) with
    | x :: rest => (x, { g with nextBlock := g.nextBlock + 1, pending := rest })
    | [] => (0, g)

end DefUseCoverage.ChaCha
