import DefUseCoverage.Coverage.Snapshot
import DefUseCoverage.Text.Utf8
/-!
# Snapshots in binary

The binary form of a snapshot writes every length as an unsigned 64-bit little-endian number,
a string as its length in bytes followed by its UTF-8 bytes, and a boolean as one byte, 0 or
1. A list is its length followed by its items; a record is its fields in order. Reading
refuses invalid UTF-8, a boolean byte other than 0 and 1, and data that ends too soon, and
ignores bytes after the snapshot.
-/

namespace DefUseCoverage.Coverage.Binary

/-- The eight little-endian bytes of a length. -/
def u64 (n : Nat) : List UInt8 := (List.range 8).map fun k => (n / Nat.pow 2 (8 * k)).toUInt8

/-- A string: its byte length, then its bytes. -/
def str (s : String) : List UInt8 := let bs := Utf8.encode s; u64 bs.length ++ bs

/-- A list: its length, then its items. -/
def list {α : Type} (f : α → List UInt8) (xs : List α) : List UInt8 := u64 xs.length ++ xs.flatMap f

/-- A pair entry. -/
def pairEntry (p : PairSnapshot) : List UInt8 :=
  str p.field ++ str p.defMethod ++ str p.useMethod ++ [if p.covered then 1 else 0]

/-- A type entry. -/
def typeEntry (t : TypeSnapshot) : List UInt8 :=
  str t.declaringType ++ list pairEntry t.pairs ++ list str t.puts

/-- The binary form of a snapshot. -/
def encode (s : Snapshot) : List UInt8 := list typeEntry s.types

/-- A reader: a value and the bytes after it, or `none`. -/
abbrev Reader (α : Type) := List UInt8 → Option (α × List UInt8)

/-- A 64-bit little-endian length. -/
def readU64 : Reader Nat := fun bs =>
  if bs.length < 8 then none
  else some ((bs.take 8).foldr (fun b acc => acc * 256 + b.toNat) 0, bs.drop 8)

/-- A string. -/
def readStr : Reader String := fun bs => do
  let (n, r) ← readU64 bs
  if r.length < n then none
  else
    let s ← Utf8.decode? (r.take n)
    pure (s, r.drop n)

/-- A boolean byte. -/
def readBool : Reader Bool
  | 0 :: r => some (false, r)
  | 1 :: r => some (true, r)
  | _ => none

/-- `n` items, one after the other. -/
def readN {α : Type} (item : Reader α) : Nat → Reader (List α)
  | 0, bs => some ([], bs)
  | n + 1, bs => do
    let (x, r) ← item bs
    let (xs, r) ← readN item n r
    pure (x :: xs, r)

/-- A list; a length beyond the bytes left is refused at once, since every item takes at
least one byte. -/
def readList {α : Type} (item : Reader α) : Reader (List α) := fun bs => do
  let (n, r) ← readU64 bs
  if r.length < n then none else readN item n r

/-- A pair entry. -/
def readPair : Reader PairSnapshot := fun bs => do
  let (f, r) ← readStr bs
  let (d, r) ← readStr r
  let (u, r) ← readStr r
  let (c, r) ← readBool r
  pure (⟨f, d, u, c⟩, r)

/-- A type entry. -/
def readType : Reader TypeSnapshot := fun bs => do
  let (t, r) ← readStr bs
  let (ps, r) ← readList readPair r
  let (bodies, r) ← readList readStr r
  pure (⟨t, ps, bodies⟩, r)

/-- A snapshot read from the front of the bytes; what follows it is ignored. -/
def decode? (bs : List UInt8) : Option Snapshot :=
  (readList readType bs).map fun (ts, _) => ⟨ts⟩

end DefUseCoverage.Coverage.Binary
