import DefUseCoverage.Coverage.Store
import DefUseCoverage.Template.Strategy
/-!
# Generating stubs

For a type, each uncovered pair in registration order gets a stub from the strategy. A
failing strategy only skips its pair; a body already recorded for the type (before the call
or earlier in it) is skipped as a duplicate; any other body is recorded in the store and
emitted. So a body is never emitted twice for a type.

Generating for a list of types visits them in order and reads the cancellation token before
each type: a read that finds it set ends the pass. With several workers the list is cut into
contiguous chunks of `⌈n / workers⌉` types, each visited in order, and the results are joined in
chunk order; the reads of the token are numbered as if one pass went over the whole list.

The token may be set by anyone at any moment, and stays set. Its reads are numbered: the loop
reads it before each cycle, before each type of a generation pass and at the end of each cycle,
and the token says from which read on it is found set. A read that finds it set is the last to
count: every read after it finds it set too.
-/

namespace DefUseCoverage

open Coverage

/-- A cancellation token, as the loop reads it. It is found set by the read that comes after
`setFrom` reads that found it not set, and by every read after that one; by none when `setFrom`
is `none`. -/
structure Token where
  /-- After how many reads that find it not set the token is found set, if it ever is. -/
  setFrom : Option Nat := none
  /-- The reads so far that found it not set. -/
  reads : Nat := 0
deriving Repr, DecidableEq

namespace Token

/-- Whether a read now finds the token set. -/
def isSet (t : Token) : Bool := t.setFrom.any (· ≤ t.reads)

/-- A read: whether it finds the token set, and the token after it. -/
def read (t : Token) : Bool × Token :=
  if t.isSet then (true, t) else (false, { t with reads := t.reads + 1 })

/-- The token after the reads of a pass over `n` types, which reads it before each type and
stops at the first read that finds it set. -/
def afterPass (t : Token) : Nat → Token
  | 0 => t
  | n + 1 => if t.isSet then t else afterPass t.read.2 n

/-- The token set now: the next read finds it set. -/
def cancel (t : Token) : Token := if t.isSet then t else { t with setFrom := some t.reads }

end Token

/-- What a generation pass produced. -/
structure GenerationReport where
  /-- Emitted stubs, in generation order. -/
  emitted : List PutRecord := []
  /-- Bodies already recorded for their type. -/
  skippedDuplicates : Nat := 0
  /-- Pairs the strategy failed on. -/
  failures : Nat := 0
  /-- Whether cancellation stopped the pass before every type was visited. -/
  cancelled : Bool := false
deriving Repr, Inhabited

/-- Two reports one after the other. -/
def GenerationReport.merge (a b : GenerationReport) : GenerationReport :=
  ⟨a.emitted ++ b.emitted, a.skippedDuplicates + b.skippedDuplicates, a.failures + b.failures,
    a.cancelled || b.cancelled⟩

/-- One pair's turn: fail, skip a duplicate body, or record and emit it. -/
def generatePair (strat : Template.Strategy) (ty : String)
    (acc : GenerationReport × Store) (p : Pair) : GenerationReport × Store :=
  let (r, s) := acc
  match strat.generate p with
  | .error _ => ({ r with failures := r.failures + 1 }, s)
  | .ok body =>
    if s.hasPut ty body then ({ r with skippedDuplicates := r.skippedDuplicates + 1 }, s)
    else
      let (_, s) := s.recordPut ty body
      ({ r with emitted := r.emitted ++ [⟨ty, body, p⟩] }, s)

/-- Stubs for the uncovered pairs of one type. -/
def generateForType (strat : Template.Strategy) (s : Store) (ty : String) : GenerationReport × Store :=
  (s.uncovered ty).foldl (generatePair strat ty) ({}, s)

/-- Stubs for each type in order. Before each type the token is read, and a read that finds it
set ends the pass and reports the cancellation. -/
def generateSequential (strat : Template.Strategy) (token : Token) (s : Store) :
    List String → GenerationReport × Store
  | [] => ({}, s)
  | ty :: rest =>
    if token.isSet then ({ cancelled := true }, s)
    else
      let first := generateForType strat s ty
      let others := generateSequential strat token.read.2 first.2 rest
      (first.1.merge others.1, others.2)

/-- A list cut into pieces of `n` items, the last one possibly shorter. -/
def chunks {α : Type} (n : Nat) (xs : List α) : List (List α) :=
  if n = 0 then [xs]
  else if xs.isEmpty then []
  else xs.take n :: chunks n (xs.drop n)
termination_by xs.length
decreasing_by
  have : xs.length ≠ 0 := by simpa [List.isEmpty_iff, List.length_eq_zero_iff] using ‹¬xs.isEmpty = true›
  simp only [List.length_drop]
  omega

/-- The passes over pieces of a list, one after the other, their results joined in order. A
piece's reads of the token come after those the pieces before it would make. -/
def generateChunks (strat : Template.Strategy) (token : Token) (s : Store) :
    List (List String) → GenerationReport × Store
  | [] => ({}, s)
  | chunk :: rest =>
    let first := generateSequential strat token s chunk
    let others := generateChunks strat (token.afterPass chunk.length) first.2 rest
    (first.1.merge others.1, others.2)

/-- Stubs for each type, with `workers` workers each taking a contiguous chunk of the list;
results are joined in chunk order. -/
def generateAll (strat : Template.Strategy) (workers : Nat) (token : Token) (s : Store)
    (types : List String) : GenerationReport × Store :=
  if workers ≤ 1 || types.length ≤ 1 then generateSequential strat token s types
  else generateChunks strat token s (chunks ((types.length + workers - 1) / workers) types)

end DefUseCoverage
