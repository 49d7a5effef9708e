import DefUseCoverage.Shell.Tool.Basic
/-!
# Version order

The order of `sort -V` and `ls -v`, in which `file2` comes before `file10`. Names are compared
in runs: a run of other characters byte by byte, then a run of digits by its value. Among the
other characters, the end of the name comes before everything but `~`, `~` before that, letters
by their code, and the rest after all letters.

Before that, file suffixes (`.tar.gz`: a dot, a letter or `~`, then letters, digits and `~`)
are set aside, so that `a.txt` and `a1.txt` compare as `a` and `a1`; only if those are equal are
the whole names compared. The empty name comes first, then `.`, then `..`, then other names
starting with a dot, then the rest.
-/

namespace DefUseCoverage.Shell

namespace Tool

/-- Whether a byte is an ASCII digit. -/
def isDigitByte (b : UInt8) : Bool := 48 ≤ b && b ≤ 57

/-- Whether a byte is an ASCII letter. -/
def isAlphaByte (b : UInt8) : Bool := (65 ≤ b && b ≤ 90) || (97 ≤ b && b ≤ 122)

/-- The rank of a byte that is no digit, or of the end of a name (`none`). -/
def versionRank : Option UInt8 → Int
  | none => -1
  | some b =>
    if isDigitByte b then 0
    else if isAlphaByte b then b.toNat
    else if b == 126 then -2
    else b.toNat + 256

/-- Compares the non-digit runs at the start of two names and then their digit runs, and so
on: the first difference, as a sign. The fuel bounds the steps. -/
def versionRuns : Nat → List UInt8 → List UInt8 → Int
  | 0, _, _ => 0
  | k + 1, a, b =>
    if a.isEmpty && b.isEmpty then 0
    else
      -- the run of other characters
      let rec others : Nat → List UInt8 → List UInt8 → Except Int (List UInt8 × List UInt8)
        | 0, a, b => .ok (a, b)
        | j + 1, a, b =>
          let aOther := match a with | x :: _ => !isDigitByte x | [] => false
          let bOther := match b with | x :: _ => !isDigitByte x | [] => false
          if !(aOther || bOther) then .ok (a, b)
          else
            let ra := versionRank a.head?
            let rb := versionRank b.head?
            if ra != rb then .error (ra - rb) else others j a.tail b.tail
      match others (a.length + b.length + 1) a b with
      | .error d => d
      | .ok (a, b) =>
        let a := a.dropWhile (· == 48)
        let b := b.dropWhile (· == 48)
        let da := a.takeWhile isDigitByte
        let db := b.takeWhile isDigitByte
        let common := min da.length db.length
        let firstDiff := ((da.zip db).find? fun (x, y) => x != y).map fun (x, y) => (x.toNat : Int) - y.toNat
        if da.length > common then 1
        else if db.length > common then -1
        else match firstDiff with
          | some d => d
          | none => versionRuns k (a.drop common) (b.drop common)

/-- The length of a name without its file suffixes. -/
def versionPrefixLength (bs : List UInt8) : Nat :=
  let arr := bs.toArray
  let n := arr.size
  -- from each position, the end of a suffix run starting there, if one does
  let rec suffixEnd : Nat → Nat → Nat
    | 0, i => i
    | f + 1, i =>
      if i + 1 < n && arr[i]? == some 46 &&
          (match arr[i + 1]? with | some c => isAlphaByte c || c == 126 | none => false) then
        let j := (List.range (n - (i + 2))).find? (fun d =>
          match arr[i + 2 + d]? with
          | some c => !(isAlphaByte c || isDigitByte c || c == 126)
          | none => true)
        suffixEnd f (match j with | some d => i + 2 + d | none => n)
      else i
  let rec scan : Nat → Nat → Nat → Nat
    | 0, _, p => p
    | f + 1, i, p =>
      if i ≥ n then p
      else
        let i := i + 1
        scan f (suffixEnd (n + 1) i) i
  scan (n + 1) 0 0

/-- The version order of two names. -/
def versionCompare (a b : List UInt8) : Ordering :=
  let sign (d : Int) : Ordering := if d < 0 then .lt else if d > 0 then .gt else .eq
  match a, b with
  | [], [] => .eq
  | [], _ => .lt
  | _, [] => .gt
  | x :: xs, y :: ys =>
    let dots : Option Ordering :=
      if x == 46 then
        if y != 46 then some .lt
        else if xs.isEmpty then some (if ys.isEmpty then .eq else .lt)
        else if ys.isEmpty then some .gt
        else if xs == [46] then some (if ys == [46] then .eq else .lt)
        else if ys == [46] then some .gt
        else none
      else if y == 46 then some .gt
      else none
    match dots with
    | some r => r
    | none =>
      let pa := versionPrefixLength a
      let pb := versionPrefixLength b
      let fuel := a.length + b.length + 2
      let first := versionRuns fuel (a.take pa) (b.take pb)
      if first != 0 || (pa == a.length && pb == b.length) then sign first
      else sign (versionRuns fuel a b)

end Tool

end DefUseCoverage.Shell
