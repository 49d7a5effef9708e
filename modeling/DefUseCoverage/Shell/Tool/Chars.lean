import DefUseCoverage.Shell.Tool.Basic
import DefUseCoverage.Shell.Tool.Options
/-!
# Translating bytes

`tr` maps, deletes or squeezes bytes of its input by sets written as text: escapes (`\n`,
`\t`, `\ooo`, ...), ranges `a-z`, classes `[:alpha:]`, `[=c=]`, and in the second set repeats
`[c*n]` (`[c*]` fills it to the first set's length). A second set shorter than the first is
extended by its last byte. `-c` takes the bytes not in the first set, in order.
-/

namespace DefUseCoverage.Shell

namespace Tool

/-- A byte of a set's text once its escapes are read, and whether an escape wrote it: an
escaped byte never opens or closes a bracket construct and never stands for a range's dash. -/
structure TrChar where
  /-- The byte. -/
  byte : UInt8
  /-- Whether an escape wrote it. -/
  escaped : Bool

/-- Whether a byte of a set's text is the given byte, written plainly. -/
def TrChar.is (c : TrChar) (b : UInt8) : Bool := c.byte == b && !c.escaped

/-- Whether a byte is an octal digit. -/
def isOctalByte (b : UInt8) : Bool := 48 ≤ b && b ≤ 55

/-- The byte a backslash and a letter stand for in a set's text: the C escapes by letter,
else the letter itself. -/
def trEscape (c : UInt8) : UInt8 :=
  match c.toNat with
  | 97 => 7
  | 98 => 8
  | 102 => 12
  | 110 => 10
  | 114 => 13
  | 116 => 9
  | 118 => 11
  | _ => c

/-- A set's text with its escapes read, and the warnings reading it gave, in order. An octal
escape takes up to three digits, the third only while the value fits a byte (a warning says
so when it does not); a backslash that ends the text stands for itself, with a warning. The
fuel bounds the bytes. -/
def trUnquote : Nat → List UInt8 → List TrChar × List String
  | 0, _ => ([], [])
  | _, [] => ([], [])
  | k + 1, 92 :: rest =>
    let emit (b : UInt8) (more : List UInt8) (warn : List String) : List TrChar × List String :=
      let (cs, ws) := trUnquote k more
      (⟨b, true⟩ :: cs, warn ++ ws)
    match rest with
    | [] => ([⟨92, false⟩], ["warning: an unescaped backslash at end of string is not portable"])
    | d0 :: more =>
      if !isOctalByte d0 then emit (trEscape d0) more []
      else
        match more with
        | d1 :: more1 =>
          if !isOctalByte d1 then emit (d0 - 48) more []
          else
            let v := (d0.toNat - 48) * 8 + (d1.toNat - 48)
            match more1 with
            | d2 :: more2 =>
              if !isOctalByte d2 then emit (UInt8.ofNat v) more1 []
              else if v * 8 + (d2.toNat - 48) < 256 then
                emit (UInt8.ofNat (v * 8 + (d2.toNat - 48))) more2 []
              else
                let ch (b : UInt8) : String := (Char.ofNat b.toNat).toString
                emit (UInt8.ofNat v) more1 ["warning: the ambiguous octal escape \\" ++ ch d0 ++ ch d1 ++
                  ch d2 ++ " is being\n\tinterpreted as the 2-byte sequence \\0" ++ ch d0 ++ ch d1 ++
                  ", " ++ ch d2]
            | [] => emit (UInt8.ofNat v) [] []
        | [] => emit (d0 - 48) [] []
  | k + 1, c :: rest =>
    let (cs, ws) := trUnquote k rest
    (⟨c, false⟩ :: cs, ws)

/-- An item of a `tr` set before expansion. -/
inductive TrItem where
  /-- A byte. -/
  | byte (b : UInt8)
  /-- A range of bytes. -/
  | range (lo hi : UInt8)
  /-- A class by name. -/
  | named (name : String)
  /-- An equivalence class `[=c=]`: in the byte locale, the byte alone. -/
  | equiv (b : UInt8)
  /-- A byte repeated `n` times, or to fill the set (`none`). -/
  | repeat_ (b : UInt8) (n : Option Nat)

/-- The bytes of a class, in order; `none` for an unknown class. -/
def trClass (name : String) : Option (List UInt8) :=
  let all := (List.range 256).map UInt8.ofNat
  let pick (p : Nat → Bool) : List UInt8 := all.filter fun b => p b.toNat
  let upper (n : Nat) : Bool := 65 ≤ n && n ≤ 90
  let lower (n : Nat) : Bool := 97 ≤ n && n ≤ 122
  let digit (n : Nat) : Bool := 48 ≤ n && n ≤ 57
  match name with
  | "alpha" => some (pick fun n => upper n || lower n)
  | "upper" => some (pick upper)
  | "lower" => some (pick lower)
  | "digit" => some (pick digit)
  | "alnum" => some (pick fun n => upper n || lower n || digit n)
  | "space" => some (pick fun n => (9 ≤ n && n ≤ 13) || n == 32)
  | "blank" => some (pick fun n => n == 9 || n == 32)
  | "punct" => some (pick fun n => 33 ≤ n && n ≤ 126 && !(upper n || lower n || digit n))
  | "print" => some (pick fun n => 32 ≤ n && n ≤ 126)
  | "graph" => some (pick fun n => 33 ≤ n && n ≤ 126)
  | "cntrl" => some (pick fun n => n < 32 || n == 127)
  | "xdigit" => some (pick fun n => digit n || (65 ≤ n && n ≤ 70) || (97 ≤ n && n ≤ 102))
  | _ => none

/-- A byte as a message of `tr` shows it: itself when it prints, else a backslash and three
octal digits. -/
def trPrintable (b : UInt8) : String :=
  if 32 ≤ b.toNat && b.toNat < 127 then (Char.ofNat b.toNat).toString else octalEscape b

/-- Bytes as a message of `tr` shows them: the controls with a C letter by it, the other
bytes as `trPrintable` shows them. -/
def trPrintableText (bs : List UInt8) : String :=
  String.join (bs.map fun b =>
    match b.toNat with
    | 7 => "\\a"
    | 8 => "\\b"
    | 9 => "\\t"
    | 10 => "\\n"
    | 11 => "\\v"
    | 12 => "\\f"
    | 13 => "\\r"
    | _ => trPrintable b)

/-- Splits a set's text at the first plain `d` followed by a plain `]`: the text before it
and the text after the `]`. -/
def trClosing (d : UInt8) : List TrChar → Option (List TrChar × List TrChar)
  | a :: b :: rest =>
    if a.is d && b.is 93 then some ([], rest)
    else (trClosing d (b :: rest)).map fun (x, y) => (a :: x, y)
  | _ => none

/-- Whether a text begins with a plain `*`, then plain digits and a plain `]`: such a text
makes a bracket read as a repeat although it looked like a class. -/
def trStarDigits : List TrChar → Bool
  | c :: rest =>
    c.is 42 &&
      match rest.dropWhile (fun d => !d.escaped && 48 ≤ d.byte && d.byte ≤ 57) with
      | d :: _ => d.is 93
      | [] => false
  | [] => false

/-- The text after `[c*` up to a plain `]`, and the text after that, unless an escaped byte
comes first. -/
def trRepeatEnd : List TrChar → Option (List UInt8 × List TrChar)
  | [] => none
  | c :: rest =>
    if c.escaped then none
    else if c.byte == 93 then some ([], rest)
    else (trRepeatEnd rest).map fun (ds, after) => (c.byte :: ds, after)

/-- The count of a repeat `[c*n]`: octal when its text begins with `0`, else decimal, after
blanks and an optional `+`; `none` when the text is no such number or too large a one. -/
def trRepeatCount (ds : List UInt8) : Option Nat :=
  let base := if ds.head? == some 48 then 8 else 10
  let body := ds.dropWhile fun b => b == 32 || (9 ≤ b && b ≤ 13)
  let body := match body with
    | 43 :: more => more
    | _ => body
  let n := body.foldl (fun n b => n * base + (b.toNat - 48)) 0
  if body.isEmpty || !body.all (fun b => 48 ≤ b && b.toNat < 48 + base) || n ≥ 18446744073709551616 then none
  else some n

/-- The items of a set's text, or the message that refuses it. The bracket constructs
`[:name:]`, `[=c=]` and `[c*n]` take three bytes or more, so the last two bytes always stand
for themselves; a `[` that opens none of them stands for itself, and a byte followed by a
plain `-` and another byte makes a range. A repeat of count zero fills the set. The fuel
bounds the bytes. -/
def trItems : Nat → List TrChar → Except String (List TrItem)
  | 0, _ => .ok []
  | k + 1, cs =>
    match cs with
    | c0 :: c1 :: c2 :: more =>
      let plain : Except String (List TrItem) :=
        if c1.is 45 then
          if c2.byte < c0.byte then
            .error ("range-endpoints of \x27" ++ trPrintable c0.byte ++ "-" ++ trPrintable c2.byte ++
              "\x27 are in reverse collating sequence order")
          else (trItems k more).map (.range c0.byte c2.byte :: ·)
        else (trItems k (c1 :: c2 :: more)).map (.byte c0.byte :: ·)
      let repeated : Except String (List TrItem) :=
        if c2.is 42 then
          match trRepeatEnd more with
          | none => plain
          | some ([], after) => (trItems k after).map (.repeat_ c1.byte none :: ·)
          | some (ds, after) =>
            match trRepeatCount ds with
            | some 0 => (trItems k after).map (.repeat_ c1.byte none :: ·)
            | some n => (trItems k after).map (.repeat_ c1.byte (some n) :: ·)
            | none => .error ("invalid repeat count " ++ quoteArg (trPrintableText ds) ++ " in [c*n] construct")
        else plain
      if !c0.is 91 then plain
      else if c1.is 58 || c1.is 61 then
        match trClosing c1.byte (c2 :: more) with
        | none => repeated
        | some ([], _) =>
          .error (if c1.byte == 58 then "missing character class name \x27[::]\x27"
            else "missing equivalence class character \x27[==]\x27")
        | some (op, after) =>
          let text := op.map (·.byte)
          if c1.byte == 58 then
            let name := String.ofList (text.map fun b => Char.ofNat b.toNat)
            match trClass name with
            | some _ => (trItems k after).map (.named name :: ·)
            | none =>
              if trStarDigits (c2 :: more) then repeated
              else .error ("invalid character class " ++ quoteArg (trPrintableText text))
          else
            match text with
            | [b] => (trItems k after).map (.equiv b :: ·)
            | _ =>
              if trStarDigits (c2 :: more) then repeated
              else .error (trPrintableText text ++ ": equivalence class operand must be a single character")
      else repeated
    | _ => .ok (cs.map fun c => .byte c.byte)

/-- A set read from its text: the warnings reading its escapes gave, and its items or the
message that refuses it. -/
def trSet (text : String) : List String × Except String (List TrItem) :=
  let (cs, warnings) := trUnquote (text.utf8ByteSize + 1) (Utf8.encodeKeeping text)
  (warnings, trItems (cs.length + 1) cs)

/-- The distinct bytes an item adds to a set, a repeat its byte. -/
def TrItem.members : TrItem → List UInt8
  | .byte b | .equiv b | .repeat_ b _ => [b]
  | .range lo hi => (List.range (hi.toNat - lo.toNat + 1)).map fun k => UInt8.ofNat (lo.toNat + k)
  | .named n => (trClass n).getD []

/-- How many bytes an item stands for in its set's sequence; a repeat that fills stands for
`fill`. -/
def TrItem.size (fill : Nat) : TrItem → Nat
  | .repeat_ _ (some n) => n
  | .repeat_ _ none => fill
  | i => i.members.length

/-- The byte at a position of an item's sequence. -/
def TrItem.byteAt (i : TrItem) (p : Nat) : UInt8 :=
  match i with
  | .repeat_ b _ => b
  | _ => i.members.getD p 0

/-- Whether an item is the class of the upper or of the lower case letters. -/
def TrItem.caseClass : TrItem → Bool
  | .named n => n == "upper" || n == "lower"
  | _ => false

/-- Whether an item repeats its byte to fill the set. -/
def TrItem.fills : TrItem → Bool
  | .repeat_ _ none => true
  | _ => false

/-- The length of a set's sequence. -/
def trLength (fill : Nat) (items : List TrItem) : Nat :=
  items.foldl (fun n i => n + i.size fill) 0

/-- The distinct bytes of a set, items of no bytes left out. -/
def trMembers (fill : Nat) (items : List TrItem) : List UInt8 :=
  (items.filter (·.size fill != 0)).flatMap (·.members)

/-- The byte at a position of a set's sequence, `none` past its end. -/
def trByteAt (fill : Nat) : List TrItem → Nat → Option UInt8
  | [], _ => none
  | i :: rest, p => if p < i.size fill then some (i.byteAt p) else trByteAt fill rest (p - i.size fill)

/-- The items of a set that stand for some bytes, each with the position where it begins. -/
def trStarts (fill : Nat) (items : List TrItem) : List (Nat × TrItem) :=
  (items.foldl (fun (acc : List (Nat × TrItem) × Nat) i =>
    let (out, p) := acc
    let n := i.size fill
    (if n == 0 then out else out ++ [(p, i)], p + n)) ([], 0)).1

/-- Whether the case classes of the second set line up with those of the first: read in
step, where the second begins `[:upper:]` or `[:lower:]` the first must begin one too. -/
def trCasesAligned (items1 : List TrItem) (len1 : Nat) (fill2 : Nat) (items2 : List TrItem) : Bool :=
  let starts1 := trStarts 0 items1
  (trStarts fill2 items2).all fun (p, i) =>
    !i.caseClass || len1 < p ||
      starts1.any fun (q, j) => q == p && j.caseClass

/-- Pairs of a set's bytes with the positions they stand at, up to `bound`, for a mapping in
which the last pair of a byte wins: of a repeat only its last position counts. -/
def trPositions (bound : Nat) (items : List TrItem) : List (UInt8 × Nat) :=
  (items.foldl (fun (acc : List (UInt8 × Nat) × Nat) i =>
    let (out, p) := acc
    let n := i.size 0
    let stop := min (p + n) bound
    let here := match i with
      | .repeat_ b _ => if p < stop then [(b, stop - 1)] else []
      | _ => ((List.range (stop - p)).map fun k => (i.byteAt k, p + k))
    (out ++ here, p + n)) ([], 0)).1

/-- The options of `tr`. -/
def trSpecs : List OptSpec :=
  [OptSpec.flag 'c' ["complement"], { name := "complement", letter := some 'C' },
   OptSpec.flag 'd' ["delete"], OptSpec.flag 's' ["squeeze-repeats"],
   OptSpec.flag 't' ["truncate-set1"], { name := "A", letter := some 'A' }] ++ standardOptions

/-- Squeezing runs of a byte of a set into one. -/
def squeezeRuns (set : List UInt8) (bs : List UInt8) : List UInt8 :=
  (bs.foldl (fun (acc : List UInt8 × Option UInt8) b =>
    let (out, last) := acc
    if last == some b && set.contains b then (out, last) else (b :: out, some b)) ([], none)).1.reverse

/-- What `tr` does once its sets are read and checked. -/
inductive TrPlan where
  /-- Squeeze the bytes of a set. -/
  | squeeze (set : List UInt8)
  /-- Delete the bytes of a set, then squeeze those of another. -/
  | delete (set squeezed : List UInt8)
  /-- Map bytes by a table, then squeeze those of a set. -/
  | translate (table : Array UInt8) (squeezed : List UInt8)

/-- Checks the sets as `tr` does before it reads its input, and plans its work: a fill
repeat only in the second set and only once, and when translating no equivalence class
and no class but the case classes in the second set, the case classes aligned, a second
set extended by its last byte (not a class) to the first's length unless `-t`, and under
`-c` with a class a second set of one byte throughout. -/
def trPlan (complement delete squeeze truncate : Bool) (items1 : List TrItem)
    (items2 : Option (List TrItem)) : Except String TrPlan := do
  if items1.any (·.fills) then throw "the [c*] repeat construct may not appear in string1"
  let all := (List.range 256).map UInt8.ofNat
  let members1 := trMembers 0 items1
  let domain := if complement then all.filter (!members1.contains ·) else members1
  let len1 := if complement then domain.length else trLength 0 items1
  match items2 with
  | none =>
    if squeeze then pure (.squeeze domain) else pure (.delete domain [])
  | some items2 =>
    let fixed := trLength 0 items2
    let fill := if len1 ≥ fixed then len1 - fixed else 0
    if (items2.filter (·.fills)).length > 1 then throw "only one [c*] repeat construct may appear in string2"
    if delete then
      if items2.any (·.fills) then throw "the [c*] construct may appear in string2 only when translating"
      pure (.delete domain (trMembers fill items2))
    else
      if items2.any (fun i => match i with | .equiv _ => true | _ => false) then
        throw "[=c=] expressions may not appear in string2 when translating"
      if items2.any (fun i => match i with | .named n => n != "upper" && n != "lower" | _ => false) then
        throw "when translating, the only character classes that may appear in\nstring2 are \x27upper\x27 and \x27lower\x27"
      let hasClass2 := items2.any fun i => match i with | .named _ => true | _ => false
      if !complement && hasClass2 && !trCasesAligned items1 len1 fill items2 then
        throw "misaligned [:upper:] and/or [:lower:] construct"
      let len2 := trLength fill items2
      let extend := len1 > len2 && !truncate
      if extend && len2 == 0 then throw "when not truncating set1, string2 must be non-empty"
      let last : UInt8 ← match items2.getLast? with
        | some (.named _) =>
          if extend then
            throw "when translating with string1 longer than string2,\nthe latter string must not end with a character class"
          else pure 0
        | some (.range _ hi) => pure hi
        | some (.byte b) | some (.equiv b) | some (.repeat_ b _) => pure b
        | none => pure 0
      let lenOut := if extend then len1 else len2
      let at2 (p : Nat) : UInt8 := (trByteAt fill items2 p).getD last
      let members2 := trMembers fill items2
      let hasClass1 := items1.any fun i => match i with | .named _ => true | _ => false
      if complement && hasClass1 &&
          !(lenOut == len1 && (members2.all (· == members2.headD 0))) then
        throw "when translating with complemented character classes,\nstring2 must map all characters in the domain to one"
      let bound := min len1 lenOut
      let pairs : List (UInt8 × Nat) :=
        if complement then (domain.zipIdx).filter (·.2 < bound)
        else trPositions bound items1
      let table := pairs.foldl (fun (t : Array UInt8) (a, p) => t.set! a.toNat (at2 p)) all.toArray
      pure (.translate table (if squeeze then members2 else []))

/-- `tr [-cdst] SET1 [SET2]`. -/
def tr (cmd : String) (args : List String) (input : List UInt8) (ws : Workspace) : ToolRun :=
  let r := readOptions trSpecs true args
  match r.error with
  | some e => usageError cmd e.text ws
  | none =>
    let given := r.given
    let complement := given.has "complement"
    let delete := given.has "delete"
    let squeeze := given.has "squeeze-repeats"
    let truncate := given.has "truncate-set1"
    let sets := r.operands
    let least := if delete == squeeze then 2 else 1
    let most := if delete && !squeeze then 1 else 2
    if sets.isEmpty then usageError cmd "missing operand" ws
    else if sets.length < least then
      usageError cmd ("missing operand after " ++ quoteArg (sets.getLastD "") ++ "\n" ++
        (if squeeze then "Two strings must be given when both deleting and squeezing repeats."
          else "Two strings must be given when translating.")) ws
    else if sets.length > most then
      usageError cmd ("extra operand " ++ quoteArg (sets.getD most "") ++
        (if sets.length == 2 then "\nOnly one string may be given when deleting without squeezing repeats."
          else "")) ws
    else
      let warned (ws : List String) : List UInt8 := ws.flatMap (errLine cmd)
      let (w1, set1) := trSet (sets.headD "")
      match set1 with
      | .error e => { ws := ws, err := warned w1 ++ errLine cmd e, status := 1 }
      | .ok items1 =>
        let second := (sets.drop 1).head?.map trSet
        let w2 := (second.map (·.1)).getD []
        match (second.map (·.2) : Option (Except String (List TrItem))) with
        | some (.error e) => { ws := ws, err := warned (w1 ++ w2) ++ errLine cmd e, status := 1 }
        | set2 =>
          let items2 := set2.bind fun s => match s with
            | .ok items => some items
            | .error _ => none
          match trPlan complement delete squeeze truncate items1 items2 with
          | .error e => { ws := ws, err := warned (w1 ++ w2) ++ errLine cmd e, status := 1 }
          | .ok plan =>
            let out := match plan with
              | .squeeze set => squeezeRuns set input
              | .delete set squeezed => squeezeRuns squeezed (input.filter (!set.contains ·))
              | .translate table squeezed => squeezeRuns squeezed (input.map fun b => table[b.toNat]!)
            { ws := ws, err := warned (w1 ++ w2), out := out, readsInput := true }

end Tool

end DefUseCoverage.Shell
