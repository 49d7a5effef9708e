import DefUseCoverage.Shell.Tool.Options
/-!
# Cutting columns

`cut` writes parts of each line: bytes (`-b`, and `-c`, which counts bytes too) or fields
(`-f`, split at the `-d` byte, a tab by default) chosen by a list such as `1,3-5,7-`. The
list is read as `set_fields` reads it: numbers and ranges separated by commas or blanks, a
range without a start beginning at one and one without an end running to the end of the
line. The ranges are sorted and overlapping ones merged; `--complement` takes the positions
outside them instead.

A line without the delimiter is written whole under `-f` (or left out with `-s`). Chosen
fields are joined by the output delimiter (`--output-delimiter`, else the input one); for
bytes, the output delimiter is written only when given, before each range's first byte
that follows another written byte. Lines end with a newline, or a NUL with `-z`; a
delimiter equal to the line end makes the whole input one line.
-/

namespace DefUseCoverage.Shell

namespace Tool

/-- An inclusive range of positions counted from one; a range to the end of the line ends at
the widest unsigned value. -/
structure CutRange where
  /-- The first position. -/
  lower : Nat
  /-- The last position. -/
  upper : Nat
deriving DecidableEq, Repr

/-- Where the reading of a list stands. -/
structure CutScan where
  /-- The start of the range being read. -/
  initial : Nat := 1
  /-- The number being read (zero for none yet). -/
  value : Nat := 0
  /-- Whether the range being read has digits before its dash. -/
  lhs : Bool := false
  /-- Whether it has digits after its dash. -/
  rhs : Bool := false
  /-- Whether it has a dash. -/
  dash : Bool := false
  /-- Whether the last character read was a digit. -/
  inDigits : Bool := false
  /-- The text from the first digit of the number being read. -/
  numStart : List Char := []
  /-- The ranges read, in order. -/
  ranges : List CutRange := []

/-- The messages of list errors, for fields or for positions. -/
def cutMessage (fields : Bool) (forFields forPositions : String) : String :=
  if fields then forFields else forPositions

/-- The reading after a number or range ends (at a comma, a blank or the end of the list):
the range it makes added, or the error. -/
def CutScan.close (fields : Bool) (st : CutScan) : Except String CutScan :=
  let done (r : CutRange) : Except String CutScan :=
    .ok { st with ranges := st.ranges ++ [r], value := 0, dash := false, inDigits := false }
  if st.dash then
    if !st.lhs && !st.rhs then .error "invalid range with no endpoint: -"
    else if !st.rhs then done ⟨st.initial, widestUnsigned⟩
    else if st.value < st.initial then .error "invalid decreasing range"
    else done ⟨st.initial, st.value⟩
  else if st.value == 0 then
    .error (cutMessage fields "fields are numbered from 1" "byte/character positions are numbered from 1")
  else done ⟨st.value, st.value⟩

/-- Reads the rest of a list. -/
def cutScan (fields : Bool) : List Char → CutScan → Except String (List CutRange)
  | [], st => (st.close fields).map (·.ranges)
  | c :: rest, st =>
    if c == '-' then
      if st.dash then .error (cutMessage fields "invalid field range" "invalid byte or character range")
      else if st.lhs && st.value == 0 then
        .error (cutMessage fields "fields are numbered from 1" "byte/character positions are numbered from 1")
      else
        cutScan fields rest
          { st with inDigits := false, dash := true, initial := if st.lhs then st.value else 1, value := 0 }
    else if c == ',' || c == ' ' || c == '\t' then
      match st.close fields with
      | .error e => .error e
      | .ok st => cutScan fields rest { st with lhs := false, rhs := false }
    else if c.isDigit then
      let numStart := if st.inDigits then st.numStart else c :: rest
      let v := st.value * 10 + (c.toNat - 48)
      if v ≥ widestUnsigned then
        .error (cutMessage fields "field number " "byte/character offset " ++
          quoteArg (String.ofList (numStart.takeWhile Char.isDigit)) ++ " is too large")
      else
        cutScan fields rest
          { st with value := v, inDigits := true, numStart, lhs := st.lhs || !st.dash, rhs := st.rhs || st.dash }
    else
      .error (cutMessage fields "invalid field value " "invalid byte/character position " ++
        quoteArg (String.ofList (c :: rest)))

/-- Sorted ranges with those that overlap merged into one. -/
def mergeRanges (rs : List CutRange) : List CutRange :=
  (rs.mergeSort fun a b => decide (a.lower ≤ b.lower)).foldl (fun acc r =>
    match acc.getLast? with
    | some last =>
      if r.lower ≤ last.upper then acc.dropLast ++ [⟨last.lower, max last.upper r.upper⟩]
      else acc ++ [r]
    | none => [r]) []

/-- The positions outside sorted, merged ranges, as ranges. -/
def complementRanges (rs : List CutRange) : List CutRange :=
  match rs with
  | [] => []
  | first :: _ =>
    let lead := if first.lower > 1 then [⟨1, first.lower - 1⟩] else []
    let gaps := (rs.zip rs.tail).filterMap fun (a, b) =>
      if a.upper + 1 == b.lower then none else some (⟨a.upper + 1, b.lower - 1⟩ : CutRange)
    let last := rs.getLastD first
    lead ++ gaps ++ (if last.upper < widestUnsigned then [⟨last.upper + 1, widestUnsigned⟩] else [])

/-- The ranges of a list, merged (and complemented), or the message for a bad list. -/
def cutList (fields complement : Bool) (text : String) : Except String (List CutRange) :=
  (cutScan fields text.toList {}).map fun rs =>
    let merged := mergeRanges rs
    if complement then complementRanges merged else merged

/-- Whether a position is in some ranges. -/
def CutRange.holds (rs : List CutRange) (i : Nat) : Bool :=
  rs.any fun r => r.lower ≤ i && i ≤ r.upper

/-- Whether a position begins one of some ranges. -/
def CutRange.starts (rs : List CutRange) (i : Nat) : Bool :=
  rs.any fun r => r.lower == i

/-- The choices of `cut`. -/
structure CutOptions where
  /-- The list, and whether it counts fields. -/
  list : Option (Bool × String) := none
  /-- The input delimiter, if given. -/
  delim : Option UInt8 := none
  /-- `-s`: leave out lines without the delimiter. -/
  onlyDelimited : Bool := false
  /-- `--complement`. -/
  complement : Bool := false
  /-- `--output-delimiter`, if given. -/
  outDelim : Option (List UInt8) := none
  /-- The byte that ends lines. -/
  ending : UInt8 := 10

/-- The options of `cut`. -/
def cutSpecs : List OptSpec :=
  [{ name := "bytes", letter := some 'b', longs := ["bytes"], takes := .required },
   { name := "characters", letter := some 'c', longs := ["characters"], takes := .required },
   { name := "fields", letter := some 'f', longs := ["fields"], takes := .required },
   { name := "delimiter", letter := some 'd', longs := ["delimiter"], takes := .required },
   OptSpec.flag 's' ["only-delimited"],
   { name := "output-delimiter", longs := ["output-delimiter"], takes := .required },
   { name := "complement", longs := ["complement"] },
   OptSpec.flag 'z' ["zero-terminated"], OptSpec.flag 'n'] ++ standardOptions

/-- One more option of `cut`, in the order given. -/
def cutOption (acc : Except String CutOptions) (g : String × Option String) : Except String CutOptions :=
  match acc with
  | .error e => .error e
  | .ok o =>
    let v := g.2.getD ""
    match g.1 with
    | "bytes" | "characters" | "fields" =>
      if o.list.isSome then .error "only one list may be specified"
      else .ok { o with list := some (g.1 == "fields", v) }
    | "delimiter" =>
      match bytes v with
      | [] => .ok { o with delim := some 0 }
      | [b] => .ok { o with delim := some b }
      | _ => .error "the delimiter must be a single character"
    | "only-delimited" => .ok { o with onlyDelimited := true }
    | "output-delimiter" => .ok { o with outDelim := some (if v.isEmpty then [0] else bytes v) }
    | "complement" => .ok { o with complement := true }
    | "zero-terminated" => .ok { o with ending := 0 }
    | _ => .ok o

/-- One line's bytes as `cut -b` writes them (without the line end). -/
def cutBytes (rs : List CutRange) (outDelim : Option (List UInt8)) (line : List UInt8) : List UInt8 :=
  let (out, _) := line.zipIdx.foldl (fun (acc : List UInt8 × Bool) (b, i) =>
    let (out, wrote) := acc
    if !CutRange.holds rs (i + 1) then acc
    else
      let sep := match outDelim with
        | some d => if wrote && CutRange.starts rs (i + 1) then d else []
        | none => []
      (out ++ sep ++ [b], true)) ([], false)
  out

/-- One line's fields as `cut -f` writes them (without the line end), or `none` when `-s`
leaves it out. -/
def cutFields (rs : List CutRange) (delim : UInt8) (onlyDelimited : Bool) (outDelim : List UInt8)
    (line : List UInt8) : Option (List UInt8) :=
  if !line.contains delim then (if onlyDelimited then none else some line)
  else
    let kept := (line.splitOn delim).zipIdx.filter fun (_, i) => CutRange.holds rs (i + 1)
    some (outDelim.intercalate (kept.map (·.1)))

/-- What `cut` writes of a whole input. -/
def cutText (o : CutOptions) (fields : Bool) (rs : List CutRange) (bs : List UInt8) : List UInt8 :=
  let delim := o.delim.getD 9
  let outDelim := o.outDelim.getD [delim]
  let one (line : List UInt8) : Option (List UInt8) :=
    if fields then cutFields rs delim o.onlyDelimited outDelim line else some (cutBytes rs o.outDelim line)
  if fields && delim == o.ending then
    -- the line end only separates fields: the input is one line
    if bs.isEmpty then []
    else
      let body := if bs.getLast? == some o.ending then bs.dropLast else bs
      match one body with
      | some out => out ++ [o.ending]
      | none => []
  else
    (recordsWith o.ending (bs.length + 1) bs).flatMap fun l =>
      let body := if l.getLast? == some o.ending then l.dropLast else l
      match one body with
      | some out => out ++ [o.ending]
      | none => []

/-- `cut -b LIST | -c LIST | -f LIST [-d DELIM] [-s] [FILE...]`. Its messages stand between
the output of the files around them. -/
def cut (cmd : String) (args : List String) (input : List UInt8) (ws : Workspace) : ToolRun :=
  let r := readOptions cutSpecs false args
  let chosen := r.given.foldl cutOption (.ok {})
  let checked : Except String (CutOptions × Bool × List CutRange) :=
    match chosen, r.error with
    | .error e, _ => .error e
    | .ok _, some e => .error e.text
    | .ok o, none =>
      match o.list with
      | none => .error "you must specify a list of bytes, characters, or fields"
      | some (fields, text) =>
        if o.delim.isSome && !fields then
          .error "an input delimiter may be specified only when operating on fields"
        else if o.onlyDelimited && !fields then
          .error "suppressing non-delimited lines makes sense\n\tonly when operating on fields"
        else (cutList fields o.complement text).map fun rs => (o, fields, rs)
  match checked with
  | .error msg => usageError cmd msg ws
  | .ok (o, fields, rs) =>
    let files := if r.operands.isEmpty then ["-"] else r.operands
    let (writes, failed, usedIn) := files.foldl (fun (acc : List (Bool × List UInt8) × Bool × Bool) f =>
      let (writes, failed, usedIn) := acc
      let fail (msg : String) := (writes ++ [(false, errLine cmd (quoteIfNeeded f ++ ": " ++ msg))], true, usedIn)
      if f == "-" then (writes ++ [(true, cutText o fields rs (if usedIn then [] else input))], failed, true)
      else match nodeAt ws f with
        | .ok (_, .file bs) => (writes ++ [(true, cutText o fields rs bs)], failed, usedIn)
        | .ok (_, .sink) => acc
        | .ok (_, .dir) => fail "Is a directory"
        | .error e => fail (IoError.text e)) ([], false, false)
    ToolRun.ofWrites ws writes (if failed then 1 else 0) usedIn

end Tool

end DefUseCoverage.Shell
