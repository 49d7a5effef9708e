import DefUseCoverage.Shell.Tool.Basic
/-!
# Reading options the GNU way

The GNU tools read their options with one shared reader. An argument `-abc` is a cluster of
letters; a letter that takes a value takes the rest of its cluster, or else the next argument.
An argument `--name` or `--name=value` is a long option, and any unambiguous prefix of a long
name stands for it. `--` ends the options, and `-` alone is an operand.

Operands may stand between options: the reader gathers them and reads on, unless the program
reads in order, when the first operand ends the options.

The first malformed option stops the reading. Its text is what the program prints before its
hint to run `--help`.
-/

namespace DefUseCoverage.Shell

namespace Tool

/-- How an option takes a value. -/
inductive Takes where
  /-- It takes none. -/
  | nothing
  /-- It takes one, from the rest of its cluster or the next argument. -/
  | required
  /-- It may take one, only from the rest of its cluster or after `=`. -/
  | optional
deriving DecidableEq, Repr

/-- An option a program knows. -/
structure OptSpec where
  /-- The option's name, by which the program asks for it. -/
  name : String
  /-- Its letter, if it has one. -/
  letter : Option Char := none
  /-- Its long names. -/
  longs : List String := []
  /-- How it takes a value. -/
  takes : Takes := .nothing
deriving DecidableEq, Repr

/-- An option with a letter and long names that takes no value, named by its first long name
(or by its letter when it has none). -/
def OptSpec.flag (c : Char) (longs : List String := []) : OptSpec :=
  { name := longs.headD c.toString, letter := some c, longs := longs }

/-- Why the options are refused. -/
inductive OptError where
  /-- A letter that is no option. -/
  | invalid (c : Char)
  /-- A letter that needs a value and has none. -/
  | letterNeedsValue (c : Char)
  /-- A long option that is no prefix of any long name (the text after `--`). -/
  | unrecognized (text : String)
  /-- A prefix of the long names of several options (the text after `--`, then those names). -/
  | ambiguous (text : String) (names : List String)
  /-- A long option that takes no value given one. -/
  | noValueAllowed (name : String)
  /-- A long option that needs a value and has none. -/
  | longNeedsValue (name : String)
deriving DecidableEq, Repr

/-- The message for a refused option. -/
def OptError.text : OptError → String
  | .invalid c => "invalid option -- \x27" ++ c.toString ++ "\x27"
  | .letterNeedsValue c => "option requires an argument -- \x27" ++ c.toString ++ "\x27"
  | .unrecognized t => "unrecognized option \x27--" ++ t ++ "\x27"
  | .ambiguous t names =>
    "option \x27--" ++ t ++ "\x27 is ambiguous; possibilities:" ++
      String.join (names.map fun n => " \x27--" ++ n ++ "\x27")
  | .noValueAllowed n => "option \x27--" ++ n ++ "\x27 doesn\x27t allow an argument"
  | .longNeedsValue n => "option \x27--" ++ n ++ "\x27 requires an argument"

/-- The options given, each by name with its value, in order. -/
abbrev Given := List (String × Option String)

/-- What reading the arguments gave: the options read, the operands, and the error that
stopped the reading, if one did. -/
structure OptReading where
  /-- The options read, in order. -/
  given : Given
  /-- The operands. -/
  operands : List String
  /-- The malformed option that stopped the reading. -/
  error : Option OptError := none
  /-- Whether `--` ended the options. -/
  ended : Bool := false

/-- The long names of the options, in order, each with its option. -/
def longTable (specs : List OptSpec) : List (String × OptSpec) :=
  specs.flatMap fun s => s.longs.map fun n => (n, s)

/-- The option a long name stands for: the one named exactly, else the one all the names it
begins agree on. Options that differ from the first such name make it ambiguous, and the
message lists the first and those. -/
def findLong (specs : List OptSpec) (name text : String) : Except OptError (String × OptSpec) :=
  let table := longTable specs
  match table.find? (·.1 == name) with
  | some hit => .ok hit
  | none =>
    match table.filter (fun (n, _) => name.toList.isPrefixOf n.toList) with
    | [] => .error (.unrecognized text)
    | first :: more =>
      let others := more.filter (·.2 != first.2)
      if others.isEmpty then .ok first
      else .error (.ambiguous text (first.1 :: others.map (·.1)))

/-- Reads a cluster of letters: the options read, the arguments left (the value of the last
letter may be the next argument), and the error that stopped it. -/
def readCluster (specs : List OptSpec) :
    List Char → List String → Given × List String × Option OptError
  | [], rest => ([], rest, none)
  | c :: cs, rest =>
    match specs.find? (·.letter == some c) with
    | none => ([], rest, some (.invalid c))
    | some s =>
      match s.takes with
      | .nothing =>
        let (os, rest, e) := readCluster specs cs rest
        ((s.name, none) :: os, rest, e)
      | .optional =>
        ([(s.name, if cs.isEmpty then none else some (String.ofList cs))], rest, none)
      | .required =>
        if !cs.isEmpty then ([(s.name, some (String.ofList cs))], rest, none)
        else match rest with
          | v :: rest => ([(s.name, some v)], rest, none)
          | [] => ([], [], some (.letterNeedsValue c))

/-- Reads a long option (the text after `--`); the arguments left are returned. -/
def readLong (specs : List OptSpec) (body : String) (rest : List String) :
    Except OptError ((String × Option String) × List String) := do
  let name := String.ofList (body.toList.takeWhile (· != '='))
  let value := if body.toList.contains '=' then some (String.ofList (body.toList.drop (name.length + 1))) else none
  let (full, s) ← findLong specs name body
  match s.takes, value with
  | .nothing, some _ => .error (.noValueAllowed full)
  | .required, none =>
    match rest with
    | v :: rest => pure ((s.name, some v), rest)
    | [] => .error (.longNeedsValue full)
  | _, v => pure ((s.name, v), rest)

/-- Reads the options and operands of arguments; with `inOrder` the first operand ends the
options. The fuel bounds the arguments read. -/
def readOptionsWith (specs : List OptSpec) (inOrder : Bool) : Nat → List String → OptReading
  | 0, rest => { given := [], operands := rest }
  | _, [] => { given := [], operands := [] }
  | k + 1, a :: rest =>
    if a == "--" then { given := [], operands := rest, ended := true }
    else if a == "-" || !a.startsWith "-" then
      if inOrder then { given := [], operands := a :: rest }
      else
        let r := readOptionsWith specs inOrder k rest
        { r with operands := a :: r.operands }
    else if a.startsWith "--" then
      match readLong specs (String.ofList (a.toList.drop 2)) rest with
      | .error e => { given := [], operands := [], error := some e }
      | .ok (o, rest) =>
        let r := readOptionsWith specs inOrder k rest
        { r with given := o :: r.given }
    else
      match readCluster specs (a.toList.drop 1) rest with
      | (os, _, some e) => { given := os, operands := [], error := some e }
      | (os, rest, none) =>
        let r := readOptionsWith specs inOrder k rest
        { r with given := os ++ r.given }

/-- Reads the options and operands of arguments. -/
def readOptions (specs : List OptSpec) (inOrder : Bool) (args : List String) : OptReading :=
  readOptionsWith specs inOrder (args.length + 1) args

/-- What a program gets that reads on past malformed options: each option read or refused,
in order, and the operands. -/
structure OptEvents where
  /-- The options read and the refusals, in order. -/
  events : List (Except OptError (String × Option String))
  /-- The operands. -/
  operands : List String

/-- Reads a cluster of letters past refused ones: the options read and refused, and the
arguments left. -/
def readClusterOn (specs : List OptSpec) :
    List Char → List String → List (Except OptError (String × Option String)) × List String
  | [], rest => ([], rest)
  | c :: cs, rest =>
    match specs.find? (·.letter == some c) with
    | none =>
      let (es, rest) := readClusterOn specs cs rest
      (.error (.invalid c) :: es, rest)
    | some s =>
      match s.takes with
      | .nothing =>
        let (es, rest) := readClusterOn specs cs rest
        (.ok (s.name, none) :: es, rest)
      | .optional => ([.ok (s.name, if cs.isEmpty then none else some (String.ofList cs))], rest)
      | .required =>
        if !cs.isEmpty then ([.ok (s.name, some (String.ofList cs))], rest)
        else match rest with
          | v :: rest => ([.ok (s.name, some v)], rest)
          | [] => ([.error (.letterNeedsValue c)], [])

/-- Reads the options and operands of arguments past malformed options, operands among the
options. The fuel bounds the arguments read. -/
def readOptionsOnWith (specs : List OptSpec) : Nat → List String → OptEvents
  | 0, rest => { events := [], operands := rest }
  | _, [] => { events := [], operands := [] }
  | k + 1, a :: rest =>
    if a == "--" then { events := [], operands := rest }
    else if a == "-" || !a.startsWith "-" then
      let r := readOptionsOnWith specs k rest
      { r with operands := a :: r.operands }
    else if a.startsWith "--" then
      match readLong specs (String.ofList (a.toList.drop 2)) rest with
      | .error e =>
        let r := readOptionsOnWith specs k rest
        { r with events := .error e :: r.events }
      | .ok (o, rest) =>
        let r := readOptionsOnWith specs k rest
        { r with events := .ok o :: r.events }
    else
      let (es, rest) := readClusterOn specs (a.toList.drop 1) rest
      let r := readOptionsOnWith specs k rest
      { r with events := es ++ r.events }

/-- Reads the options and operands of arguments past malformed options. -/
def readOptionsOn (specs : List OptSpec) (args : List String) : OptEvents :=
  readOptionsOnWith specs (args.length + 1) args

/-- Whether an option was given. -/
def Given.has (os : Given) (n : String) : Bool := os.any (·.1 == n)

/-- The value an option was last given. -/
def Given.last (os : Given) (n : String) : Option String :=
  (os.reverse.find? (·.1 == n)).bind (·.2)

/-- Which of several options was given last. -/
def Given.lastOf (os : Given) (ns : List String) : Option String :=
  (os.reverse.find? (ns.contains ·.1)).map (·.1)

/-- The hint a GNU tool prints after a usage error. -/
def tryHelp (cmd : String) : String := "Try \x27" ++ cmd ++ " --help\x27 for more information.\n"

/-- A usage error: the message, the hint, and status 1. -/
def usageError (cmd msg : String) (ws : Workspace) : ToolRun :=
  { ws := ws, err := bytes (cmd ++ ": " ++ msg ++ "\n" ++ tryHelp cmd), status := 1 }

/-- The digits as letters of options, each named by itself: the older forms of counts that
some tools read (or refuse) among their options. -/
def digitSpecs : List OptSpec :=
  (List.range 10).map fun d => { name := toString d, letter := some (Char.ofNat (48 + d)) }

/-- The options `--help` and `--version` that every GNU tool knows. -/
def standardOptions : List OptSpec :=
  [{ name := "help", longs := ["help"] }, { name := "version", longs := ["version"] }]

/-- The message of an argument that names none of a list of choices (or, `ambiguous`, more
than one), with the choices, each line of synonyms together. -/
def badChoice (ambiguous : Bool) (value option : String) (choices : List (List String)) : String :=
  (if ambiguous then "ambiguous" else "invalid") ++ " argument " ++ quoteArg value ++ " for " ++
    quoteArg ("--" ++ option) ++ "\nValid arguments are:" ++
    String.join (choices.map fun names => "\n  - " ++ ", ".intercalate (names.map quoteArg))

/-- The choice a value stands for: the choice it names, else the only one it begins (several
synonyms of one choice are one choice); or the error message. -/
def pickChoice (value option : String) (choices : List (List String)) : Except String (List String) :=
  match choices.find? (·.contains value) with
  | some c => .ok c
  | none =>
    match choices.filter (·.any fun n => value.toList.isPrefixOf n.toList) with
    | [c] => .ok c
    | [] => .error (badChoice false value option choices)
    | _ => .error (badChoice true value option choices)

/-- A decimal argument read as the tools read one (blanks, a sign, then digits and nothing
after), that must lie between `lo` and `hi`. A refusal is what the message adds after the
argument: nothing for text that is no number, else why the number does not fit. -/
def decimalArgument (text : String) (lo hi : Int) : Except String Int :=
  let cs := text.toList.dropWhile fun c => c == ' ' || ('\t' ≤ c && c ≤ '\r')
  let (neg, ds) := match cs with
    | '-' :: r => (true, r)
    | '+' :: r => (false, r)
    | r => (false, r)
  if ds.isEmpty || !ds.all Char.isDigit then .error ""
  else
    let n : Int := ds.foldl (fun a c => a * 10 + (c.toNat - 48 : Nat)) 0
    let v := if neg then -n else n
    if v > 9223372036854775807 || v < -9223372036854775808 then
      .error ": Value too large for defined data type"
    else if v < lo || v > hi then
      .error (if v > 1073741823 || v < -1073741824 then ": Value too large for defined data type"
        else ": Numerical result out of range")
    else .ok v

/-- The largest value of the widest unsigned type. -/
def widestUnsigned : Nat := 18446744073709551615

/-- The power of 1024 (or 1000) a size suffix letter stands for: `k` the first, `m` the
second, then `G`, `T`, `P`, `E`, `Z`, `Y`, `R`, `Q`; `K`, `M`, `g` and `t` are the same. -/
def suffixPower (c : Char) : Option Nat :=
  if c == 'k' || c == 'K' then some 1 else if c == 'm' || c == 'M' then some 2
  else if c == 'g' then some 3 else if c == 't' then some 4
  else match "GTPEZYRQ".toList.idxOf? c with
    | some i => some (i + 3)
    | none => none

/-- What a size suffix multiplies by, and how many characters it takes: `b` 512, `B` 1024,
`c` one, `w` two, or a power letter; when `0` is among the `valid` suffixes a power letter
may be followed by `iB` (powers of 1024) or by `B` or `D` (powers of 1000). -/
def suffixFactor (valid : List Char) (c : Char) (next : List Char) : Option (Nat × Nat) :=
  match c with
  | 'b' => some (512, 1)
  | 'B' => some (1024, 1)
  | 'c' => some (1, 1)
  | 'w' => some (2, 1)
  | _ =>
    (suffixPower c).map fun p =>
      let (base, used) : Nat × Nat :=
        if !valid.contains '0' then (1024, 1)
        else match next with
          | 'i' :: 'B' :: _ => (1024, 3)
          | 'B' :: _ => (1000, 2)
          | 'D' :: _ => (1000, 2)
          | _ => (1024, 1)
      (Nat.pow base p, used)

/-- The text of the error for a number too large for its type. -/
def tooLarge : String := ": Value too large for defined data type"

/-- An unsigned argument read as the tools read one with size suffixes: blanks, an optional
`+`, digits (or none before a suffix, standing for one), then at most one of the `valid`
suffixes. A refusal is what the message adds after the argument: nothing for a malformed
text, else that the number is too large for the widest unsigned type. -/
def sizeArgument (text : String) (valid : List Char) : Except String Nat :=
  let cs := text.toList
  let body := cs.dropWhile fun c => c == ' ' || ('\t' ≤ c && c ≤ '\r')
  let signless := match body with
    | '+' :: r => r
    | r => r
  let (ds, rest) := signless.span Char.isDigit
  let start : Option (Nat × List Char) :=
    if body.head? == some '-' then none
    else if ds.isEmpty then
      match cs with
      | c :: _ => if valid.contains c then some (1, cs) else none
      | [] => none
    else some (ds.foldl (fun a c => a * 10 + (c.toNat - 48)) 0, rest)
  match start with
  | none => .error ""
  | some (n, []) => if n > widestUnsigned then .error tooLarge else .ok n
  | some (n, c :: more) =>
    if !valid.contains c then .error ""
    else match suffixFactor valid c more with
      | none => .error ""
      | some (k, used) =>
        if !(more.drop (used - 1)).isEmpty then .error ""
        else if n * k > widestUnsigned then .error tooLarge
        else .ok (n * k)

end Tool

end DefUseCoverage.Shell
