/-!
# Command-line options

The program takes these options, each at most once:

* `-c`, `--config-file FILE`: the configuration file;
* `--target-command PROGRAM`: the program the command engine runs;
* `-m`, `--max-cycles N`: the cycle budget;
* `-a`, `--assembly NAME`: the assembly the metadata must describe;
* `-v`, `--verbose`;
* `-h`, `--help` and `-V`, `--version`, which print the help or the version and stop.

A long option takes its value after `=` or as the next argument; a short one right after its
letter (`-m3`, `-m=3`) or as the next argument, and flags without values may be bunched
(`-vm 3`). A value given as the next argument may not look like an option (start with `-` and
be more than `-` alone). Everything else is a usage error: an unknown option, a positional
argument, an option given twice, a value missing or malformed (a count that is not a decimal
number, an empty file name). Arguments are read from the left, and the first usage error, help
or version request ends the reading; a value waiting for the next argument is checked before
the next option is looked at.
-/

namespace DefUseCoverage.Cli

/-- The options of a run. -/
structure Options where
  /-- The configuration file, when one is named. -/
  configFile : Option String := none
  /-- The program the command engine runs instead of the configured one. -/
  targetCommand : Option String := none
  /-- The cycle budget instead of the configured one. -/
  maxCycles : Option Nat := none
  /-- The assembly instead of the configured one. -/
  assembly : Option String := none
  /-- Whether more is logged. -/
  verbose : Bool := false
deriving Repr

/-- What the command line asks for. -/
inductive Request where
  /-- A run with these options. -/
  | run (o : Options)
  /-- The help text. -/
  | help
  /-- The version. -/
  | version
  /-- Nothing: the command line is wrong. -/
  | usageError
deriving Repr

/-- The options by identity. -/
inductive Flag where
  | configFile | targetCommand | maxCycles | assembly | verbose | help | version
deriving DecidableEq, Repr

/-- An option by its long name. -/
def Flag.ofLong : String → Option Flag
  | "config-file" => some .configFile
  | "target-command" => some .targetCommand
  | "max-cycles" => some .maxCycles
  | "assembly" => some .assembly
  | "verbose" => some .verbose
  | "help" => some .help
  | "version" => some .version
  | _ => none

/-- An option by its letter. -/
def Flag.ofShort : Char → Option Flag
  | 'c' => some .configFile
  | 'm' => some .maxCycles
  | 'a' => some .assembly
  | 'v' => some .verbose
  | 'h' => some .help
  | 'V' => some .version
  | _ => none

/-- Whether an option takes a value. -/
def Flag.takesValue : Flag → Bool
  | .configFile | .targetCommand | .maxCycles | .assembly => true
  | _ => false

/-- A count: decimal digits after an optional `+`, below `2^64`. -/
def count? (s : String) : Option Nat :=
  let ds := match s.toList with
    | '+' :: ds => ds
    | ds => ds
  if ds.isEmpty || !ds.all Char.isDigit then none
  else
    let v := ds.foldl (fun a c => a * 10 + (c.toNat - 48)) 0
    if v < 18446744073709551616 then some v else none

/-- Whether an argument looks like an option rather than a value. -/
def looksLikeOption (s : String) : Bool := s.startsWith "-" && s != "-"

/-- Options read so far, with the ones already given. -/
structure Reading where
  /-- The options. -/
  opts : Options := {}
  /-- The options given. -/
  seen : List Flag := []

/-- The reading with an option given a value (ignored for flags); `none` when the option was
given before or the value is malformed. -/
def Reading.give (r : Reading) (f : Flag) (v : String) : Option Reading :=
  if r.seen.contains f then none else
  let r := { r with seen := f :: r.seen }
  let o := r.opts
  match f with
  | .configFile => if v.isEmpty then none else some { r with opts := { o with configFile := some v } }
  | .targetCommand => some { r with opts := { o with targetCommand := some v } }
  | .maxCycles => (count? v).map fun n => { r with opts := { o with maxCycles := some n } }
  | .assembly => some { r with opts := { o with assembly := some v } }
  | .verbose => some { r with opts := { o with verbose := true } }
  | .help | .version => some r

/-- The reading after an option whose value, if it takes one, is `attached` or else the next
argument; whether the next argument was taken, or the request the reading stops at. -/
def Reading.option (r : Reading) (f : Flag) (attached next : Option String) :
    Except Request (Reading × Bool) :=
  match f with
  | .help => if attached.isSome then .error .usageError else .error .help
  | .version => if attached.isSome then .error .usageError else .error .version
  | f =>
    if f.takesValue then
      match attached, next with
      | some v, _ => (r.give f v).elim (.error .usageError) (fun r => .ok (r, false))
      | none, some v =>
        if looksLikeOption v then .error .usageError
        else (r.give f v).elim (.error .usageError) (fun r => .ok (r, true))
      | none, none => .error .usageError
    else if attached.isSome then .error .usageError
    else (r.give f "").elim (.error .usageError) (fun r => .ok (r, false))

/-- The reading after a bunch of short options. -/
def Reading.shorts (r : Reading) (next : Option String) : List Char → Except Request (Reading × Bool)
  | [] => .ok (r, false)
  | c :: cs =>
    match Flag.ofShort c with
    | none => .error .usageError
    | some f =>
      if f.takesValue then
        let attached := match cs with
          | [] => none
          | '=' :: v => some (String.ofList v)
          | v => some (String.ofList v)
        r.option f attached next
      else
        match r.option f none next with
        | .ok (r, _) => r.shorts next cs
        | .error q => .error q

/-- A long option's name and the value after `=`, if any. -/
def splitLong (cs : List Char) : String × Option String :=
  match cs.span (· != '=') with
  | (name, []) => (String.ofList name, none)
  | (name, _ :: v) => (String.ofList name, some (String.ofList v))

/-- What the arguments ask for. -/
def Reading.request (r : Reading) : List String → Request
  | [] => .run r.opts
  | a :: rest =>
    let step : Except Request (Reading × Bool) := match a.toList with
      | ['-', '-'] => if rest.isEmpty then .ok (r, false) else .error .usageError
      | '-' :: '-' :: cs =>
        let (name, v) := splitLong cs
        match Flag.ofLong name with
        | some f => r.option f v rest.head?
        | none => .error .usageError
      | '-' :: c :: cs => r.shorts rest.head? (c :: cs)
      | _ => .error .usageError
    match step with
    | .error q => q
    | .ok (r, false) => r.request rest
    | .ok (r, true) => r.request rest.tail
termination_by args => args.length
decreasing_by all_goals (simp only [List.length_cons, List.length_tail]; omega)

/-- What a command line asks for. -/
def parse (args : List String) : Request := Reading.request {} args

/-- The help text. Every description stands on the line below its option, indented ten
columns (an option without one gets the indentation alone): the longest description would not
fit beside the options in a hundred columns, and then none is put beside them. -/
def helpText : String :=
  "Usage: dugen_cli [OPTIONS]\n\n" ++
  "Options:\n" ++
  "  -c, --config-file <CONFIG_FILE>\n          \n" ++
  "      --target-command <TARGET_COMMAND>\n          Replaces the program of the command engine\n" ++
  "  -m, --max-cycles <MAX_CYCLES>\n          \n" ++
  "  -a, --assembly <ASSEMBLY>\n          Assembly identifier; `DUGEN_ASSEMBLY` still takes precedence\n" ++
  "  -v, --verbose\n          \n" ++
  "  -h, --help\n          Print help\n" ++
  "  -V, --version\n          Print version\n"

/-- The version text. -/
def versionText : String := "dugen_cli 0.1.0\n"

end DefUseCoverage.Cli
