/-!
# Option scanning

`getopts SPEC NAME [ARG...]` reads one option letter per call from its arguments (the
positional parameters when none are given). `SPEC` lists the letters; a letter followed by `:`
takes a value, either the rest of its argument or the next argument. Letters may be bunched
(`-ab`), and the scan remembers where it stopped inside a bunch.

The scan ends at the first argument that is not an option (one not starting with `-`, or `-`
alone), after `--`, or when the arguments run out. An unknown letter gives `?`, and a missing
value `?` as well, each with a message; a `SPEC` starting with `:` silences both, giving the
letter in `OPTARG`, and `:` for a missing value.
-/

namespace DefUseCoverage.Shell.Getopts

/-- What one call of `getopts` finds. -/
structure Step where
  /-- The letter for `NAME`. -/
  letter : Char
  /-- The new value of `OPTARG`, or `none` to unset it. -/
  arg : Option String
  /-- A message for standard error. -/
  message : Option String := none
  /-- Whether the options are over. -/
  done : Bool := false
  /-- The argument to read next, counted from one (the new `OPTIND`). -/
  index : Nat
  /-- Where the scan stopped inside the argument before `index`, if inside it. -/
  offset : Option Nat

/-- Where a letter stands among the letters of a spec, each possibly followed by `:`; and
whether it takes a value. The fuel bounds the spec's characters. -/
def lookup : Nat → List Char → Char → Option Bool
  | 0, _, _ => none
  | _, [], _ => none
  | k + 1, d :: rest, c =>
    if d == c then some (rest.head? == some ':')
    else
      match rest with
      | ':' :: more => lookup k more c
      | more => lookup k more c

/-- One call of `getopts`: the spec, the arguments, the argument to read next (from one) and
where the last call stopped inside the argument before it. -/
def step (spec : List Char) (args : List String) (index : Nat) (offset : Option Nat) : Step :=
  let silent := spec.head? == some ':'
  let resume : List Char :=
    match offset with
    | some off =>
      if index ≤ 1 then []
      else
        match args[index - 2]? with
        | some w => if w.length < off then [] else w.toList.drop off
        | none => []
    | none => []
  -- the letters to read and the next argument (from zero), or the next argument at the end
  let found : Except Nat (List Char × Nat) :=
    if !resume.isEmpty then .ok (resume, index - 1)
    else
      match args[index - 1]? with
      | some w =>
        match w.toList with
        | ['-', '-'] => .error index
        | '-' :: c :: cs => .ok (c :: cs, index)
        | _ => .error (index - 1)
      | none => .error (index - 1)
  match found with
  | .ok (c :: rest, next) =>
    let word := args.getD (next - 1) ""
    let here : Option Nat := some (word.length - rest.length)
    match lookup (spec.length + 1) spec c with
    | none =>
      { letter := '?', arg := if silent then some c.toString else none,
        message := if silent then none else some ("Illegal option -" ++ c.toString),
        index := next + 1, offset := here }
    | some false => { letter := c, arg := some "", index := next + 1, offset := here }
    | some true =>
      if !rest.isEmpty then { letter := c, arg := some (String.ofList rest), index := next + 1, offset := none }
      else
        match args[next]? with
        | some v => { letter := c, arg := some v, index := next + 2, offset := none }
        | none =>
          if silent then { letter := ':', arg := some c.toString, index := next + 1, offset := none }
          else
            { letter := '?', arg := none, message := some ("No arg for -" ++ c.toString ++ " option"),
              index := next + 1, offset := none }
  | .ok ([], next) | .error next =>
    { letter := '?', arg := none, done := true, index := next + 1, offset := none }

end DefUseCoverage.Shell.Getopts
