import DefUseCoverage.Shell.Tool.Basic
import DefUseCoverage.Shell.Printf
/-!
# Number sequences

`seq [-w] [-s SEP] [-f FORMAT] [FIRST [INCREMENT]] LAST` writes the numbers `FIRST + i ×
INCREMENT` (both 1 by default) that do not pass `LAST`, separated by `SEP` (a newline by
default) and ended by a newline; nothing at all when there is none. Numbers are read as
floating-point numbers and kept exact.

Each operand's text fixes its places (the digits after its point, less a positive exponent,
plus a negative one) and its width. Numbers are written with the places of the first number or
the increment, whichever shows more, and with `-w` padded with zeros to the widest of the first
and last; an operand in hexadecimal leaves the layout general. A format given with `-f` holds
one floating-point conversion, and `%%` for a percent sign.

An argument like `-1` or `-.5` is a number, not an option. A malformed operand, a zero
increment or a malformed format is reported, with status 1.
-/

namespace DefUseCoverage.Shell

namespace Tool

/-- An operand of `seq`: its value, and the places and width its text shows. -/
structure SeqOperand where
  /-- Whether the value carries a minus sign (a zero may: `-0`). -/
  negative : Bool
  /-- The magnitude's numerator. -/
  num : Nat
  /-- The magnitude's denominator, positive. -/
  den : Nat
  /-- Whether the value is infinite. -/
  infinite : Bool := false
  /-- The places the text shows; `none` when it shows no fixed count. -/
  places : Option Nat
  /-- The width of the text as written. -/
  width : Int

/-- The value of an operand as a fraction with a signed numerator. -/
def SeqOperand.signedNum (o : SeqOperand) : Int := if o.negative then -(o.num : Int) else o.num

/-- The places and width an operand's text shows, from the text after blanks and `+`. -/
def shape (text : List Char) (finite : Bool) : Option Nat × Int :=
  let hasPoint := text.contains '.'
  let base : Option Nat := if !hasPoint && !text.contains 'p' then some 0 else none
  if text.any (fun c => c == 'x' || c == 'X') || !finite then (base, 0)
  else
    let afterPoint := (text.dropWhile (· != '.')).drop 1
    let fracLen := (afterPoint.takeWhile (fun c => c != 'e' && c != 'E')).length
    let beforePoint := text.takeWhile (· != '.')
    let places : Option Nat := if hasPoint then some fracLen else base
    let width : Int := text.length +
      (if !hasPoint then 0 else if fracLen == 0 then -1
       else if (beforePoint.getLast?.map Char.isDigit) == some true then 0 else 1)
    let expPart := text.dropWhile (fun c => c != 'e' && c != 'E')
    match expPart with
    | _ :: ds =>
      let (neg, digits) := match ds with
        | '-' :: r => (true, r)
        | '+' :: r => (false, r)
        | r => (false, r)
      let v : Nat := (digits.takeWhile Char.isDigit).foldl (fun a c => a * 10 + (c.toNat - 48)) 0
      let places := places.map fun p => if neg then p + v else p - min p v
      (places, width - expPart.length + (if neg then 0 else (v : Int)))
    | [] => (places, width)

/-- Why an operand of `seq` is refused. -/
inductive SeqFault where
  /-- It is not a number. -/
  | malformed
  /-- It is not a number at all. -/
  | notANumber
deriving DecidableEq, Repr

/-- Reads an operand of `seq`: the whole text must be a number. -/
def seqOperand (arg : String) : Except SeqFault SeqOperand :=
  match Decimal.Written.read? arg.toList with
  | none => .error .malformed
  | some (w, used) =>
    if used != arg.length then .error .malformed
    else
      let text := arg.toList.dropWhile (fun c => Decimal.isBlank c || c == '+')
      match w with
      | .notANumber _ => .error .notANumber
      | .infinity neg =>
        let (places, width) := shape text false
        .ok { negative := neg, num := 0, den := 1, infinite := true, places := places, width := width }
      | .decimal neg d e =>
        if (Double.digitCount d : Int) + e > 4933 && d != 0 then .error .malformed
        else
          let (num, den) := if 0 ≤ e then (d * Double.tenPow e.toNat, 1) else (d, Double.tenPow (-e).toNat)
          let (places, width) := shape text true
          .ok { negative := neg, num := num, den := den, places := places, width := width }
      | .binary neg d e =>
        if (Nat.log2 d : Int) + e > 16384 && d != 0 then .error .malformed
        else
          let (num, den) := Double.scaled d 1 e
          let (places, width) := shape text true
          .ok { negative := neg, num := num, den := den, places := places, width := width }

/-- The options of `seq`. -/
structure SeqOptions where
  /-- `-w`: pad to equal widths. -/
  equalWidth : Bool := false
  /-- `-s`: the separator. -/
  separator : String := "\n"
  /-- `-f`: the format. -/
  format : Option String := none

/-- Why the options of `seq` are refused. -/
inductive SeqUsage where
  /-- An unknown option letter. -/
  | unknown (c : Char)
  /-- An unknown long option. -/
  | unknownLong (s : String)
  /-- An option without its value. -/
  | missing (c : Char)

/-- The options in a bunch of letters after `-`: the options, and the arguments left after the
value the last letter may take. -/
def seqLetters : List Char → List String → SeqOptions → Except SeqUsage (SeqOptions × List String)
  | [], rest, o => .ok (o, rest)
  | 'w' :: cs, rest, o => seqLetters cs rest { o with equalWidth := true }
  | c :: cs, rest, o =>
    if c == 's' || c == 'f' then
      let set (v : String) : SeqOptions :=
        if c == 's' then { o with separator := v } else { o with format := some v }
      if !cs.isEmpty then .ok (set (String.ofList cs), rest)
      else match rest with
        | v :: r => .ok (set v, r)
        | [] => .error (.missing c)
    else .error (.unknown c)

/-- A long option of `seq`, by any prefix of its name, with its value after `=` or as the next
argument: the options and the arguments left. -/
def seqLong (a : String) (rest : List String) (o : SeqOptions) : Except SeqUsage (SeqOptions × List String) :=
  let body := String.ofList (a.toList.drop 2)
  let (name, value) := match body.splitOn "=" with
    | n :: v :: vs => (n, some ("=".intercalate (v :: vs)))
    | _ => (body, none)
  let names := ["equal-width", "separator", "format", "help", "version"]
  match names.filter (fun full => !name.isEmpty && full.startsWith name) with
  | ["equal-width"] =>
    if value.isNone then .ok ({ o with equalWidth := true }, rest) else .error (.unknownLong a)
  | [full] =>
    if full == "separator" || full == "format" then
      let (v, rest) := match value, rest with
        | some v, r => (some v, r)
        | none, v :: r => (some v, r)
        | none, [] => (none, [])
      match v with
      | none => .error (.missing (if full == "separator" then 's' else 'f'))
      | some v =>
        if full == "separator" then .ok ({ o with separator := v }, rest)
        else .ok ({ o with format := some v }, rest)
    else .error (.unknownLong a)
  | _ => .error (.unknownLong a)

/-- Reads the options of `seq`, up to the first operand; an argument like a negative number is
an operand. The fuel bounds the arguments. -/
def seqOptions : Nat → List String → SeqOptions → Except SeqUsage (SeqOptions × List String)
  | 0, args, o => .ok (o, args)
  | _, [], o => .ok (o, [])
  | k + 1, a :: rest, o =>
    match a.toList with
    | '-' :: c :: cs =>
      if c == '.' || c.isDigit then .ok (o, a :: rest)
      else if c == '-' && cs.isEmpty then .ok (o, rest)
      else
        let step := if c == '-' then seqLong a rest o else seqLetters (c :: cs) rest o
        match step with
        | .ok (o, rest) => seqOptions k rest o
        | .error e => .error e
    | _ => .ok (o, a :: rest)

/-- A format of `seq`: the text before its conversion, the conversion, and the text after. -/
structure SeqFormat where
  /-- The text before the conversion, `%%` read. -/
  before : String
  /-- The conversion's flags, width and precision. -/
  spec : Format.Spec
  /-- The conversion letter. -/
  conv : Char
  /-- The text after the conversion, `%%` read. -/
  after : String

/-- Text of a format outside its conversion, up to a `%` that is not doubled: the text with `%%`
read, and what follows. -/
def plainPart : List Char → String → String × List Char
  | '%' :: '%' :: rest, acc => plainPart rest (acc.push '%')
  | '%' :: rest, acc => (acc, '%' :: rest)
  | c :: rest, acc => plainPart rest (acc.push c)
  | [], acc => (acc, [])

/-- Why a format of `seq` is refused. -/
inductive FormatFault where
  /-- It has no conversion. -/
  | none
  /-- It ends right after a `%`. -/
  | endsInPercent
  /-- Its conversion is not a floating-point one. -/
  | unknown (c : Char)
  /-- It has more than one conversion. -/
  | tooMany

/-- Reads a format of `seq`. -/
def SeqFormat.read (fmt : String) : Except FormatFault SeqFormat :=
  match plainPart fmt.toList "" with
  | (_, []) => .error .none
  | (before, _ :: rest) =>
    let (rest, spec) := Format.flags (rest.filter (· != '\x27')) {}
    let (width, rest) := Format.leadingNumber rest
    let (precision, rest) := match rest with
      | '.' :: r => let (p, r) := Format.leadingNumber r; (some p, r)
      | r => (none, r)
    let rest := match rest with
      | 'L' :: r => r
      | r => r
    match rest with
    | [] => .error .endsInPercent
    | conv :: tail =>
      if !"efgaEFGA".toList.contains conv then .error (.unknown conv)
      else
        match plainPart tail "" with
        | (after, []) => .ok { before, spec := { spec with width, precision }, conv, after }
        | _ => .error .tooMany

/-- The default layout of `seq`: fixed with the places of the first number or the increment,
padded with zeros to the widest of the first and last with `-w`; general when an operand shows
no fixed places. -/
def defaultFormat (first step last : SeqOperand) (equalWidth : Bool) : SeqFormat :=
  match first.places, step.places, last.places with
  | some fp, some sp, some lp =>
    let prec := max fp sp
    if equalWidth then
      let firstWidth : Int := first.width + (prec - fp : Nat) + (if fp == 0 && prec > 0 then 1 else 0)
      let lastWidth : Int := last.width + ((prec : Int) - lp) +
        (if lp > 0 && prec == 0 then -1 else 0) + (if lp == 0 && prec > 0 then 1 else 0)
      { before := "", spec := { zero := true, width := (max firstWidth lastWidth).toNat, precision := some prec },
        conv := 'f', after := "" }
    else { before := "", spec := { precision := some prec }, conv := 'f', after := "" }
  | _, _, _ => { before := "", spec := {}, conv := 'g', after := "" }

/-- The numbers `first + i × step` for `i` from zero, as numerators over a common denominator,
that do not pass `last`. -/
def seqValues (first step last : Int) : List Int :=
  let count : Int :=
    if step > 0 then (if last < first then 0 else (last - first) / step + 1)
    else (if first < last then 0 else (first - last) / (-step) + 1)
  (List.range count.toNat).map fun (i : Nat) => first + (i : Int) * step

/-- `seq`: the numbers from the first (1) by the increment (1) to the last. -/
def seq (cmd : String) (args : List String) (ws : Workspace) : ToolRun :=
  let hint := "Try " ++ quote (cmd ++ " --help") ++ " for more information.\n"
  let usage (msg : String) : ToolRun := { ws := ws, err := bytes (cmd ++ ": " ++ msg ++ "\n" ++ hint), status := 1 }
  let die (msg : String) : ToolRun := { ws := ws, err := bytes (cmd ++ ": " ++ msg ++ "\n"), status := 1 }
  match seqOptions (args.length + 1) args {} with
  | .error (.unknown c) => usage ("invalid option -- " ++ quote c.toString)
  | .error (.unknownLong a) => usage ("unrecognized option " ++ quote a)
  | .error (.missing c) => usage ("option requires an argument -- " ++ quote c.toString)
  | .ok (o, operands) =>
    if operands.isEmpty then usage "missing operand"
    else if operands.length > 3 then usage ("extra operand " ++ quoteArg (operands.getD 3 ""))
    else
      let format : Except String (Option SeqFormat) := match o.format with
        | none => .ok none
        | some f =>
          match SeqFormat.read f with
          | .ok sf => .ok (some sf)
          | .error .none => .error ("format " ++ quoteArg f ++ " has no % directive")
          | .error .endsInPercent => .error ("format " ++ quoteArg f ++ " ends in %")
          | .error (.unknown c) => .error ("format " ++ quoteArg f ++ " has unknown %" ++ c.toString ++ " directive")
          | .error .tooMany => .error ("format " ++ quoteArg f ++ " has too many % directives")
      match format with
      | .error msg => die msg
      | .ok format =>
        if format.isSome && o.equalWidth then
          usage "format string may not be specified when printing equal width strings"
        else
          let one : SeqOperand := { negative := false, num := 1, den := 1, places := some 0, width := 1 }
          let read (a : String) : Except ToolRun SeqOperand :=
            match seqOperand a with
            | .ok v => .ok v
            | .error .malformed => .error (usage ("invalid floating point argument: " ++ quoteArg a))
            | .error .notANumber => .error (usage ("invalid " ++ quoteArg "not-a-number" ++ " argument: " ++ quoteArg a))
          let parsed : Except ToolRun (SeqOperand × SeqOperand × SeqOperand) := match operands with
            | [l] => do let l ← read l; pure (one, one, l)
            | [f, l] => do let f ← read f; let l ← read l; pure (f, one, l)
            | f :: st :: l :: _ => do
              let f ← read f
              let s ← read st
              if s.num == 0 && !s.infinite then throw (usage ("invalid Zero increment value: " ++ quoteArg st))
              let l ← read l
              pure (f, s, l)
            | [] => .error (usage "missing operand")
          match parsed with
          | .error r => r
          | .ok (first, step, last) =>
            if first.infinite || step.infinite || last.infinite then { ws := ws, forever := !(first.infinite || step.infinite) }
            else
              let fmt := format.getD (defaultFormat first step last o.equalWidth)
              let den := first.den * step.den * last.den
              let scale (v : SeqOperand) : Int := v.signedNum * (den / v.den : Nat)
              let values := seqValues (scale first) (scale step) (scale last)
              -- the first number is written as given, so a first `-0` keeps its sign
              let texts := values.zipIdx.map fun (v, i) =>
                let minus := v < 0 || (i == 0 && v == 0 && first.negative)
                bytes fmt.before ++ Format.exact fmt.spec fmt.conv minus v.natAbs den ++ bytes fmt.after
              if texts.isEmpty then { ws := ws }
              else { ws := ws, out := (List.intersperse (bytes o.separator) texts).flatten ++ [10] }

end Tool

end DefUseCoverage.Shell
