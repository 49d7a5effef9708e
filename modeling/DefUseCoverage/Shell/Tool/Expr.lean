import DefUseCoverage.Shell.Tool.Basic
import DefUseCoverage.Shell.RegexRead
/-!
# Expression evaluation

`expr` evaluates an expression given as separate arguments and writes its value. Values are
texts; one that is an optional `-` and digits is also an integer, of any size. From the
loosest:

* `A | B`: `A` unless it is null (empty or zero), else `B` unless null, else 0;
* `A & B`: `A` unless either is null, else 0;
* `A < B`, `<=`, `=` (also `==`), `!=`, `>=`, `>`: 1 or 0, comparing integers as numbers and
  other texts by their bytes;
* `A + B`, `A - B`, then `A * B`, `A / B`, `A % B`: integers, division truncating;
* `A : R`, `match A R`: the length of the match of the basic regular expression `R` at the start
  of `A`, or the text of its first group when it has one;
* `length A`, `substr A P N`, `index A CHARS`, `+ T` (the text `T` itself), and parentheses.

An operand skipped by `|` or `&` is not evaluated. The status is 0 for a value that is not
null, 1 for a null one, 2 for a malformed expression (reported as a syntax error, a
non-integer argument or a division by zero).
-/

namespace DefUseCoverage.Shell

namespace Tool

/-- A value of `expr`. -/
inductive ExprValue where
  /-- An integer. -/
  | int (v : Int)
  /-- A text. -/
  | text (s : String)
deriving DecidableEq, Repr

/-- Why an expression fails. -/
inductive ExprError where
  /-- A syntax error, with its message. -/
  | malformed (msg : String)
  /-- An operand of arithmetic that is not an integer. -/
  | nonInteger
  /-- A division by zero. -/
  | divisionByZero
  /-- A malformed regular expression. -/
  | badRegex (e : RegexError)

/-- Whether a text is an integer: an optional `-` and at least one digit. -/
def looksIntegral (s : String) : Bool :=
  let ds := match s.toList with
    | '-' :: r => r
    | r => r
  !ds.isEmpty && ds.all Char.isDigit

/-- The integer of a text that is one. -/
def integralValue (s : String) : Int :=
  let (neg, ds) := match s.toList with
    | '-' :: r => (true, r)
    | r => (false, r)
  let v : Nat := ds.foldl (fun a c => a * 10 + (c.toNat - 48)) 0
  if neg then -(v : Int) else v

namespace ExprValue

/-- The text of a value. -/
def str : ExprValue → String
  | .int v => toString v
  | .text s => s

/-- The integer of a value, if it is one. -/
def toInt? : ExprValue → Option Int
  | .int v => some v
  | .text s => if looksIntegral s then some (integralValue s) else none

/-- Whether a value is null: zero, or a text that is empty or only zeros after an optional
`-`. -/
def isNull : ExprValue → Bool
  | .int v => v == 0
  | .text s =>
    let ds := match s.toList with
      | '-' :: r => r
      | r => r
    s.isEmpty || (!ds.isEmpty && ds.all (· == '0'))

end ExprValue

/-- The result of a part: its value and the arguments after it. -/
abbrev ExprStep := Except ExprError (ExprValue × List String)

/-- The message for a missing operand after an argument. -/
def missingAfter (prev : String) : ExprError := .malformed ("missing argument after " ++ quoteArg prev)

/-- The length of a text in characters, as `expr` counts in the UTF-8 locale: a byte that
begins no character counts as one. -/
def charLength (s : String) : Nat := s.length

/-- The match of `R` at the start of `A` for `A : R`. -/
def exprMatch (a r : String) : Except ExprError ExprValue :=
  match Regex.parse RegexSyntax.exprBasic r with
  | .error e => .error (.badRegex e)
  | .ok re =>
    let t : Subject := { chars := a.toList.toArray }
    let hasGroup := (r.splitOn "\\(").length > 1
    match re.longestAt t 0 with
    | some (e, gs) =>
      if hasGroup then
        match groupSpan gs 1 with
        | some (s, f) => .ok (.text (String.ofList (t.chars.extract s f).toList))
        | none => .ok (.text "")
      else .ok (.int e)
    | none => .ok (if hasGroup then .text "" else .int 0)

/-- The position (from one) of the first character of `a` that is in `chars`, or 0. -/
def indexOf (a chars : String) : Nat :=
  match a.toList.findIdx? (fun c => chars.toList.contains c) with
  | some i => i + 1
  | none => 0

/-- `substr A P N`: the `N` characters of `A` from position `P` (from one). -/
def substrOf (a : String) (p n : Option Int) : String :=
  match p, n with
  | some p, some n =>
    if p ≤ 0 || n ≤ 0 || p > a.length then ""
    else String.ofList ((a.toList.drop (p.toNat - 1)).take n.toNat)
  | _, _ => ""

mutual

/-- `A | B`. -/
def exprOr (ev : Bool) : Nat → List String → ExprStep
  | 0, _ => .error (.malformed "expression too deep")
  | n + 1, args => do
    let (l, rest) ← exprAnd ev n args
    exprOrTail ev n l rest

/-- The rest of a chain of `|`. -/
def exprOrTail (ev : Bool) : Nat → ExprValue → List String → ExprStep
  | 0, _, _ => .error (.malformed "expression too deep")
  | n + 1, l, args =>
    match args with
    | "|" :: more => do
      if more.isEmpty then throw (missingAfter "|")
      let (r, rest) ← exprAnd (ev && l.isNull) n more
      let v := if l.isNull then (if r.isNull then .int 0 else r) else l
      exprOrTail ev n v rest
    | _ => pure (l, args)

/-- `A & B`. -/
def exprAnd (ev : Bool) : Nat → List String → ExprStep
  | 0, _ => .error (.malformed "expression too deep")
  | n + 1, args => do
    let (l, rest) ← exprCompare ev n args
    exprAndTail ev n l rest

/-- The rest of a chain of `&`. -/
def exprAndTail (ev : Bool) : Nat → ExprValue → List String → ExprStep
  | 0, _, _ => .error (.malformed "expression too deep")
  | n + 1, l, args =>
    match args with
    | "&" :: more => do
      if more.isEmpty then throw (missingAfter "&")
      let (r, rest) ← exprCompare (ev && !l.isNull) n more
      let v := if l.isNull || r.isNull then .int 0 else l
      exprAndTail ev n v rest
    | _ => pure (l, args)

/-- Comparisons. -/
def exprCompare (ev : Bool) : Nat → List String → ExprStep
  | 0, _ => .error (.malformed "expression too deep")
  | n + 1, args => do
    let (l, rest) ← exprSum ev n args
    exprCompareTail ev n l rest

/-- The rest of a chain of comparisons. -/
def exprCompareTail (ev : Bool) : Nat → ExprValue → List String → ExprStep
  | 0, _, _ => .error (.malformed "expression too deep")
  | n + 1, l, args =>
    match args with
    | op :: more =>
      if ["<", "<=", "=", "==", "!=", ">=", ">"].contains op then do
        if more.isEmpty then throw (missingAfter op)
        let (r, rest) ← exprSum ev n more
        let cmp : Ordering :=
          match l.toInt?, r.toInt? with
          | some a, some b => compare a b
          | _, _ => compare l.str r.str
        let holds : Bool := match op with
          | "<" => cmp == .lt
          | "<=" => cmp != .gt
          | "=" | "==" => cmp == .eq
          | "!=" => cmp != .eq
          | ">=" => cmp != .lt
          | _ => cmp == .gt
        exprCompareTail ev n (.int (if holds then 1 else 0)) rest
      else pure (l, args)
    | [] => pure (l, [])

/-- Sums and differences. -/
def exprSum (ev : Bool) : Nat → List String → ExprStep
  | 0, _ => .error (.malformed "expression too deep")
  | n + 1, args => do
    let (l, rest) ← exprProduct ev n args
    exprSumTail ev n l rest

/-- The rest of a chain of `+` and `-`. -/
def exprSumTail (ev : Bool) : Nat → ExprValue → List String → ExprStep
  | 0, _, _ => .error (.malformed "expression too deep")
  | n + 1, l, args =>
    match args with
    | op :: more =>
      if op == "+" || op == "-" then do
        if more.isEmpty then throw (missingAfter op)
        let (r, rest) ← exprProduct ev n more
        if !ev then exprSumTail ev n l rest
        else
          match l.toInt?, r.toInt? with
          | some a, some b => exprSumTail ev n (.int (if op == "+" then a + b else a - b)) rest
          | _, _ => throw .nonInteger
      else pure (l, args)
    | [] => pure (l, [])

/-- Products, quotients and remainders. -/
def exprProduct (ev : Bool) : Nat → List String → ExprStep
  | 0, _ => .error (.malformed "expression too deep")
  | n + 1, args => do
    let (l, rest) ← exprColon ev n args
    exprProductTail ev n l rest

/-- The rest of a chain of `*`, `/` and `%`. -/
def exprProductTail (ev : Bool) : Nat → ExprValue → List String → ExprStep
  | 0, _, _ => .error (.malformed "expression too deep")
  | n + 1, l, args =>
    match args with
    | op :: more =>
      if op == "*" || op == "/" || op == "%" then do
        if more.isEmpty then throw (missingAfter op)
        let (r, rest) ← exprColon ev n more
        if !ev then exprProductTail ev n l rest
        else
          match l.toInt?, r.toInt? with
          | some a, some b =>
            if op != "*" && b == 0 then throw .divisionByZero
            else
              let v := if op == "*" then a * b else if op == "/" then a.tdiv b else a.tmod b
              exprProductTail ev n (.int v) rest
          | _, _ => throw .nonInteger
      else pure (l, args)
    | [] => pure (l, [])

/-- Matches with `:`. -/
def exprColon (ev : Bool) : Nat → List String → ExprStep
  | 0, _ => .error (.malformed "expression too deep")
  | n + 1, args => do
    let (l, rest) ← exprUnary ev n args
    exprColonTail ev n l rest

/-- The rest of a chain of `:`. -/
def exprColonTail (ev : Bool) : Nat → ExprValue → List String → ExprStep
  | 0, _, _ => .error (.malformed "expression too deep")
  | n + 1, l, args =>
    match args with
    | ":" :: more => do
      if more.isEmpty then throw (missingAfter ":")
      let (r, rest) ← exprUnary ev n more
      let v ← if ev then exprMatch l.str r.str else pure l
      exprColonTail ev n v rest
    | _ => pure (l, args)

/-- The keyword forms and primaries. -/
def exprUnary (ev : Bool) : Nat → List String → ExprStep
  | 0, _ => .error (.malformed "expression too deep")
  | n + 1, args =>
    match args with
    | "+" :: t :: rest => pure (.text t, rest)
    | ["+"] => .error (missingAfter "+")
    | "length" :: more => do
      if more.isEmpty then throw (missingAfter "length")
      let (a, rest) ← exprUnary ev n more
      pure (.int (charLength a.str), rest)
    | "match" :: more => do
      if more.isEmpty then throw (missingAfter "match")
      let (a, rest) ← exprUnary ev n more
      if rest.isEmpty then throw (missingAfter (more.getLast?.getD "match"))
      let (r, rest) ← exprUnary ev n rest
      let v ← if ev then exprMatch a.str r.str else pure a
      pure (v, rest)
    | "index" :: more => do
      if more.isEmpty then throw (missingAfter "index")
      let (a, rest) ← exprUnary ev n more
      if rest.isEmpty then throw (missingAfter (args.take (args.length - rest.length) |>.getLast?.getD "index"))
      let (c, rest) ← exprUnary ev n rest
      pure (.int (indexOf a.str c.str), rest)
    | "substr" :: more => do
      if more.isEmpty then throw (missingAfter "substr")
      let (a, rest) ← exprUnary ev n more
      if rest.isEmpty then throw (missingAfter (args.take (args.length - rest.length) |>.getLast?.getD "substr"))
      let (p, rest) ← exprUnary ev n rest
      if rest.isEmpty then throw (missingAfter (args.take (args.length - rest.length) |>.getLast?.getD "substr"))
      let (k, rest) ← exprUnary ev n rest
      pure (.text (substrOf a.str p.toInt? k.toInt?), rest)
    | _ => exprPrimary ev n args

/-- A parenthesized expression or a single argument. -/
def exprPrimary (ev : Bool) : Nat → List String → ExprStep
  | 0, _ => .error (.malformed "expression too deep")
  | n + 1, args =>
    match args with
    | "(" :: more => do
      if more.isEmpty then throw (missingAfter "(")
      let (v, rest) ← exprOr ev n more
      match rest with
      | ")" :: after => pure (v, after)
      | t :: _ => throw (.malformed ("expecting \x27)\x27 instead of " ++ quoteArg t))
      | [] =>
        let last := (args.take (args.length - rest.length)).getLast?.getD "("
        throw (.malformed ("expecting \x27)\x27 after " ++ quoteArg last))
    | ")" :: _ => .error (.malformed ("unexpected " ++ quote ")"))
    | t :: rest => pure (.text t, rest)
    | [] => .error (.malformed "missing argument")

end

/-- `expr`: the value of the expression its arguments spell, and a status saying whether it is
null. -/
def expr (cmd : String) (args : List String) (ws : Workspace) : ToolRun :=
  let args := match args with
    | "--" :: rest => rest
    | rest => rest
  let fail (msg : String) : ToolRun := { ws := ws, err := bytes (cmd ++ ": " ++ msg ++ "\n"), status := 2 }
  if args.isEmpty then
    { ws := ws, err := bytes (cmd ++ ": missing operand\nTry " ++ quote (cmd ++ " --help") ++
        " for more information.\n"), status := 2 }
  else
    match exprOr true (4 * args.length + 16) args with
    | .error (.malformed msg) => fail ("syntax error: " ++ msg)
    | .error .nonInteger => fail "non-integer argument"
    | .error .divisionByZero => fail "division by zero"
    | .error (.badRegex e) => fail e.message
    | .ok (v, rest) =>
      match rest with
      | t :: _ => fail ("syntax error: unexpected argument " ++ quoteArg t)
      | [] => { ws := ws, out := bytes (v.str ++ "\n"), status := if v.isNull then 1 else 0 }

end Tool

end DefUseCoverage.Shell
