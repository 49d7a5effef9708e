/-!
# Arithmetic expansion

`$((...))` evaluates an integer expression after its parameters are expanded. Literals are
decimal, `0x` hexadecimal or octal with a leading `0`, and a literal ends at the first
character that is not a digit of its base (so `08` is the literal `0` followed by `8`). A name
stands for its variable's value, read as a number with optional blanks around it and an
optional sign (zero when unset or empty); any other value is an illegal number.

The operators, from the loosest: assignment (`=`, `+=`, `-=`, `*=`, `/=`, `%=`, `<<=`, `>>=`,
`&=`, `^=`, `|=`, to a name only, grouping to the right), `?:`, `||`, `&&`, `|`, `^`, `&`,
`==` `!=`, `<` `<=` `>` `>=`, `<<` `>>`, `+` `-`, `*` `/` `%`, and the unary `-` `+` `!` `~`
on a primary; parentheses group. There is no comma operator.

`&&`, `||` and `?:` evaluate the operand they do not need without effect: no variable is read
or assigned there, and a division by zero there is no error. Arithmetic is on 64-bit signed
integers and wraps; a division by zero is an error.
-/

namespace DefUseCoverage.Shell.Arith

/-- A token of an expression. -/
inductive Token where
  /-- A literal. -/
  | num (v : Int)
  /-- A variable's name. -/
  | name (s : String)
  /-- An operator or parenthesis. -/
  | op (s : String)
  /-- A character that starts no token; nothing after it is read. -/
  | bad
deriving DecidableEq, Repr

/-- Operators, longest first. -/
def operators : List String :=
  ["<<=", ">>=", "<<", ">>", "<=", ">=", "==", "!=", "&&", "||", "+=", "-=", "*=", "/=", "%=",
   "&=", "|=", "^=", "+", "-", "*", "/", "%", "<", ">", "&", "|", "^", "!", "~", "(", ")", "?",
   ":", "="]

/-- `2^63`, the least value past the 64-bit signed range. -/
def signedLimit : Int := 9223372036854775808

/-- `2^64`, the number of 64-bit words. -/
def wordCount : Int := 18446744073709551616

/-- The value of a digit in bases up to 16. -/
def digitValue (c : Char) : Option Nat :=
  if c.isDigit then some (c.toNat - 48)
  else if 'a' ≤ c && c ≤ 'f' then some (c.toNat - 87)
  else if 'A' ≤ c && c ≤ 'F' then some (c.toNat - 55)
  else none

/-- Whether a character is a digit of a base. -/
def isDigitIn (base : Nat) (c : Char) : Bool := (digitValue c).any (· < base)

/-- The base a numeral announces: `0x` (followed by a hex digit) is hexadecimal, a leading `0`
octal, anything else decimal; with the digits that follow the announcement. -/
def baseOf : List Char → Nat × List Char
  | '0' :: x :: h :: rest =>
    if (x == 'x' || x == 'X') && isDigitIn 16 h then (16, h :: rest) else (8, '0' :: x :: h :: rest)
  | '0' :: rest => (8, '0' :: rest)
  | cs => (10, cs)

/-- The leading digits of a numeral in its base: their value, and how many characters the
numeral takes (none when no digit starts it). -/
def numeral (cs : List Char) : Nat × Nat :=
  let (base, ds) := baseOf cs
  let run := ds.takeWhile (isDigitIn base)
  let v := run.foldl (fun a c => a * base + (digitValue c).getD 0) 0
  (v, if run.isEmpty then 0 else cs.length - ds.length + run.length)

/-- Whether a character is blank for number reading. -/
def isSpace (c : Char) : Bool :=
  c == ' ' || c == '\t' || c == '\n' || c == '\r' || c == '\x0b' || c == '\x0c'

/-- A variable's value as a number: blanks, an optional sign, a numeral in its base, and
blanks; an empty or blank value is zero. `none` for anything else, or a value outside 64 bits. -/
def readValue (s : String) : Option Int :=
  let cs := s.toList.dropWhile isSpace
  let (neg, body) := match cs with
    | '-' :: r => (true, r)
    | '+' :: r => (false, r)
    | r => (false, r)
  let (v, used) := numeral body
  if used == 0 then
    if cs.isEmpty then some 0 else none
  else if (body.drop used).all isSpace then
    let v : Int := if neg then -(v : Int) else v
    if v < -signedLimit || v ≥ signedLimit then none else some v
  else none

/-- The tokens of an expression, up to a character that starts none. The fuel bounds the
tokens. -/
def tokens : Nat → List Char → List Token
  | 0, _ => []
  | _, [] => []
  | k + 1, c :: cs =>
    if c == ' ' || c == '\t' || c == '\n' then tokens k cs
    else if c.isDigit then
      let (v, used) := numeral (c :: cs)
      .num (min v (signedLimit - 1)) :: tokens k ((c :: cs).drop (max used 1))
    else if c.isAlpha || c == '_' then
      let w := (c :: cs).takeWhile (fun d => d.isAlphanum || d == '_')
      .name (String.ofList w) :: tokens k ((c :: cs).drop w.length)
    else
      match operators.find? (fun o => (c :: cs).take o.length == o.toList) with
      | some o => .op o :: tokens k ((c :: cs).drop o.length)
      | none => [.bad]

/-- A value wrapped to 64-bit signed range. -/
def wrap (v : Int) : Int :=
  let m := v % wordCount
  if m ≥ signedLimit then m - wordCount else m

/-- Binding strength of binary operators other than `&&` and `||`. -/
def strength : String → Option Nat
  | "|" => some 3 | "^" => some 4 | "&" => some 5
  | "==" | "!=" => some 6 | "<" | "<=" | ">" | ">=" => some 7 | "<<" | ">>" => some 8
  | "+" | "-" => some 9 | "*" | "/" | "%" => some 10
  | _ => none

/-- The operator an assignment combines with, `""` for plain `=`. -/
def assignOp : String → Option String
  | "=" => some ""
  | "+=" => some "+" | "-=" => some "-" | "*=" => some "*" | "/=" => some "/"
  | "%=" => some "%" | "<<=" => some "<<" | ">>=" => some ">>" | "&=" => some "&"
  | "^=" => some "^" | "|=" => some "|"
  | _ => none

/-- Truth as 1 or 0. -/
def ofBool (b : Bool) : Int := if b then 1 else 0

/-- Why an expression has no value. -/
inductive Error where
  /-- The expression is malformed, or divides by zero; the text says how. -/
  | malformed (msg : String)
  /-- A variable's value is not a number. -/
  | illegalNumber (value : String)
deriving DecidableEq, Repr

/-- A bitwise operation on the 64-bit words of two values. -/
def bitwise (f : Nat → Nat → Nat) (a b : Int) : Int :=
  wrap (Int.ofNat (f (a % wordCount).toNat (b % wordCount).toNat))

/-- A binary operator applied. Shifts take their count modulo 64, and `>>` keeps the sign. -/
def apply (o : String) (a b : Int) : Except Error Int :=
  match o with
  | "+" => .ok (wrap (a + b)) | "-" => .ok (wrap (a - b)) | "*" => .ok (wrap (a * b))
  | "/" => if b == 0 then .error (.malformed "division by zero") else .ok (wrap (a.tdiv b))
  | "%" => if b == 0 then .error (.malformed "division by zero") else .ok (wrap (a.tmod b))
  | "<<" => .ok (wrap (a * Int.pow 2 (b % 64).toNat))
  | ">>" => .ok (a / Int.pow 2 (b % 64).toNat)
  | "<" => .ok (ofBool (a < b)) | "<=" => .ok (ofBool (a ≤ b))
  | ">" => .ok (ofBool (a > b)) | ">=" => .ok (ofBool (a ≥ b))
  | "==" => .ok (ofBool (a == b)) | "!=" => .ok (ofBool (a != b))
  | "&" => .ok (bitwise (· &&& ·) a b)
  | "|" => .ok (bitwise (· ||| ·) a b)
  | "^" => .ok (bitwise (· ^^^ ·) a b)
  | _ => .error (.malformed "expecting primary")

/-- The variables an expression sees: the shell's, under the assignments it made so far
(latest first). -/
structure Env where
  /-- The shell's variables. -/
  look : String → Option String
  /-- Assignments made, latest first. -/
  assigned : List (String × Int) := []

/-- A variable's value. -/
def Env.value (env : Env) (x : String) : Except Error Int :=
  match env.assigned.find? (·.1 == x) with
  | some (_, v) => .ok v
  | none =>
    match env.look x with
    | none => .ok 0
    | some s =>
      match readValue s with
      | some v => .ok v
      | none => .error (.illegalNumber s)

/-- What a part of an expression gives: its value, the tokens after it and the variables. -/
abbrev Step := Except Error (Int × List Token × Env)

/-- The error for running out of depth. -/
def tooDeep : Step := .error (.malformed "expression too deep")

mutual

/-- An assignment to a name, or a conditional expression. With `skip`, nothing is read or
assigned and no operation fails. -/
def assignment (skip : Bool) : Nat → List Token → Env → Step
  | 0, _, _ => tooDeep
  | n + 1, ts, env =>
    match ts with
    | .name x :: .op o :: rest =>
      match assignOp o with
      | some base => do
        let (v, rest, env) ← assignment skip n rest env
        if skip then pure (v, rest, env)
        else
          let v ← if base.isEmpty then pure v else do apply base (← env.value x) v
          pure (v, rest, { env with assigned := (x, v) :: env.assigned })
      | none => cond skip n ts env
    | _ => cond skip n ts env

/-- A conditional expression; the branch not taken is skipped. -/
def cond (skip : Bool) : Nat → List Token → Env → Step
  | 0, _, _ => tooDeep
  | n + 1, ts, env => do
    let (a, rest, env) ← orElse skip n ts env
    match rest with
    | .op "?" :: more => do
      let (b, rest, env) ← assignment (skip || a == 0) n more env
      match rest with
      | .op ":" :: more => do
        let (c, rest, env) ← cond (skip || a != 0) n more env
        pure (if a != 0 then b else c, rest, env)
      | _ => .error (.malformed "expecting ':'")
    | _ => pure (a, rest, env)

/-- A chain of `||`; the right side is skipped after a true left side. -/
def orElse (skip : Bool) : Nat → List Token → Env → Step
  | 0, _, _ => tooDeep
  | n + 1, ts, env => do
    let (a, rest, env) ← andThen skip n ts env
    match rest with
    | .op "||" :: more => do
      let (b, rest, env) ← orElse (skip || a != 0) n more env
      pure (ofBool (a != 0 || b != 0), rest, env)
    | _ => pure (a, rest, env)

/-- A chain of `&&`; the right side is skipped after a false left side. -/
def andThen (skip : Bool) : Nat → List Token → Env → Step
  | 0, _, _ => tooDeep
  | n + 1, ts, env => do
    let (a, rest, env) ← binary skip n 0 ts env
    match rest with
    | .op "&&" :: more => do
      let (b, rest, env) ← andThen (skip || a == 0) n more env
      pure (ofBool (a != 0 && b != 0), rest, env)
    | _ => pure (a, rest, env)

/-- Binary operators at least as strong as `min`, grouping to the left. -/
def binary (skip : Bool) : Nat → Nat → List Token → Env → Step
  | 0, _, _, _ => tooDeep
  | n + 1, min, ts, env => do
    let (a, rest, env) ← primary skip n ts env
    binaryTail skip n min a rest env

/-- The rest of a chain of binary operators after the value `a`. -/
def binaryTail (skip : Bool) : Nat → Nat → Int → List Token → Env → Step
  | 0, _, _, _, _ => tooDeep
  | n + 1, min, a, ts, env =>
    match ts with
    | .op o :: more =>
      match strength o with
      | some s =>
        if s < min then pure (a, ts, env)
        else do
          let (b, rest, env) ← binary skip n (s + 1) more env
          let v ← if skip then pure b else apply o a b
          binaryTail skip n min v rest env
      | none => pure (a, ts, env)
    | _ => pure (a, ts, env)

/-- A primary: a parenthesized expression, a literal, a name, or a unary operator on a
primary. -/
def primary (skip : Bool) : Nat → List Token → Env → Step
  | 0, _, _ => tooDeep
  | n + 1, ts, env =>
    match ts with
    | .op "(" :: more => do
      let (v, r, env) ← assignment skip n more env
      match r with
      | .op ")" :: r => pure (v, r, env)
      | _ => .error (.malformed "expecting ')'")
    | .num v :: more => pure (v, more, env)
    | .name x :: more => if skip then pure (0, more, env) else do pure (← env.value x, more, env)
    | .op "+" :: more => primary skip n more env
    | .op "-" :: more => do let (v, r, env) ← primary skip n more env; pure (wrap (-v), r, env)
    | .op "!" :: more => do let (v, r, env) ← primary skip n more env; pure (ofBool (v == 0), r, env)
    | .op "~" :: more => do let (v, r, env) ← primary skip n more env; pure (wrap (-v - 1), r, env)
    | _ => .error (.malformed "expecting primary")

end

/-- Evaluates an expression's text over the shell's variables: its value and the assignments
it made, in order. An empty expression has no primary and is refused. -/
def eval (look : String → Option String) (text : String) : Except Error (Int × List (String × Int)) := do
  let ts := tokens (text.length + 1) text.toList
  let (v, rest, env) ← assignment false (8 * ts.length + 16) ts { look := look }
  match rest with
  | [] => pure (v, env.assigned.reverse)
  | _ => .error (.malformed "expecting EOF")

/-- The message for an error in an expression's text. -/
def Error.message (text : String) : Error → String
  | .malformed msg => "arithmetic expression: " ++ msg ++ ": \"" ++ text ++ "\""
  | .illegalNumber v => "Illegal number: " ++ v

end DefUseCoverage.Shell.Arith
