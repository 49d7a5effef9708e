import DefUseCoverage.Shell.Quoting
/-!
# Conditions: `test` and `[`

A condition is read from its arguments (for `[`, the last one must be `]`). Two readers are
here: the shell's own command and the installed program, which differ in their corners.

**The shell's command.** Three arguments with a binary operator in the middle compare; three
or four arguments in parentheses, or after `!`, are read without them (`!` making the result
the negation). Otherwise an expression is read, `-o` binding looser than `-a`, `!` before a
primary, a primary being a parenthesised expression, a unary operator and its operand, two
operands around a binary operator, or a word, true when not empty. A unary operator is an
operand when it is the last word, or when a binary operator and another word follow it. Both
sides of `-a` and `-o` are evaluated. Words left over are an error naming the last word read.

**The program.** One argument is true when not empty; two are `! x` or a unary operator and its
operand; three are a binary comparison, `! x y`, `( x )`, or a `-a`/`-o` expression; four are
`! x op y` or `( x y )`; anything longer is an expression. Integers may be of any size, and
`-l STRING` stands for the length of the string.

Unary operators test strings (`-n`, `-z`) and files (`-e`, `-f`, `-d`, `-s`, `-r`, `-w`,
`-x`, `-c`, `-b`, `-p`, `-h`, `-L`, `-S`, `-t` and the ownership and mode tests); binary ones
compare strings (`=`, `!=`, `<`, `>`) and integers (`-eq`, `-ne`, `-lt`, `-le`, `-gt`, `-ge`).
A malformed condition or integer is an error, whose status is 2.
-/

namespace DefUseCoverage.Shell

/-- What a condition needs to know of a file. -/
inductive FileInfo where
  /-- A regular file of a size, executable or not. -/
  | regular (size : Nat) (executable : Bool)
  /-- A directory. -/
  | directory
  /-- A character device. -/
  | device
deriving DecidableEq, Repr

/-- What a condition can learn of the files: the kind of the file at a path, and whether two
paths lead to one file. -/
structure Files where
  /-- The kind of the file at a path, if there is one. -/
  kind : String → Option FileInfo
  /-- Whether two paths lead to one existing file. -/
  same : String → String → Bool

namespace Condition

/-- Unary operators. -/
def unaryOps : List String :=
  ["-n", "-z", "-e", "-f", "-d", "-s", "-r", "-w", "-x", "-c", "-b", "-p", "-h", "-L", "-S", "-t",
   "-g", "-u", "-k", "-O", "-G"]

/-- Binary operators. -/
def binaryOps : List String :=
  ["=", "!=", "<", ">", "-eq", "-ne", "-lt", "-le", "-gt", "-ge", "-nt", "-ot", "-ef"]

/-- A unary test of a file or string operand (`-t` aside: no descriptor is a terminal). -/
def unary (info : Files) (op arg : String) : Bool :=
  match op with
  | "-n" => !arg.isEmpty
  | "-z" => arg.isEmpty
  | "-e" => (info.kind arg).isSome
  | "-f" => match info.kind arg with | some (.regular _ _) => true | _ => false
  | "-d" => info.kind arg == some .directory
  | "-c" => info.kind arg == some .device
  | "-s" => match info.kind arg with
    | some (.regular n _) => n > 0
    | some .directory => true
    | some .device => false
    | none => false
  | "-r" | "-w" | "-O" | "-G" => (info.kind arg).isSome
  | "-x" => match info.kind arg with
    | some (.regular _ x) => x
    | some .directory => true
    | _ => false
  | _ => false

/-- Whether a character is white space to `strtol`. -/
def isSpace (c : Char) : Bool :=
  c == ' ' || c == '\t' || c == '\n' || c == '\r' || c == '\x0b' || c == '\x0c'

/-- An integer operand of the shell's command: white space, an optional sign, digits, and
white space, within the range of a 64-bit integer. -/
def integer (s : String) : Option Int :=
  let cs := s.toList.dropWhile isSpace
  let (neg, cs) := match cs with
    | '-' :: r => (true, r)
    | '+' :: r => (false, r)
    | r => (false, r)
  let (ds, rest) := cs.span Char.isDigit
  if ds.isEmpty || !rest.all isSpace then none
  else
    let v : Nat := ds.foldl (fun a c => a * 10 + (c.toNat - 48)) 0
    let i : Int := if neg then -(v : Int) else v
    if i < -9223372036854775808 || i > 9223372036854775807 then none else some i

/-- A binary test of the shell's command. -/
def binary (info : Files) (a op b : String) : Except String Bool :=
  match op with
  | "=" => .ok (a == b)
  | "!=" => .ok (a != b)
  | "<" => .ok (a < b)
  | ">" => .ok (b < a)
  | "-ef" => .ok (info.same a b)
  | "-nt" | "-ot" => .ok false
  | _ =>
    match integer a, integer b with
    | some x, some y =>
      .ok (match op with
        | "-eq" => x == y
        | "-ne" => x != y
        | "-lt" => x < y
        | "-le" => x ≤ y
        | "-gt" => x > y
        | _ => x ≥ y)
    | none, _ => .error ("Illegal number: " ++ a)
    | _, none => .error ("Illegal number: " ++ b)

/-- The operators of a condition. -/
inductive TestOp where
  | unary (name : String)
  | binary (name : String)
  | not
  | and
  | or
  | lparen
  | rparen
deriving DecidableEq, Repr

/-- The operator a word is, if it is one. -/
def opOf (s : String) : Option TestOp :=
  if unaryOps.contains s then some (.unary s)
  else if binaryOps.contains s then some (.binary s)
  else if s == "!" then some .not
  else if s == "-a" then some .and
  else if s == "-o" then some .or
  else if s == "(" then some .lparen
  else if s == ")" then some .rparen
  else none

/-- A token of a condition: the end, an operand, or an operator. -/
inductive Token where
  | eoi
  | operand
  | op (o : TestOp)
deriving DecidableEq, Repr

/-- The token at a position. A unary operator is an operand when it is the last word, or
when a binary operator and another word follow it; `(` is an operand when it is last. -/
def tokenAt (args : Array String) (i : Nat) : Token :=
  match args[i]? with
  | none => .eoi
  | some s =>
    match opOf s with
    | some (.unary u) =>
      let operand := match args[i + 1]? with
        | none => true
        | some next => args[i + 2]?.isSome && (match opOf next with
          | some (.binary _) => true
          | _ => false)
      if operand then .operand else .op (.unary u)
    | some .lparen => if args[i + 1]?.isNone then .operand else .op .lparen
    | some o => .op o
    | none => .operand

mutual

/-- `-o` chains, from the token at position `w`: the truth and the position of the last
word read. -/
def orExpr (info : Files) (args : Array String) :
    Nat → Token → Nat → Except String (Bool × Nat)
  | 0, _, _ => .error "expression too long"
  | k + 1, t, w => do
    let (a, w) ← andExpr info args k t w
    match tokenAt args (w + 1) with
    | .op .or =>
      let (b, w) ← orExpr info args k (tokenAt args (w + 2)) (w + 2)
      pure (b || a, w)
    | _ => pure (a, w)

/-- `-a` chains. -/
def andExpr (info : Files) (args : Array String) :
    Nat → Token → Nat → Except String (Bool × Nat)
  | 0, _, _ => .error "expression too long"
  | k + 1, t, w => do
    let (a, w) ← notExpr info args k t w
    match tokenAt args (w + 1) with
    | .op .and =>
      let (b, w) ← andExpr info args k (tokenAt args (w + 2)) (w + 2)
      pure (b && a, w)
    | _ => pure (a, w)

/-- Negations. -/
def notExpr (info : Files) (args : Array String) :
    Nat → Token → Nat → Except String (Bool × Nat)
  | 0, _, _ => .error "expression too long"
  | k + 1, t, w =>
    if t == .op .not then do
      let (a, w) ← notExpr info args k (tokenAt args (w + 1)) (w + 1)
      pure (!a, w)
    else primary info args k t w

/-- A primary: nothing (false), a parenthesised expression, a unary test, a binary test, or
a word. -/
def primary (info : Files) (args : Array String) :
    Nat → Token → Nat → Except String (Bool × Nat)
  | 0, _, _ => .error "expression too long"
  | k + 1, t, w =>
    match t with
    | .eoi => pure (false, w)
    | .op .lparen =>
      let next := tokenAt args (w + 1)
      if next == .op .rparen then pure (false, w + 1)
      else do
        let (a, w) ← orExpr info args k next (w + 1)
        if tokenAt args (w + 1) == .op .rparen then pure (a, w + 1)
        else .error "closing paren expected"
    | .op (.unary u) =>
      match args[w + 1]? with
      | none => .error (u ++ ": argument expected")
      | some arg =>
        if u == "-t" then
          match integer arg with
          | some _ => pure (false, w + 1)
          | none => .error ("Illegal number: " ++ arg)
        else pure (unary info u arg, w + 1)
    | _ =>
      match tokenAt args (w + 1) with
      | .op (.binary b) =>
        match args[w + 2]? with
        | none => .error (b ++ ": argument expected")
        | some right => do
          let v ← binary info (args[w]?.getD "") b right
          pure (v, w + 2)
      | _ => pure (!(args[w]?.getD "").isEmpty, w)

end

/-- The status of the shell's `test` (or `[`, `bracket`): 0 when true, 1 when false, 2 with an
error text. -/
def status (info : Files) (bracket : Bool) (args : List String) : Nat × Option String :=
  if bracket && args.getLast? != some "]" then (2, some "missing ]")
  else
    let args := if bracket then args.dropLast else args
    -- the arguments read so far, whether a `!` was taken off, and the token to start with
    let rec shape : Nat → List String → Bool → List String × Bool × Option Token
      | 0, ws, neg => (ws, neg, none)
      | k + 1, ws, neg =>
        let n := ws.length
        let binaryMiddle := n == 3 && (match opOf (ws.getD 1 "") with
          | some (.binary _) => true
          | _ => false)
        if binaryMiddle then (ws, neg, some .operand)
        else if n == 3 || n == 4 then
          if ws.head? == some "(" && ws.getLast? == some ")" then (ws.dropLast.drop 1, neg, none)
          else if ws.head? == some "!" then shape k ws.tail true
          else (ws, neg, none)
        else (ws, neg, none)
    let (ws, neg, start) := shape (args.length + 1) args false
    if ws.isEmpty then (if neg then 0 else 1, none)
    else
      let arr := ws.toArray
      let t := start.getD (tokenAt arr 0)
      match orExpr info arr (4 * arr.size + 8) t 0 with
      | .error e => (2, some e)
      | .ok (v, w) =>
        match arr[w]?, arr[w + 1]? with
        | some last, some _ => (2, some (last ++ ": unexpected operator"))
        | _, _ => (if v != neg then 0 else 1, none)

/-- An integer operand of the program: blanks, `+` or `-`, digits and blanks, of any size;
none when malformed. -/
def programInteger (s : String) : Option Int :=
  let cs := s.toList.dropWhile (fun c => c == ' ' || c == '\t')
  let (neg, cs) := match cs with
    | '+' :: r => (false, r)
    | '-' :: r => (true, r)
    | r => (false, r)
  let (ds, rest) := cs.span Char.isDigit
  if ds.isEmpty || !rest.all (fun c => c == ' ' || c == '\t') then none
  else
    let v : Nat := ds.foldl (fun a c => a * 10 + (c.toNat - 48)) 0
    some (if neg then -(v : Int) else v)

/-- The binary operators of the program. -/
def programBinary : List String :=
  ["=", "==", "!=", "-nt", "-ot", "-ef", "-eq", "-ne", "-lt", "-le", "-gt", "-ge"]

/-- The program's reading state: the arguments and the position. -/
structure Reading where
  /-- The arguments. -/
  args : Array String
  /-- The position of the next argument. -/
  pos : Nat

namespace Reading

/-- The argument at an offset from the position. -/
def at_ (r : Reading) (k : Nat) : String := r.args[r.pos + k]?.getD ""

/-- How many arguments are left. -/
def left (r : Reading) : Nat := r.args.size - r.pos

/-- The error of running out of arguments. -/
def beyond (r : Reading) : String := "missing argument after " ++ Tool.quoteArg (r.args[r.args.size - 1]?.getD "")

/-- The reading one argument further; with `must`, an error when that runs out. -/
def advance (r : Reading) (must : Bool) : Except String Reading :=
  let r := { r with pos := r.pos + 1 }
  if must && r.pos ≥ r.args.size then .error r.beyond else .ok r

end Reading

/-- A word quoted as the program quotes words in messages. -/
def quoted (s : String) : String := Tool.quoteArg s

/-- An integer of the program, or its error. -/
def programInt (s : String) : Except String Int :=
  match programInteger s with
  | some v => .ok v
  | none => .error ("invalid integer " ++ quoted s)

/-- A binary test of the program at the position (`lengthLeft` when `-l` came before the
left operand): its truth and the reading after it. -/
def programBinaryAt (info : Files) (r : Reading) (lengthLeft : Bool) : Except String (Bool × Reading) := do
  let r := if lengthLeft then { r with pos := r.pos + 1 } else r
  let op := r.pos + 1
  let lengthRight := op + 2 < r.args.size && r.args[op + 1]? == some "-l"
  let r := if lengthRight then { r with pos := r.pos + 1 } else r
  let opText := r.args[op]?.getD ""
  let left := r.args[op - 1]?.getD ""
  let right := r.args[op + (if lengthRight then 2 else 1)]?.getD ""
  let done := { r with pos := r.pos + 3 }
  if ["-eq", "-ne", "-lt", "-le", "-gt", "-ge"].contains opText then
    let l ← if lengthLeft then pure (left.length : Int) else programInt left
    let rv ← if lengthRight then pure (right.length : Int) else programInt right
    let v := match opText with
      | "-eq" => l == rv
      | "-ne" => l != rv
      | "-lt" => l < rv
      | "-le" => l ≤ rv
      | "-gt" => l > rv
      | _ => l ≥ rv
    pure (v, done)
  else if opText == "-nt" || opText == "-ot" || opText == "-ef" then
    if lengthLeft || lengthRight then .error (opText ++ " does not accept -l")
    else
      let l := (info.kind left).isSome
      let rr := (info.kind right).isSome
      pure (match opText with
        | "-nt" => l && !rr
        | "-ot" => rr && !l
        | _ => info.same left right, done)
  else if opText == "=" || opText == "==" then pure (left == right, done)
  else pure (left != right, done)

/-- A unary test of the program at the position. -/
def programUnary (info : Files) (r : Reading) : Except String (Bool × Reading) := do
  let op := r.at_ 0
  let known := ["-e", "-r", "-w", "-x", "-N", "-O", "-G", "-f", "-d", "-s", "-S", "-c", "-b", "-p",
    "-L", "-h", "-u", "-g", "-k", "-t", "-n", "-z"]
  if !known.contains op then .error (quoted op ++ ": unary operator expected")
  else
    let r ← r.advance true
    let arg := r.at_ 0
    let r := { r with pos := r.pos + 1 }
    if op == "-t" then do
      let _ ← programInt arg
      pure (false, r)
    else if op == "-N" then pure (match info.kind arg with
      | some (.regular n _) => n > 0
      | _ => false, r)
    else pure (unary info op arg, r)

mutual

/-- The program's general expression: `-o` over `-a` over terms. -/
def programOr (info : Files) : Nat → Reading → Except String (Bool × Reading)
  | 0, _ => .error "expression too long"
  | k + 1, r => do
    let (a, r) ← programAnd info k r
    if r.pos < r.args.size && r.at_ 0 == "-o" then do
      let r ← r.advance false
      let (b, r) ← programOr info k r
      pure (a || b, r)
    else pure (a, r)

/-- `-a` chains of terms. -/
def programAnd (info : Files) : Nat → Reading → Except String (Bool × Reading)
  | 0, _ => .error "expression too long"
  | k + 1, r => do
    let (a, r) ← programTerm info k r
    if r.pos < r.args.size && r.at_ 0 == "-a" then do
      let r ← r.advance false
      let (b, r) ← programAnd info k r
      pure (a && b, r)
    else pure (a, r)

/-- A term: `!`s, then a parenthesised condition, a binary or unary test, or a word. -/
def programTerm (info : Files) : Nat → Reading → Except String (Bool × Reading)
  | 0, _ => .error "expression too long"
  | k + 1, r => do
    if r.pos ≥ r.args.size then .error r.beyond
    else if r.at_ 0 == "!" then do
      let r ← r.advance true
      let (v, r) ← programTerm info k r
      pure (!v, r)
    else if r.at_ 0 == "(" then do
      let r ← r.advance true
      let count := ((List.range 4).find? fun j => r.pos + j + 1 ≥ r.args.size || r.args[r.pos + j + 1]? == some ")").map (· + 1)
      let count := match count with
        | some c => if c == 4 && r.args[r.pos + 4]? != some ")" then r.left else c
        | none => r.left
      let (v, r) ← programPosix info k r count
      match r.args[r.pos]? with
      | none => .error (quoted ")" ++ " expected")
      | some ")" => pure (v, { r with pos := r.pos + 1 })
      | some other => .error (quoted ")" ++ " expected, found " ++ quoted other)
    else if r.left ≥ 4 && r.at_ 0 == "-l" && programBinary.contains (r.at_ 2) then programBinaryAt info r true
    else if r.left ≥ 3 && programBinary.contains (r.at_ 1) then programBinaryAt info r false
    else
      let w := r.at_ 0
      if w.length == 2 && w.startsWith "-" then programUnary info r
      else pure (!w.isEmpty, { r with pos := r.pos + 1 })

/-- The program's reading of `n` arguments by their number. -/
def programPosix (info : Files) : Nat → Reading → Nat → Except String (Bool × Reading)
  | 0, _, _ => .error "expression too long"
  | k + 1, r, n =>
    if n == 1 then pure (!(r.at_ 0).isEmpty, { r with pos := r.pos + 1 })
    else if n == 2 then programTwo info k r
    else if n == 3 then programThree info k r
    else if n == 4 && r.at_ 0 == "!" then do
      let r ← r.advance true
      let (v, r) ← programThree info k r
      pure (!v, r)
    else if n == 4 && r.at_ 0 == "(" && r.at_ 3 == ")" then do
      let (v, r) ← programTwo info k { r with pos := r.pos + 1 }
      pure (v, { r with pos := r.pos + 1 })
    else programOr info k r

/-- Two arguments: `! x`, or a unary test. -/
def programTwo (info : Files) : Nat → Reading → Except String (Bool × Reading)
  | 0, _ => .error "expression too long"
  | _ + 1, r =>
    if r.at_ 0 == "!" then
      let r := { r with pos := r.pos + 1 }
      pure ((r.at_ 0).isEmpty, { r with pos := r.pos + 1 })
    else
      let w := r.at_ 0
      if w.length == 2 && w.startsWith "-" then programUnary info r
      else .error r.beyond

/-- Three arguments: a binary test, `! x y`, `( x )`, or an expression with `-a` or `-o`. -/
def programThree (info : Files) : Nat → Reading → Except String (Bool × Reading)
  | 0, _ => .error "expression too long"
  | k + 1, r =>
    if programBinary.contains (r.at_ 1) then programBinaryAt info r false
    else if r.at_ 0 == "!" then do
      let r ← r.advance true
      let (v, r) ← programTwo info k r
      pure (!v, r)
    else if r.at_ 0 == "(" && r.at_ 2 == ")" then
      pure (!(r.at_ 1).isEmpty, { r with pos := r.pos + 3 })
    else if r.at_ 1 == "-a" || r.at_ 1 == "-o" then programOr info k r
    else .error (quoted (r.at_ 1) ++ ": binary operator expected")

end

/-- The status of the program `test` (or `[`, `bracket`): 0 when true, 1 when false, 2 with an
error text. -/
def programStatus (info : Files) (bracket : Bool) (args : List String) : Nat × Option String :=
  if bracket && args.getLast? != some "]" then (2, some ("missing " ++ quoted "]"))
  else
    let args := if bracket then args.dropLast else args
    if args.isEmpty then (1, none)
    else
      let r : Reading := { args := args.toArray, pos := 0 }
      match programPosix info (8 * args.length + 8) r args.length with
      | .error e => (2, some e)
      | .ok (v, r) =>
        if r.pos < args.length then (2, some ("extra argument " ++ quoted (r.at_ 0)))
        else (if v then 0 else 1, none)

end Condition

end DefUseCoverage.Shell
