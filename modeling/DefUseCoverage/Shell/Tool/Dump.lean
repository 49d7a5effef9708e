import DefUseCoverage.Shell.Tool.Basic
/-!
# Dumping bytes

`od [OPTION]... [FILE]...` writes its input as lines of numbers: each line starts with the
offset of its first byte (in octal unless `-A` says `d`, `x` or `n` for none) and shows the
next sixteen bytes (`-w N` for another count) in each of the output types asked for, one line
per type, the lines after the first with the address column left blank.

A type is `o`, `u`, `d` or `x` (octal, unsigned, signed or hexadecimal) with a size of 1, 2, 4
or 8 bytes (`C`, `S`, `I`, `L`), read little-endian, or `c` (characters, with the C escapes and
octal for the others) or `a` (named characters). The traditional letters stand for types:
`-b` is `o1`, `-c` is `c`, `-a` is `a`, `-d` is `u2`, `-o` is `o2`, `-s` is `d2`, `-x` is `x2`,
`-i` is `d4` and `-l` is `d8`; with none, `o2`.

Each value is right-aligned after a blank in the width its largest value needs; when types of
different widths share a line, the narrower ones are padded so that the columns line up. A
line equal to the one before is written as `*` (unless `-v`), and the offset after the last
byte ends the output. `-j N` skips bytes and `-N N` reads at most that many.
-/

namespace DefUseCoverage.Shell

namespace Tool

/-- The radix of a kind of number. -/
inductive Radix where
  | octal | unsigned | signed | hex
deriving DecidableEq, Repr

/-- An output type of `od`. -/
inductive DumpType where
  /-- Numbers of `size` bytes. -/
  | number (radix : Radix) (size : Nat)
  /-- Characters with escapes. -/
  | chars
  /-- Named characters. -/
  | named
deriving DecidableEq, Repr

/-- How many bytes a value of the type takes. -/
def DumpType.size : DumpType → Nat
  | .number _ k => k
  | _ => 1

/-- The width of the widest value of a type, its leading blank not counted. -/
def DumpType.width : DumpType → Nat
  | .number .octal k => (Nat.toDigits 8 (Nat.pow 256 k - 1)).length
  | .number .unsigned k => (Nat.toDigits 10 (Nat.pow 256 k - 1)).length
  | .number .signed k => (Nat.toDigits 10 (Nat.pow 256 k / 2)).length + 1
  | .number .hex k => 2 * k
  | _ => 3

/-- The names of the control characters, as `od -a` writes them. -/
def controlNames : List String :=
  ["nul", "soh", "stx", "etx", "eot", "enq", "ack", "bel", "bs", "ht", "nl", "vt", "ff", "cr",
   "so", "si", "dle", "dc1", "dc2", "dc3", "dc4", "nak", "syn", "etb", "can", "em", "sub", "esc",
   "fs", "gs", "rs", "us"]

/-- Digits of a number in a radix, padded with zeros to a width. -/
def padDigits (radix : Nat) (width : Nat) (v : Nat) : String :=
  let ds := Nat.toDigits radix v
  String.ofList (List.replicate (width - ds.length) '0' ++ ds)

/-- The text of one value of a type, from its bytes (the first the lowest). -/
def DumpType.render (t : DumpType) (bs : List UInt8) : String :=
  let v := bs.foldr (fun b acc => acc * 256 + b.toNat) 0
  match t with
  | .number .octal _ => padDigits 8 t.width v
  | .number .hex _ => padDigits 16 t.width v
  | .number .unsigned _ => toString v
  | .number .signed k =>
    let half := Nat.pow 256 k / 2
    if v < half then toString v else "-" ++ toString (2 * half - v)
  | .chars =>
    match v with
    | 0 => "\\0"
    | 7 => "\\a"
    | 8 => "\\b"
    | 9 => "\\t"
    | 10 => "\\n"
    | 11 => "\\v"
    | 12 => "\\f"
    | 13 => "\\r"
    | _ => if 32 ≤ v && v < 127 then (Char.ofNat v).toString else padDigits 8 3 v
  | .named =>
    let c := v % 128
    if c < 32 then controlNames.getD c ""
    else if c == 32 then "sp"
    else if c == 127 then "del"
    else (Char.ofNat c).toString

/-- The size of a type from its size letter or digits. -/
def typeSize (s : List Char) (default : Nat) : Option Nat :=
  match s with
  | [] => some default
  | ['C'] => some 1
  | ['S'] => some 2
  | ['I'] => some 4
  | ['L'] => some 8
  | ds => if ds.all Char.isDigit then
      let k := ds.foldl (fun a c => a * 10 + (c.toNat - 48)) 0
      if k == 1 || k == 2 || k == 4 || k == 8 then some k else none
    else none

/-- A type with a `z` after it, which adds the printable characters of the line. -/
def withText (t : DumpType) (rest : List Char) : (DumpType × Bool) × List Char :=
  match rest with
  | 'z' :: more => ((t, true), more)
  | _ => ((t, false), rest)

/-- The types of a `-t` argument: several may follow each other (`x1c`); the character not
understood when there is one. -/
def dumpTypes (s : List Char) : Nat → Except Char (List (DumpType × Bool))
  | 0 => .ok []
  | k + 1 =>
    match s with
    | [] => .ok []
    | 'a' :: rest => let (t, more) := withText .named rest; (dumpTypes more k).map (t :: ·)
    | 'c' :: rest => let (t, more) := withText .chars rest; (dumpTypes more k).map (t :: ·)
    | c :: rest =>
      let radix := if c == 'o' then some Radix.octal else if c == 'u' then some .unsigned
        else if c == 'd' then some .signed else if c == 'x' then some .hex else none
      match radix with
      | none => .error c
      | some r =>
        let (spec, more) := match rest with
          | d :: m => if "CSIL".toList.contains d then ([d], m) else rest.span Char.isDigit
          | [] => ([], [])
        match typeSize spec 4 with
        | some size => let (t, more) := withText (.number r size) more; (dumpTypes more k).map (t :: ·)
        | none => .error (spec.headD c)

/-- The options of `od`. -/
structure DumpOptions where
  /-- The output types, in order, each marked when its lines add their characters. -/
  types : List (DumpType × Bool) := []
  /-- The address radix: `o`, `d`, `x` or `n`. -/
  address : Char := 'o'
  /-- Bytes skipped first. -/
  skip : Nat := 0
  /-- Bytes read at most. -/
  limit : Option Nat := none
  /-- Bytes per line. -/
  width : Nat := 16
  /-- Whether repeated lines are all written. -/
  all : Bool := false

/-- A number argument of `od`: decimal, octal after `0`, hexadecimal after `0x`, with a
multiplier suffix `b` (512), `k` (1024) or `m` (1048576). -/
def dumpNumber (s : String) : Option Nat :=
  let cs := s.toList
  let (body, mult) := match cs.getLast? with
    | some 'b' => (cs.dropLast, 512)
    | some 'k' => (cs.dropLast, 1024)
    | some 'm' => (cs.dropLast, 1048576)
    | _ => (cs, 1)
  let digits (radix : Nat) (ds : List Char) : Option Nat :=
    ds.foldlM (fun a c =>
      let d := if c.isDigit then c.toNat - 48 else if 'a' ≤ c && c ≤ 'f' then c.toNat - 87
        else if 'A' ≤ c && c ≤ 'F' then c.toNat - 55 else 99
      if d < radix then some (a * radix + d) else none) 0
  let v := match body with
    | '0' :: 'x' :: ds | '0' :: 'X' :: ds => if ds.isEmpty then none else digits 16 ds
    | '0' :: ds => digits 8 ds
    | [] => none
    | ds => digits 10 ds
  v.map (· * mult)

/-- Why the arguments of `od` are refused. -/
inductive DumpUsage where
  | unknown (c : Char)
  | missing (c : Char)
  | badType (c : Char) (s : String)
  | badAddress (s : String)
  | badNumber (s : String)

/-- The options with one that takes a value applied. -/
def DumpOptions.withValue (o : DumpOptions) (c : Char) (v : String) : Except DumpUsage DumpOptions :=
  match c with
  | 't' =>
    match dumpTypes v.toList (v.length + 1) with
    | .ok ts => .ok { o with types := o.types ++ ts }
    | .error c => .error (.badType c v)
  | 'A' =>
    if ["o", "d", "x", "n"].contains v then .ok { o with address := v.front } else .error (.badAddress v)
  | 'j' => match dumpNumber v with
    | some n => .ok { o with skip := n }
    | none => .error (.badNumber v)
  | 'N' => match dumpNumber v with
    | some n => .ok { o with limit := some n }
    | none => .error (.badNumber v)
  | _ => match dumpNumber v with
    | some n => .ok { o with width := n }
    | none => .error (.badNumber v)

/-- The type a traditional letter stands for. -/
def traditionalType (c : Char) : Option DumpType :=
  match c with
  | 'a' => some .named
  | 'b' => some (.number .octal 1)
  | 'c' => some .chars
  | 'd' => some (.number .unsigned 2)
  | 'o' => some (.number .octal 2)
  | 's' => some (.number .signed 2)
  | 'x' | 'h' => some (.number .hex 2)
  | 'i' => some (.number .signed 4)
  | 'l' => some (.number .signed 8)
  | _ => none

/-- A bunch of letters after `-`: the options and the arguments left. -/
def dumpLetters : List Char → List String → DumpOptions → Except DumpUsage (DumpOptions × List String)
  | [], rest, o => .ok (o, rest)
  | c :: cs, rest, o =>
    if c == 't' || c == 'A' || c == 'j' || c == 'N' then
      if !cs.isEmpty then (o.withValue c (String.ofList cs)).map (·, rest)
      else match rest with
        | v :: r => (o.withValue c v).map (·, r)
        | [] => .error (.missing c)
    else if c == 'w' then
      if cs.isEmpty then .ok ({ o with width := 32 }, rest) else (o.withValue 'w' (String.ofList cs)).map (·, rest)
    else if c == 'v' then dumpLetters cs rest { o with all := true }
    else match traditionalType c with
      | some t => dumpLetters cs rest { o with types := o.types ++ [(t, false)] }
      | none => .error (.unknown c)

/-- Reads the options of `od` wherever they stand. The fuel bounds the arguments. -/
def dumpOptions : Nat → List String → DumpOptions → List String → Except DumpUsage (DumpOptions × List String)
  | 0, args, o, acc => .ok (o, acc ++ args)
  | _, [], o, acc => .ok (o, acc)
  | k + 1, a :: rest, o, acc =>
    if a == "--" then .ok (o, acc ++ rest)
    else match a.toList with
      | '-' :: c :: cs =>
        match dumpLetters (c :: cs) rest o with
        | .ok (o, rest) => dumpOptions k rest o acc
        | .error e => .error e
      | _ => dumpOptions k rest o (acc ++ [a])

/-- The values of one line in one type: each after a blank, right-aligned in the type's
width with the line's padding spread over them, the padding going to the later ones first. -/
def dumpFields (t : DumpType) (perLine pad : Nat) (bs : List UInt8) : String :=
  let fields := perLine / t.size
  let values := (List.range ((bs.length + t.size - 1) / t.size)).map fun i =>
    let chunk := (bs.drop (i * t.size)).take t.size
    t.render (chunk ++ List.replicate (t.size - chunk.length) 0)
  let (out, _) := values.zipIdx.foldl (fun (acc : String × Nat) (v, i) =>
    let (out, remaining) := acc
    let next := pad * (fields - i - 1) / fields
    let w := remaining - next + t.width
    (out ++ " " ++ String.ofList (List.replicate (w - v.length) ' ') ++ v, next)) ("", pad)
  out

/-- The offset of a byte as the address column shows it. -/
def dumpAddress (radix : Char) (n : Nat) : String :=
  if radix == 'd' then padDigits 10 7 n
  else if radix == 'x' then padDigits 16 6 n
  else if radix == 'n' then ""
  else padDigits 8 7 n

/-- The lines of a dump of some bytes, the first at an offset. -/
def dumpLines (o : DumpOptions) (types : List (DumpType × Bool)) (start : Nat) (bs : List UInt8) : String :=
  let perLine := if o.width == 0 then 16 else o.width
  let blockWidth := types.foldl (fun m (t, _) => max m ((t.width + 1) * (perLine / t.size))) 0
  let blank := String.ofList (List.replicate (dumpAddress o.address 0).length ' ')
  let rows := (List.range ((bs.length + perLine - 1) / perLine)).map fun i => (bs.drop (i * perLine)).take perLine
  let block (offset : Nat) (row : List UInt8) : String :=
    String.join (types.zipIdx.map fun ((t, text), j) =>
      let fields := dumpFields t perLine (blockWidth - (t.width + 1) * (perLine / t.size)) row
      let chars := if !text then ""
        else String.ofList (List.replicate (blockWidth - fields.length) ' ') ++ "  >" ++
          String.ofList (row.map fun b => if 32 ≤ b && b < 127 then Char.ofNat b.toNat else '.') ++ "<"
      (if j == 0 then dumpAddress o.address offset else blank) ++ fields ++ chars ++ "\n")
  let (out, _, _) := rows.zipIdx.foldl (fun (acc : String × Option (List UInt8) × Bool) (row, i) =>
    let (out, prev, starred) := acc
    if !o.all && row.length == perLine && prev == some row then
      (if starred then out else out ++ "*\n", prev, true)
    else (out ++ block (start + i * perLine) row, some row, false)) ("", none, false)
  let last := if o.address == 'n' then "" else dumpAddress o.address (start + bs.length) ++ "\n"
  out ++ last

/-- `od`: the bytes of its files (or standard input), one after the other, as numbers. -/
def od (cmd : String) (args : List String) (input : List UInt8) (ws : Workspace) : ToolRun :=
  let hint := "Try " ++ quote (cmd ++ " --help") ++ " for more information.\n"
  match dumpOptions (args.length + 1) args {} [] with
  | .error (.unknown c) => { ws := ws, err := bytes (cmd ++ ": invalid option -- " ++ quote c.toString ++ "\n" ++ hint), status := 1 }
  | .error (.missing c) => { ws := ws, err := bytes (cmd ++ ": option requires an argument -- " ++ quote c.toString ++ "\n" ++ hint), status := 1 }
  | .error (.badType c s) =>
    { ws := ws, err := bytes (cmd ++ ": invalid character " ++ quote c.toString ++ " in type string " ++ quoteArg s ++ "\n"),
      status := 1 }
  | .error (.badAddress s) => { ws := ws, err := bytes (cmd ++ ": invalid output address radix " ++ quote s ++ "; it is not one character of [doxn]\n"), status := 1 }
  | .error (.badNumber s) => { ws := ws, err := bytes (cmd ++ ": invalid number " ++ quote s ++ "\n"), status := 1 }
  | .ok (o, files) =>
    let files := if files.isEmpty then ["-"] else files
    let (data, err, failed) := files.foldl (fun (acc : List UInt8 × List UInt8 × Bool) f =>
      let (data, err, failed) := acc
      if f == "-" then (data ++ input, err, failed)
      else match nodeAt ws f with
        | .ok (_, .file bs) => (data ++ bs, err, failed)
        | .ok (_, .sink) => (data, err, failed)
        | .ok (_, .dir) => (data, err ++ errLine cmd (f ++ ": read error: Is a directory"), true)
        | .error e => (data, err ++ errLine cmd (f ++ ": " ++ IoError.text e), true)) ([], [], false)
    let data := data.drop o.skip
    let data := match o.limit with
      | some n => data.take n
      | none => data
    let types := if o.types.isEmpty then [(.number .octal 2, false)] else o.types
    let opened := files.any fun f => f == "-" || (nodeAt ws f).toOption.isSome
    { ws := ws, out := if opened then bytes (dumpLines o types o.skip data) else [], err := err,
      status := if failed then 1 else 0, readsInput := files.contains "-" }

end Tool

end DefUseCoverage.Shell
