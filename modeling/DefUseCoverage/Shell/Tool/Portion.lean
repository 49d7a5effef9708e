import DefUseCoverage.Shell.Tool.Options
/-!
# The first and the last lines of files

`head` writes the first lines (or bytes, `-c`) of each file, ten by default, or, with a count
after `-`, all but the last ones. `tail` writes the last ones, or, with a count after `+`,
everything from that line (or byte) on. Both count lines ended by newlines, or by NUL bytes
with `-z`; a last line without its end is a line too. A count takes the size suffixes (`k`,
`M`, `KB`, `KiB`, ...) and `b` for blocks of 512 bytes.

With several files each comes under a header `==> name <==`, the headers after the first
with an empty line before them; `-q` leaves the headers out and `-v` writes one even over a
single file. A header is written once its file is open, so a file that cannot be opened has
none.

Both also know the older forms of a count: `head -5`, `head -5c`, `head -2k` as the first
argument, and `tail -5`, `tail +5`, `tail -5c`, `tail -5f` as the only option before at most
one file. A digit elsewhere among the options is refused.

`head` stops reading where it stops writing: it leaves what it does not write of a regular
file on standard input for the next reader, and of a pipe takes just the bytes of `-c N`
(for `-n N` whole blocks of 8192 bytes). `tail -f` goes on following its files once it has
written them, and so never ends while one of them can still grow.
-/

namespace DefUseCoverage.Shell

namespace Tool

/-- What `head` or `tail` keeps of each file. -/
structure Portion where
  /-- Whether bytes are counted rather than lines. -/
  bytes : Bool := false
  /-- The byte that ends a line: newline, or NUL with `-z`. -/
  ending : UInt8 := 10
  /-- Whether the count is taken from the other end: for `head`, everything but the last
  `count` (`-n -K`); for `tail`, everything after the first `count` (`-n +K` skips `K - 1`). -/
  reversed : Bool := false
  /-- How many lines or bytes. -/
  count : Nat := 10

/-- How many lines or bytes a text holds. -/
def Portion.size (p : Portion) (bs : List UInt8) : Nat :=
  if p.bytes then bs.length else (recordsWith p.ending (bs.length + 1) bs).length

/-- How many bytes the first `n` lines (or bytes) of a text take. -/
def Portion.span (p : Portion) (n : Nat) (bs : List UInt8) : Nat :=
  if p.bytes then min n bs.length
  else ((recordsWith p.ending (bs.length + 1) bs).take n).foldl (fun k l => k + l.length) 0

/-- What `head` writes of a text. -/
def Portion.first (p : Portion) (bs : List UInt8) : List UInt8 :=
  bs.take (p.span (if p.reversed then p.size bs - p.count else p.count) bs)

/-- What `tail` writes of a text. -/
def Portion.last (p : Portion) (bs : List UInt8) : List UInt8 :=
  bs.drop (p.span (if p.reversed then p.count else p.size bs - p.count) bs)

/-- How many bytes of standard input `head` reads. From a regular file it leaves what it does
not write for the next reader; from a pipe it takes just the bytes of `-c N`, whole blocks of
8192 bytes for `-n N`, and everything to leave out the last ones. -/
def Portion.consumed (p : Portion) (regular : Bool) (bs : List UInt8) : Nat :=
  let used := (p.first bs).length
  if regular || (p.bytes && !p.reversed) then used
  else if p.reversed then bs.length
  else min bs.length ((used + 8191) / 8192 * 8192)

/-- The choices of `head` and `tail`. -/
structure PortionOptions where
  /-- What is kept of each file. -/
  portion : Portion := {}
  /-- Headers always (`some true`, `-v`), never (`some false`, `-q`), or over several files. -/
  headers : Option Bool := none
  /-- Whether `tail` follows its files once written (`-f`). -/
  follow : Bool := false
  /-- Whether `tail` follows its files by name (`-F`, `--follow=name`). -/
  byName : Bool := false
  /-- Whether `tail` keeps trying files it cannot open (`--retry`, `-F`). -/
  retry : Bool := false
  /-- Whether `tail` was given a process to watch (`--pid`). -/
  watches : Bool := false

/-- The size suffixes of counts. -/
def countSuffixes : List Char := "bkKmMGTPEZYRQ0".toList

/-- The error for a count that `head` or `tail` cannot read. -/
def badCount (isBytes : Bool) (text why : String) : String × Bool :=
  ("invalid number of " ++ (if isBytes then "bytes" else "lines") ++ ": " ++ quoteArg text ++ why, false)

/-- The options of `head`. -/
def headSpecs : List OptSpec :=
  [{ name := "bytes", letter := some 'c', longs := ["bytes"], takes := .required },
   { name := "lines", letter := some 'n', longs := ["lines"], takes := .required },
   { name := "presume-input-pipe", longs := ["-presume-input-pipe"] },
   { name := "quiet", letter := some 'q', longs := ["quiet", "silent"] },
   { name := "verbose", letter := some 'v', longs := ["verbose"] },
   { name := "zero-terminated", letter := some 'z', longs := ["zero-terminated"] }] ++
  digitSpecs ++ standardOptions

/-- The older form of `head`'s count as its first argument: the digits, then letters, `c` for
bytes, `b`, `k` or `m` for bytes in blocks of that size, `l` for lines, `q` and `v` for the
headers and `z` for NUL-ended lines. The options it gives, or the refusal, with whether the
hint to run `--help` follows. -/
def headOlder (digits letters : List Char) : Except (String × Bool) PortionOptions :=
  let step (acc : Except (String × Bool) (PortionOptions × Option Char)) (c : Char) :
      Except (String × Bool) (PortionOptions × Option Char) :=
    match acc with
    | .error e => .error e
    | .ok (o, scale) =>
      let p := o.portion
      match c with
      | 'c' => .ok ({ o with portion := { p with bytes := true } }, none)
      | 'b' | 'k' | 'm' => .ok ({ o with portion := { p with bytes := true } }, some c)
      | 'l' => .ok ({ o with portion := { p with bytes := false } }, scale)
      | 'q' => .ok ({ o with headers := some false }, scale)
      | 'v' => .ok ({ o with headers := some true }, scale)
      | 'z' => .ok ({ o with portion := { p with ending := 0 } }, scale)
      | _ => .error ("invalid trailing option -- " ++ c.toString, true)
  match letters.foldl step (.ok ({}, none)) with
  | .error e => .error e
  | .ok (o, scale) =>
    let text := String.ofList (digits ++ scale.toList)
    match sizeArgument text countSuffixes with
    | .ok n => .ok { o with portion := { o.portion with count := n } }
    | .error why => .error (badCount o.portion.bytes text why)

/-- One more option of `head`, in the order given. -/
def headOption (acc : Except (String × Bool) PortionOptions) (g : String × Option String) :
    Except (String × Bool) PortionOptions :=
  match acc with
  | .error e => .error e
  | .ok o =>
    let p := o.portion
    match g.1 with
    | "bytes" | "lines" =>
      let isBytes := g.1 == "bytes"
      let v := g.2.getD ""
      let (elide, text) := match v.toList with
        | '-' :: r => (true, String.ofList r)
        | _ => (false, v)
      match sizeArgument text countSuffixes with
      | .ok n => .ok { o with portion := { p with bytes := isBytes, reversed := elide, count := n } }
      | .error why => .error (badCount isBytes text why)
    | "quiet" => .ok { o with headers := some false }
    | "verbose" => .ok { o with headers := some true }
    | "zero-terminated" => .ok { o with portion := { p with ending := 0 } }
    | name =>
      if digitSpecs.any (·.name == name) then .error ("invalid trailing option -- " ++ name, true)
      else .ok o

/-- The options and files of `head`, or its refusal with whether the hint follows. -/
def headArguments (args : List String) : Except (String × Bool) (PortionOptions × List String) :=
  let (older, rest) : Except (String × Bool) PortionOptions × List String :=
    match args with
    | a :: more =>
      match a.toList with
      | '-' :: d :: cs =>
        if d.isDigit then
          let ds := (d :: cs).takeWhile Char.isDigit
          (headOlder ds ((d :: cs).drop ds.length), more)
        else (.ok {}, args)
      | _ => (.ok {}, args)
    | [] => (.ok {}, args)
  match older with
  | .error e => .error e
  | .ok o =>
    let r := readOptions headSpecs false rest
    match r.given.foldl headOption (.ok o) with
    | .error e => .error e
    | .ok o =>
      match r.error with
      | some e => .error (e.text, true)
      | none =>
        -- a count of bytes to leave out must fit a file offset
        if o.portion.bytes && o.portion.reversed && o.portion.count > 9223372036854775807 then
          .error (badCount true (toString o.portion.count) tooLarge)
        else .ok (o, r.operands)

/-- Where `head` or `tail` stands among its files. -/
structure PortionWalk where
  /-- The writes so far, `true` for standard output. -/
  writes : List (Bool × List UInt8) := []
  /-- Whether a header was written yet. -/
  headed : Bool := false
  /-- Whether a file failed. -/
  failed : Bool := false
  /-- What is left of standard input. -/
  left : List UInt8
  /-- Whether standard input was read. -/
  read : Bool := false
  /-- Whether `tail -f` has a file it can go on following. -/
  live : Bool := false

/-- The walk after writing to standard output. -/
def PortionWalk.put (w : PortionWalk) (bs : List UInt8) : PortionWalk :=
  { w with writes := w.writes ++ [(true, bs)] }

/-- The walk after a message on standard error; `fails` says whether it marks a failure. -/
def PortionWalk.say (w : PortionWalk) (cmd msg : String) (fails : Bool) : PortionWalk :=
  { w with writes := w.writes ++ [(false, errLine cmd msg)], failed := w.failed || fails }

/-- The walk after the header of a file, if headers are shown. -/
def PortionWalk.header (w : PortionWalk) (shown : Bool) (name : String) : PortionWalk :=
  if !shown then w
  else { w.put (bytes ((if w.headed then "\n" else "") ++ "==> " ++ name ++ " <==\n")) with headed := true }

/-- The run of `head` or `tail` after its walk over the files. -/
def PortionWalk.result (w : PortionWalk) (ws : Workspace) (leaves : Bool) : ToolRun :=
  { ToolRun.ofWrites ws w.writes (if w.failed then 1 else 0) w.read with
    inputLeft := if leaves && w.read then some w.left else none }

/-- `head` on one more file. -/
def headFile (cmd : String) (o : PortionOptions) (headers regular : Bool) (ws : Workspace)
    (w : PortionWalk) (f : String) : PortionWalk :=
  let p := o.portion
  if f == "-" then
    let w := w.header headers "standard input"
    { w.put (p.first w.left) with left := w.left.drop (p.consumed regular w.left), read := true }
  else match nodeAt ws f with
    | .ok (_, .file bs) => (w.header headers f).put (p.first bs)
    | .ok (_, .sink) => w.header headers f
    | .ok (_, .dir) =>
      let w := w.header headers f
      -- nothing is read when nothing is to be written
      if !p.reversed && p.count == 0 then w
      else w.say cmd ("error reading " ++ quote f ++ ": Is a directory") true
    | .error e => w.say cmd ("cannot open " ++ quote f ++ " for reading: " ++ IoError.text e) true

/-- `head [OPTION]... [FILE]...`. -/
def head (cmd : String) (args : List String) (input : List UInt8) (inputSize : Option Nat)
    (ws : Workspace) : ToolRun :=
  match headArguments args with
  | .error (msg, hint) =>
    { ws := ws, err := errLine cmd msg ++ (if hint then bytes (tryHelp cmd) else []), status := 1 }
  | .ok (o, files) =>
    let files := if files.isEmpty then ["-"] else files
    let headers := o.headers.getD (files.length > 1)
    (files.foldl (headFile cmd o headers inputSize.isSome ws) { left := input }).result ws true

/-- The options of `tail`. -/
def tailSpecs : List OptSpec :=
  [{ name := "bytes", letter := some 'c', longs := ["bytes"], takes := .required },
   { name := "follow", longs := ["follow"], takes := .optional },
   { name := "lines", letter := some 'n', longs := ["lines"], takes := .required },
   { name := "max-unchanged-stats", longs := ["max-unchanged-stats"], takes := .required },
   { name := "disable-inotify", longs := ["-disable-inotify"] },
   { name := "pid", longs := ["pid"], takes := .required },
   { name := "presume-input-pipe", longs := ["-presume-input-pipe"] },
   { name := "quiet", letter := some 'q', longs := ["quiet", "silent"] },
   { name := "retry", longs := ["retry"] },
   { name := "sleep-interval", letter := some 's', longs := ["sleep-interval"], takes := .required },
   { name := "verbose", letter := some 'v', longs := ["verbose"] },
   { name := "zero-terminated", letter := some 'z', longs := ["zero-terminated"] },
   { name := "f", letter := some 'f' },
   { name := "F", letter := some 'F' }] ++ digitSpecs ++ standardOptions

/-- Whether a text is a number of seconds `tail -s` takes: a decimal number that is not
negative, with an optional fraction and exponent, or an infinity. -/
def secondsText (text : String) : Bool :=
  let cs := text.toList.dropWhile fun c => c == ' ' || ('\t' ≤ c && c ≤ '\r')
  let (neg, cs) := match cs with
    | '-' :: r => (true, r)
    | '+' :: r => (false, r)
    | r => (false, r)
  let lower := cs.map Char.toLower
  if lower == "inf".toList || lower == "infinity".toList then !neg
  else
    let (whole, r) := cs.span Char.isDigit
    let (frac, r) := match r with
      | '.' :: r => r.span Char.isDigit
      | r => ([], r)
    let expOk := match r with
      | [] => true
      | e :: r =>
        (e == 'e' || e == 'E') &&
          (let ds := match r with
            | '+' :: d => d
            | '-' :: d => d
            | d => d
           !ds.isEmpty && ds.all Char.isDigit)
    let digits := whole ++ frac
    !digits.isEmpty && expOk && (!neg || digits.all (· == '0'))

/-- One more option of `tail`, in the order given. -/
def tailOption (acc : Except (String × Bool) PortionOptions) (g : String × Option String) :
    Except (String × Bool) PortionOptions :=
  match acc with
  | .error e => .error e
  | .ok o =>
    let p := o.portion
    let v := g.2.getD ""
    match g.1 with
    | "bytes" | "lines" =>
      let isBytes := g.1 == "bytes"
      -- a `+` counts from the start (and stays so); a `-` is only dropped
      let (fromStart, text) := match v.toList with
        | '+' :: _ => (true, v)
        | '-' :: r => (false, String.ofList r)
        | _ => (false, v)
      match sizeArgument text countSuffixes with
      | .ok n =>
        .ok { o with portion := { p with bytes := isBytes, reversed := p.reversed || fromStart, count := n } }
      | .error why => .error (badCount isBytes text why)
    | "f" => .ok { o with follow := true, byName := false }
    | "F" => .ok { o with follow := true, byName := true, retry := true }
    | "follow" =>
      match g.2 with
      | none => .ok { o with follow := true, byName := false }
      | some value =>
        match pickChoice value "follow" [["descriptor"], ["name"]] with
        | .ok c => .ok { o with follow := true, byName := c == ["name"] }
        | .error msg => .error (msg, true)
    | "retry" => .ok { o with retry := true }
    | "max-unchanged-stats" =>
      match sizeArgument v [] with
      | .ok _ => .ok o
      | .error why =>
        .error ("invalid maximum number of unchanged stats between opens: " ++ quoteArg v ++ why, false)
    | "pid" =>
      match sizeArgument v [] with
      | .ok n =>
        if n > 2147483647 then .error ("invalid PID: " ++ quoteArg v ++ tooLarge, false)
        else .ok { o with watches := n != 0 }
      | .error why => .error ("invalid PID: " ++ quoteArg v ++ why, false)
    | "sleep-interval" =>
      if secondsText v then .ok o else .error ("invalid number of seconds: " ++ quoteArg v, false)
    | "quiet" => .ok { o with headers := some false }
    | "verbose" => .ok { o with headers := some true }
    | "zero-terminated" => .ok { o with portion := { p with ending := 0 } }
    | name =>
      if digitSpecs.any (·.name == name) then .error ("option used in invalid context -- " ++ name, false)
      else .ok o

/-- The older form of `tail`'s count, when it is the only option before at most one file
(`-` being a file and `--` ending the options): a sign (`+` from the start), digits, then
`b` (blocks of 512 bytes, 5120 bytes without digits), `c` (bytes) or `l` (lines), then `f`.
`none` when the arguments do not have this form. -/
def tailOlder (args : List String) : Option (Except (String × Bool) (PortionOptions × List String)) :=
  let alone := match args with
    | [_] => true
    | [_, b] => b == "--" || !(b.startsWith "-" && b.length > 1)
    | [_, b, _] => b == "--"
    | _ => false
  match args with
  | [] => none
  | a :: rest =>
    let parsed : Option (Bool × List Char) := match a.toList with
      | '+' :: cs => some (true, cs)
      | '-' :: cs => if cs.isEmpty || cs == ['c'] then none else some (false, cs)
      | _ => none
    match alone, parsed with
    | true, some (fromStart, cs) =>
      let (ds, r) := cs.span Char.isDigit
      let (kind, r) : Option Char × List Char := match r with
        | c :: more => if c == 'b' || c == 'c' || c == 'l' then (some c, more) else (none, r)
        | [] => (none, [])
      let (follow, r) := match r with
        | 'f' :: more => (true, more)
        | _ => (false, r)
      if !r.isEmpty then none
      else
        let isBytes := kind == some 'b' || kind == some 'c'
        let n : Nat := ds.foldl (fun a c => a * 10 + (c.toNat - 48)) 0
        let count : Except String Nat :=
          if ds.isEmpty then .ok (if kind == some 'b' then 5120 else 10)
          else if n > widestUnsigned then .error ": Numerical result out of range"
          else if kind == some 'b' then
            (if n * 512 > widestUnsigned then .error "" else .ok (n * 512))
          else .ok n
        match count with
        | .error why => some (.error ("invalid number: " ++ quoteArg a ++ why, false))
        | .ok k =>
          some (.ok ({ portion := { bytes := isBytes, reversed := fromStart, count := k }, follow }, rest))
    | _, _ => none

/-- The options and files of `tail`, or its refusal with whether the hint follows. -/
def tailArguments (args : List String) : Except (String × Bool) (PortionOptions × List String) :=
  let older := (tailOlder args).getD (.ok ({}, args))
  match older with
  | .error e => .error e
  | .ok (o, rest) =>
    let r := readOptions tailSpecs false rest
    match r.given.foldl tailOption (.ok o) with
    | .error e => .error e
    | .ok o =>
      match r.error with
      | some e => .error (e.text, true)
      | none => .ok (o, r.operands)

/-- The warnings of `tail` about options that do nothing without following. -/
def tailWarnings (o : PortionOptions) : List String :=
  (if o.retry && !o.follow then ["warning: --retry ignored; --retry is useful only when following"]
   else if o.retry && !o.byName then ["warning: --retry only effective for the initial open"]
   else []) ++
  (if o.watches && !o.follow then ["warning: PID ignored; --pid=PID is useful only when following"] else [])

/-- `tail` on one more file. Under `-f` a file it opened stays live, as does one it could
not open when it keeps trying; a directory is given up. -/
def tailFile (cmd : String) (o : PortionOptions) (headers regular : Bool) (ws : Workspace)
    (w : PortionWalk) (f : String) : PortionWalk :=
  let p := o.portion
  if f == "-" then
    let w := w.header headers "standard input"
    { w.put (p.last w.left) with left := [], read := true, live := w.live || (o.follow && regular) }
  else match nodeAt ws f with
    | .ok (_, .file bs) => { (w.header headers f).put (p.last bs) with live := w.live || o.follow }
    | .ok (_, .sink) => { w.header headers f with live := w.live || o.follow }
    | .ok (_, .dir) =>
      let w := (w.header headers f).say cmd ("error reading " ++ quote f ++ ": Is a directory") true
      if !o.follow then w
      else
        let again := o.retry && o.byName
        let w := w.say cmd (quoteIfNeeded f ++ ": cannot follow end of this type of file" ++
          (if again then "" else "; giving up on this name")) false
        { w with live := w.live || again }
    | .error e =>
      { w.say cmd ("cannot open " ++ quote f ++ " for reading: " ++ IoError.text e) true with
        live := w.live || (o.follow && o.retry) }

/-- `tail [OPTION]... [FILE]...`. -/
def tail (cmd : String) (args : List String) (input : List UInt8) (inputSize : Option Nat)
    (ws : Workspace) : ToolRun :=
  match tailArguments args with
  | .error (msg, hint) =>
    { ws := ws, err := errLine cmd msg ++ (if hint then bytes (tryHelp cmd) else []), status := 1 }
  | .ok (o, files) =>
    let warned : PortionWalk := (tailWarnings o).foldl (fun w m => w.say cmd m false) { left := input }
    let p := o.portion
    let o := { o with portion := { p with count := if p.reversed then p.count - 1 else p.count } }
    let files := if files.isEmpty then ["-"] else files
    if o.follow && o.byName && files.contains "-" then
      (warned.say cmd ("cannot follow " ++ quote "-" ++ " by name") true).result ws false
    else if o.portion.count == 0 && !o.follow && !o.portion.reversed then warned.result ws false
    else
      let headers := o.headers.getD (files.length > 1)
      let regular := inputSize.isSome
      let w := files.foldl (tailFile cmd o headers regular ws) warned
      -- standard input from a pipe is not followed
      let viable := files.any fun f => f != "-" || regular
      if !(o.follow && viable) then w.result ws false
      else if w.live then { w.result ws false with forever := true }
      else (w.say cmd "no files remaining" true).result ws false

end Tool

end DefUseCoverage.Shell
