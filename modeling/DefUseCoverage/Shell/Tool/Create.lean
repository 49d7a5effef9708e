import DefUseCoverage.Shell.Tool.Changes
/-!
# Making directories and files

`mkdir` makes each directory it is given; its parent must exist, and nothing may stand at the
name. With `-p` the directories on the way are made first, one for each component of the name,
and a directory that already stands at a name is accepted. `-v` prints each directory made, and
`-m` sets the mode of the new directories (symbolic like `u+rwx,go-w`, or octal up to `7777`).

`touch` makes an empty file at each name where nothing stands (not with `-c`), and otherwise
only sets the times of what is there. The times come from now, from `-d DATE`, from
`-t [[CC]YY]MMDDhhmm[.ss]`, or from the file given with `-r`.
-/

namespace DefUseCoverage.Shell

namespace Tool

/-- The permission letters of a symbolic mode. -/
def permLetters : List Char := ['r', 'w', 'x', 'X', 's', 't']

/-- Reads the actions of one clause of a symbolic mode (after its `ugoa` letters): one or more
of an operator `+`, `-` or `=` followed by permission letters or by one of `u`, `g`, `o`;
returns what follows them. The fuel bounds the actions. -/
def modeActions : Nat → List Char → Option (List Char)
  | 0, _ => none
  | k + 1, op :: rest =>
    if op == '+' || op == '-' || op == '=' then
      let rest := match rest with
        | c :: more => if c == 'u' || c == 'g' || c == 'o' then more else rest.dropWhile permLetters.contains
        | [] => []
      match rest with
      | c :: _ => if c == '+' || c == '-' || c == '=' then modeActions k rest else some rest
      | [] => some []
    else none
  | _, [] => none

/-- Whether the clauses of a symbolic mode, apart by commas, are all well formed. The fuel
bounds the clauses. -/
def modeClauses : Nat → List Char → Bool
  | 0, _ => false
  | k + 1, cs =>
    let afterWho := cs.dropWhile fun c => c == 'u' || c == 'g' || c == 'o' || c == 'a'
    match modeActions (afterWho.length + 1) afterWho with
    | some [] => true
    | some (',' :: more) => modeClauses k more
    | _ => false

/-- Whether a mode is one `chmod` and `mkdir -m` accept: octal digits worth at most `7777`, or
symbolic clauses. -/
def validMode (s : String) : Bool :=
  let cs := s.toList
  match cs with
  | c :: _ =>
    if '0' ≤ c && c ≤ '7' then
      let value := cs.foldl (fun (acc : Option Nat) d => acc.bind fun v =>
        let v := v * 8 + (d.toNat - 48)
        if v > 4095 then none else some v) (some 0)
      cs.all (fun d => '0' ≤ d && d ≤ '7') && value.isSome
    else modeClauses (cs.length + 1) cs
  | [] => false

/-- The options of `mkdir`. -/
def mkdirOptions : List OptSpec :=
  [{ name := "context", letter := some 'Z', longs := ["context"], takes := .optional },
   { name := "mode", letter := some 'm', longs := ["mode"], takes := .required },
   .flag 'p' ["parents"], .flag 'v' ["verbose"]] ++ standardOptions

/-- The texts of the directories on the way to a name: the name up to the end of each of its
components but the last. -/
def ancestorTexts (s : String) : List String :=
  let cs := s.toList
  let ends := (List.range cs.length).filter fun i =>
    cs.getD i '/' != '/' && cs.getD (i + 1) '/' == '/'
  (ends.dropLast).map fun i => String.ofList (cs.take (i + 1))

namespace Changing

/-- Makes the directory a text names; with `parents` a directory already there is accepted. -/
def makeDir (c : Changing) (verbose parents : Bool) (d : String) : Changing :=
  match c.ws.target d >>= c.ws.mkdir with
  | .ok w =>
    let c := { c with ws := w }
    if verbose then c.say (c.cmd ++ ": created directory " ++ quote d) else c
  | .error e =>
    let isDir := match c.ws.target d >>= c.ws.lookup with
      | .ok (some .dir) => true
      | _ => false
    if parents && e == .alreadyExists && isDir then c
    else c.complain ("cannot create directory " ++ quoteArg d ++ ": " ++ IoError.text e)

/-- Makes the directories on the way to a name, then the name; stops at the first failure. -/
def makeDirParents (c : Changing) (verbose : Bool) (d : String) : Changing :=
  let step (acc : Changing × Bool) (a : String) : Changing × Bool :=
    let (c, ok) := acc
    if !ok then acc
    else
      match c.ws.target a >>= c.ws.lookup with
      | .ok (some .dir) => (c, true)
      | .ok (some _) => (c.complain ("cannot create directory " ++ quoteArg a ++ ": Not a directory"), false)
      | _ =>
        let c2 := c.makeDir verbose true a
        (c2, !c2.failed || c.failed)
  let (c, ok) := (ancestorTexts d).foldl step (c, true)
  if ok then c.makeDir verbose true d else c

end Changing

/-- `mkdir [-p] [-v] [-m MODE] DIRECTORY...`. -/
def mkdir (cmd : String) (args : List String) (ws : Workspace) : ToolRun :=
  let r := readOptions mkdirOptions false args
  let c : Changing := { ws := ws, cmd := cmd }
  match r.error with
  | some e => c.usage e.text
  | none =>
    let parents := r.given.has "parents"
    let verbose := r.given.has "verbose"
    if r.operands.isEmpty then c.usage "missing operand"
    else
      match r.given.last "mode" with
      | some m =>
        if !validMode m then { c.finish with err := bytes (cmd ++ ": invalid mode " ++ quoteArg m ++ "\n"), status := 1 }
        else (r.operands.foldl (fun c d => if parents then c.makeDirParents verbose d else c.makeDir verbose false d) c).finish
      | none =>
        (r.operands.foldl (fun c d => if parents then c.makeDirParents verbose d else c.makeDir verbose false d) c).finish

/-- The number a run of digits stands for. -/
def digitsValue (ds : List Char) : Nat := ds.foldl (fun a c => a * 10 + (c.toNat - 48)) 0

/-- The days of a month of a year. -/
def daysIn (year month : Nat) : Nat :=
  if month == 2 then (if year % 4 == 0 && (year % 100 != 0 || year % 400 == 0) then 29 else 28)
  else if [4, 6, 9, 11].contains month then 30 else 31

/-- Whether a `touch -t` stamp is well formed: `[[CC]YY]MMDDhhmm[.ss]`, a real date and time. -/
def validStamp (s : String) : Bool :=
  let cs := s.toList
  let (main, secs) := match cs.reverse with
    | b :: a :: '.' :: rest => (rest.reverse, some [a, b])
    | _ => (cs, none)
  let secsOk := match secs with
    | some ds => ds.all Char.isDigit && digitsValue ds ≤ 60
    | none => !cs.contains '.'
  if !secsOk || !main.all Char.isDigit then false
  else
    let n := main.length
    if n != 8 && n != 10 && n != 12 then false
    else
      let yearDigits := main.take (n - 8)
      let rest := main.drop (n - 8)
      let year := if yearDigits.length == 4 then digitsValue yearDigits
        else if yearDigits.length == 2 then
          (let y := digitsValue yearDigits; if y < 69 then 2000 + y else 1900 + y)
        else 2000
      let month := digitsValue (rest.take 2)
      let day := digitsValue ((rest.drop 2).take 2)
      let hour := digitsValue ((rest.drop 4).take 2)
      let minute := digitsValue ((rest.drop 6).take 2)
      1 ≤ month && month ≤ 12 && 1 ≤ day && day ≤ daysIn year month && hour ≤ 23 && minute ≤ 59

/-- The words a date may hold, and the words of four letters or more that may be cut to
their first three. -/
def dateWords : List String :=
  ["january", "february", "march", "april", "may", "june", "july", "august", "september",
   "sept", "october", "november", "december", "sunday", "monday", "tuesday", "tues", "wednesday",
   "wednes", "thursday", "thur", "thurs", "friday", "saturday", "year", "month", "fortnight",
   "week", "day", "hour", "minute", "min", "second", "sec", "years", "months", "fortnights",
   "weeks", "days", "hours", "minutes", "mins", "seconds", "secs", "tomorrow", "yesterday",
   "today", "now", "ago", "last", "this", "next", "first", "third", "fourth", "fifth", "sixth",
   "seventh", "eighth", "ninth", "tenth", "eleventh", "twelfth", "am", "pm", "a.m.", "p.m.",
   "utc", "ut", "gmt", "z", "wet", "west", "bst", "art", "brt", "brst", "nst", "ndt", "ast",
   "adt", "est", "edt", "cst", "cdt", "mst", "mdt", "pst", "pdt", "akst", "akdt", "hst", "hast",
   "hadt", "sst", "wat", "cet", "cest", "met", "mez", "mest", "mesz", "eet", "eest", "cat",
   "sast", "eat", "msk", "msd", "ist", "sgt", "kst", "jst", "gst", "nzst", "nzdt", "dst", "t"]

/-- Whether a word may stand in a date: a word of the table, the first three letters of one
of four letters or more, or one letter other than `j` (a military time zone). -/
def dateWord (w : String) : Bool :=
  let w := w.toLower
  dateWords.contains w || (w.length == 1 && w != "j") ||
    (w.length == 3 && dateWords.any fun d => d.length ≥ 4 && d.take 3 == w)

/-- Whether a `touch -d` date may be read: its words are date words, and a date written with
`/` or `-` between numbers has a month of at most 12 and a day of at most 31. -/
def validDate (s : String) : Bool :=
  let cs := s.toList
  let words := (String.ofList (cs.map fun c => if c.isAlpha || c == '.' then c else ' ')).splitOn " "
  let wordsOk := words.all fun w =>
    let w := String.ofList (w.toList.filter Char.isAlpha)
    w.isEmpty || dateWord w
  let numbers (sep : Char) : List Nat :=
    ((s.splitOn " ").filter (·.toList.contains sep)).headD "" |>.splitOn sep.toString |>.map fun p => digitsValue (p.toList.filter Char.isDigit)
  let slashOk := match numbers '/' with
    | [m, d] | [m, d, _] => 1 ≤ m && m ≤ 12 && 1 ≤ d && d ≤ 31
    | _ => true
  let dashOk := if s.startsWith "-" then true else match numbers '-' with
    | [_, m, d] => 1 ≤ m && m ≤ 12 && 1 ≤ d && d ≤ 31
    | _ => true
  wordsOk && slashOk && dashOk

/-- The options of `touch`. -/
def touchOptions : List OptSpec :=
  [{ name := "time", longs := ["time"], takes := .required }, .flag 'c' ["no-create"],
   { name := "date", letter := some 'd', longs := ["date"], takes := .required },
   { name := "reference", letter := some 'r', longs := ["reference"], takes := .required },
   .flag 'h' ["no-dereference"]] ++ standardOptions ++
  [.flag 'a', .flag 'f', .flag 'm', { name := "stamp", letter := some 't', takes := .required }]

/-- The choices of `--time`. -/
def timeChoices : List (List String) := [["atime", "access", "use"], ["mtime", "modify"]]

/-- The first error among the options of `touch`, in order: a bad stamp or `--time` value. -/
def touchOptionError (os : Given) : Option String :=
  os.findSome? fun (n, v) =>
    match n, v with
    | "stamp", some t => if validStamp t then none else some ("invalid date format " ++ quoteArg t)
    | "time", some t =>
      match pickChoice t "time" timeChoices with
      | .error m => some m
      | .ok _ => none
    | _, _ => none

namespace Changing

/-- Touches one name: makes an empty file where nothing stands (unless `noCreate`). -/
def touchOne (c : Changing) (noCreate : Bool) (f : String) : Changing :=
  match c.ws.target f with
  | .error e => if noCreate then c else c.complain ("cannot touch " ++ quote f ++ ": " ++ IoError.text e)
  | .ok p =>
    match c.ws.lookup p with
    | .ok (some n) =>
      if f.endsWith "/" && n != .dir then c.complain ("setting times of " ++ quote f ++ ": Not a directory")
      else c
    | .ok none =>
      if f.endsWith "/" then
        if noCreate then c else c.complain ("setting times of " ++ quote f ++ ": No such file or directory")
      else if noCreate then c
      else { c with ws := c.ws.put p (.file []) }
    | .error e =>
      if noCreate then
        if e == .notFound then c else c.complain ("setting times of " ++ quote f ++ ": " ++ IoError.text e)
      else c.complain ("cannot touch " ++ quote f ++ ": " ++ IoError.text e)

end Changing

/-- `touch [-acm] [-d DATE | -t STAMP | -r FILE] FILE...`. -/
def touch (cmd : String) (args : List String) (ws : Workspace) : ToolRun :=
  let r := readOptions touchOptions false args
  let c : Changing := { ws := ws, cmd := cmd }
  let fatal (msg : String) : ToolRun := { c.finish with err := bytes (cmd ++ ": " ++ msg ++ "\n"), status := 1 }
  match touchOptionError r.given, r.error with
  | some msg, _ =>
    if msg.startsWith "invalid date" then fatal msg else c.usage msg
  | none, some e => c.usage e.text
  | none, none =>
    let os := r.given
    if os.has "stamp" && (os.has "reference" || os.has "date") then
      c.usage "cannot specify times from more than one source"
    else
      let refError := (os.last "reference").bind fun f =>
        match nodeAt ws f with
        | .ok _ => none
        | .error e => some ("failed to get attributes of " ++ quote f ++ ": " ++ IoError.text e)
      match refError with
      | some msg => fatal msg
      | none =>
        match os.last "date" with
        | some d =>
          if !validDate d then fatal ("invalid date format " ++ quoteArg d)
          else if r.operands.isEmpty then c.usage "missing file operand"
          else (r.operands.foldl (fun c f => c.touchOne (os.has "no-create") f) c).finish
        | none =>
          if r.operands.isEmpty then c.usage "missing file operand"
          else (r.operands.foldl (fun c f => c.touchOne (os.has "no-create") f) c).finish

end Tool

end DefUseCoverage.Shell
