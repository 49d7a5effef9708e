import DefUseCoverage.Shell.Tool.Changes
import DefUseCoverage.Shell.Tool.Version
import DefUseCoverage.Shell.Pattern
import DefUseCoverage.Shell.Tool.NameStyles
/-!
# Listing directories

`ls` lists the names in each directory operand (the working directory when there is none),
and names the other operands. Operands that are no directories come first, then each
directory, under a header when there are several operands or `-R` is given; `-R` lists the
directories inside after each, depth first. Blocks are apart by a blank line.

Names starting with `.` are left out unless `-a` (which adds `.` and `..`) or `-A` is given.
They are sorted by their bytes, or newest first (`-t`), largest first (`-S`), by extension
(`-X`), in version order (`-v`), or as made (`-U`, `-f`); `-r` reverses the order.

The layout is one name a line; columns filled downwards (`-C`) or across (`-x`) in 80
characters with tab stops every 8; names apart by commas (`-m`); or the long form (`-l`):
mode, links, owner, group, size, time and name. `-s` and `-i` put the size in blocks and the
file's number before each name, `-F` and `-p` mark directories with `/`.

What the tree does not know is filled in the same way for every file: every file belongs to
`root`, has the usual modes (`rw-r--r--`, directories `rwxr-xr-x`) and the time of the start of
the day, and a file takes its size in 4096-byte blocks.
-/

namespace DefUseCoverage.Shell

namespace Tool

/-- How `ls` lays out names. -/
inductive LsFormat where
  /-- One name a line. -/
  | lines
  /-- Columns filled downwards. -/
  | columns
  /-- Columns filled across. -/
  | across
  /-- Names apart by commas. -/
  | commas
  /-- The long form. -/
  | long
deriving DecidableEq, Repr

/-- The orders of `ls`. -/
inductive LsSort where
  | name
  | time
  | size
  | none
  | extension
  | version
  | width
deriving DecidableEq, Repr

/-- What `ls` writes after a name. -/
inductive Indicator where
  /-- Nothing. -/
  | none
  /-- A `/` after a directory. -/
  | slash
  /-- A `/` after a directory, and the other kinds' marks. -/
  | fileType
  /-- As `fileType`, and a `*` after a program. -/
  | classify
deriving DecidableEq, Repr

/-- The choices of `ls`. -/
structure LsOptions where
  /-- `-a`: every name, `.` and `..` too. -/
  all : Bool := false
  /-- `-A`: every name but `.` and `..`. -/
  almostAll : Bool := false
  /-- `-B`: no names ending in `~`. -/
  noBackups : Bool := false
  /-- Patterns of names left out (`-I`, and `--hide` unless `-a` or `-A`). -/
  ignore : List String := []
  /-- Patterns of names left out unless `-a` or `-A` is given. -/
  hide : List String := []
  /-- `-R`: the directories inside, one after the other. -/
  recursive : Bool := false
  /-- `-d`: directories themselves, not their contents. -/
  directory : Bool := false
  /-- What follows a name. -/
  indicator : Indicator := .none
  /-- `-r`: in reverse order. -/
  reverse : Bool := false
  /-- The order. -/
  sortBy : LsSort := .name
  /-- The layout. -/
  format : LsFormat := .lines
  /-- How names are written (`-N`, `-b`, `-Q`, `--quoting-style`). -/
  style : NameStyle := .literal
  /-- `-q`: characters that do not print written as `?`. -/
  hideControl : Bool := false
  /-- `-i`: each file's number first. -/
  inode : Bool := false
  /-- `-s`: each file's size in blocks first. -/
  blocks : Bool := false
  /-- `-h`: sizes with a unit. -/
  human : Bool := false
  /-- Whether the long form shows the owner. -/
  owner : Bool := true
  /-- Whether the long form shows the group. -/
  group : Bool := true
  /-- `-n`: owners and groups by number. -/
  numeric : Bool := false
  /-- The width of a line. -/
  width : Nat := 80
  /-- The distance of tab stops (0 for none). -/
  tabsize : Nat := 8
  /-- `--group-directories-first`. -/
  dirsFirst : Bool := false
  /-- `--zero`: names ended by a zero byte. -/
  zero : Bool := false

/-- The options of `ls`. -/
def lsOptionSpecs : List OptSpec :=
  let lone (n : String) (t : Takes := .nothing) : OptSpec := { name := n, longs := [n], takes := t }
  [.flag 'a' ["all"], .flag 'b' ["escape"], .flag 'd' ["directory"], .flag 'D' ["dired"],
   lone "full-time", lone "group-directories-first", .flag 'h' ["human-readable"],
   .flag 'i' ["inode"], .flag 'k' ["kibibytes"], .flag 'n' ["numeric-uid-gid"], .flag 'G' ["no-group"],
   .flag 'q' ["hide-control-chars"], .flag 'r' ["reverse"], .flag 's' ["size"],
   { name := "width", letter := some 'w', longs := ["width"], takes := .required },
   .flag 'A' ["almost-all"], .flag 'B' ["ignore-backups"],
   { name := "classify", longs := ["classify"], takes := .optional }, lone "file-type", lone "si",
   .flag 'H' ["dereference-command-line"], lone "dereference-command-line-symlink-to-dir",
   lone "hide" .required, { name := "ignore", letter := some 'I', longs := ["ignore"], takes := .required },
   lone "indicator-style" .required, .flag 'L' ["dereference"], .flag 'N' ["literal"],
   .flag 'Q' ["quote-name"], lone "quoting-style" .required, .flag 'R' ["recursive"],
   lone "format" .required, lone "show-control-chars", lone "sort" .required,
   { name := "tabsize", letter := some 'T', longs := ["tabsize"], takes := .required },
   lone "time" .required, lone "time-style" .required, lone "zero", lone "color" .optional,
   lone "hyperlink" .optional, lone "block-size" .required, .flag 'Z' ["context"], lone "author"] ++
  standardOptions ++
  ("cfglmoptuvxCFSUX1".toList.map fun c => .flag c)

/-- The choices of `--format`. -/
def formatChoices : List (List String) :=
  [["verbose", "long"], ["commas"], ["horizontal", "across"], ["vertical"], ["single-column"]]

/-- The choices of `--sort`. -/
def sortChoices : List (List String) :=
  [["none"], ["time"], ["size"], ["extension"], ["version"], ["width"]]

/-- The choices of `--indicator-style`. -/
def indicatorChoices : List (List String) := [["none"], ["slash"], ["file-type"], ["classify"]]

/-- The choices of `--color` and `--classify`. -/
def whenChoices : List (List String) :=
  [["always", "yes", "force"], ["never", "no", "none"], ["auto", "tty", "if-tty"]]

/-- The choices the options of `ls` make, in order, or a refusal and whether the hint to run
`--help` follows it. -/
def lsChoices (os : Given) : Except (String × Bool) LsOptions :=
  let pick (v option : String) (choices : List (List String)) : Except (String × Bool) String :=
    match pickChoice v option choices with
    | .ok c => .ok (c.headD "")
    | .error m => .error (m, true)
  os.foldlM (fun (o : LsOptions) (n, v) => do
    match n, v with
    | "all", _ => pure { o with all := true, almostAll := false }
    | "almost-all", _ => pure { o with almostAll := true, all := false }
    | "ignore-backups", _ => pure { o with noBackups := true }
    | "ignore", some p => pure { o with ignore := o.ignore ++ [p] }
    | "hide", some p => pure { o with hide := o.hide ++ [p] }
    | "recursive", _ => pure { o with recursive := true }
    | "directory", _ => pure { o with directory := true }
    | "p", _ => pure { o with indicator := .slash }
    | "file-type", _ => pure { o with indicator := .fileType }
    | "F", _ => pure { o with indicator := .classify }
    | "classify", none => pure { o with indicator := .classify }
    | "classify", some w =>
      let c ← pick w "classify" whenChoices
      pure (if c == "always" then { o with indicator := .classify } else { o with indicator := .none })
    | "indicator-style", some w =>
      let c ← pick w "indicator-style" indicatorChoices
      pure { o with indicator := match c with
        | "slash" => .slash
        | "file-type" => .fileType
        | "classify" => .classify
        | _ => .none }
    | "reverse", _ => pure { o with reverse := true }
    | "t", _ => pure { o with sortBy := .time }
    | "S", _ => pure { o with sortBy := .size }
    | "U", _ => pure { o with sortBy := .none }
    | "X", _ => pure { o with sortBy := .extension }
    | "v", _ => pure { o with sortBy := .version }
    | "sort", some w =>
      let c ← pick w "sort" sortChoices
      pure { o with sortBy := match c with
        | "none" => .none
        | "time" => .time
        | "size" => .size
        | "extension" => .extension
        | "version" => .version
        | _ => .width }
    | "f", _ =>
      let format := if o.format == LsFormat.long then LsFormat.lines else o.format
      pure { o with all := true, almostAll := false, sortBy := .none, blocks := false, format := format }
    | "l", _ => pure { o with format := .long }
    | "full-time", _ => pure { o with format := .long }
    | "g", _ => pure { o with format := .long, owner := false }
    | "o", _ => pure { o with format := .long, group := false }
    | "numeric-uid-gid", _ => pure { o with format := .long, numeric := true }
    | "no-group", _ => pure { o with group := false }
    | "1", _ => pure (if o.format == LsFormat.long then o else { o with format := .lines })
    | "C", _ => pure { o with format := .columns }
    | "x", _ => pure { o with format := .across }
    | "m", _ => pure { o with format := .commas }
    | "format", some w =>
      let c ← pick w "format" formatChoices
      pure { o with format := match c with
        | "verbose" => .long
        | "commas" => .commas
        | "horizontal" => .across
        | "vertical" => .columns
        | _ => .lines }
    | "quote-name", _ => pure { o with style := .c }
    | "literal", _ => pure { o with style := .literal }
    | "escape", _ => pure { o with style := .escape }
    | "quoting-style", some w =>
      let c ← pick w "quoting-style" (nameStyles.map fun (n : String × NameStyle) => [n.1])
      let style := ((nameStyles.find? fun (n : String × NameStyle) => n.1 == c).map
        fun (n : String × NameStyle) => n.2).getD NameStyle.literal
      pure { o with style := style }
    | "hide-control-chars", _ => pure { o with hideControl := true }
    | "show-control-chars", _ => pure { o with hideControl := false }
    | "inode", _ => pure { o with inode := true }
    | "size", _ => pure { o with blocks := true }
    | "human-readable", _ => pure { o with human := true }
    | "kibibytes", _ => pure { o with human := false }
    | "width", some w =>
      match w.toNat? with
      | some k => pure { o with width := if k == 0 then 1000000 else k }
      | none => .error ("invalid line width: " ++ quoteArg w, false)
    | "tabsize", some w =>
      match w.toNat? with
      | some k => pure { o with tabsize := k }
      | none => .error ("invalid tab size: " ++ quoteArg w, false)
    | "group-directories-first", _ => pure { o with dirsFirst := true }
    | "zero", _ => pure { o with zero := true }
    | "color", some w => do
      let _ ← pick w "color" whenChoices
      pure o
    | "time", some w => do
      let _ ← pick w "time" [["atime", "access", "use"], ["ctime", "status"], ["mtime", "modification"], ["birth", "creation"]]
      pure o
    | _, _ => pure o) {} |>.map fun (o : LsOptions) =>
      if (os.has "c" || os.has "u") && o.sortBy == LsSort.name && o.format != LsFormat.long then { o with sortBy := .time } else o

/-- A file `ls` lists: the name it shows and where it stands. -/
structure Listed where
  /-- The name as given or found. -/
  name : String
  /-- Its path. -/
  path : AbsPath

/-- The size of what stands at a path, in bytes. -/
def nodeSize (ws : Workspace) (p : AbsPath) : Nat :=
  match ws.node? p with
  | some (.file bs) => bs.length
  | some .dir => 4096
  | _ => 0

/-- The blocks of 1024 bytes a file takes: its size in 4096-byte blocks. -/
def nodeBlocks (ws : Workspace) (p : AbsPath) : Nat :=
  match ws.node? p with
  | some (.file bs) => (bs.length + 4095) / 4096 * 4
  | some .dir => 4
  | _ => 0

/-- The extension of a name: what follows its last dot, if any. -/
def extensionOf (name : String) : String :=
  match (name.splitOn ".").reverse with
  | ext :: _ :: _ => ext
  | _ => ""

/-- Files in the order `ls` lists them; `-r` reverses every order but `-U`. -/
def LsOptions.order (o : LsOptions) (ws : Workspace) (files : List Listed) : List Listed :=
  let byName := files.mergeSort (fun a b => decide (a.name ≤ b.name))
  let made (p : AbsPath) : Nat := (ws.nodes.findIdx? (·.1 == p)).getD 0
  let sorted := match o.sortBy with
    | .time => files.mergeSort (fun a b => made a.path ≥ made b.path)
    | .size => byName.mergeSort (fun a b => nodeSize ws a.path ≥ nodeSize ws b.path)
    | .extension => byName.mergeSort (fun a b => decide (extensionOf a.name ≤ extensionOf b.name))
    | .version => byName.mergeSort (fun a b => versionCompare (bytes a.name) (bytes b.name) != .gt)
    | .width => byName.mergeSort (fun a b => (bytes a.name).length ≤ (bytes b.name).length)
    | .none => files
    | .name => byName
  let sorted := if o.reverse && o.sortBy != .none then sorted.reverse else sorted
  if o.dirsFirst then
    sorted.filter (fun f => ws.node? f.path == some .dir) ++ sorted.filter (fun f => ws.node? f.path != some .dir)
  else sorted

/-- Whether a name matches a pattern of `-I` or `--hide`: a leading dot only by a dot. -/
def namePatternMatch (pattern name : String) : Bool :=
  let items := globOf (pattern.toList.map fun c => (c, false))
  if name.startsWith "." && items.head? != some (.lit '.') then false
  else globMatch items name.toList

/-- The files in a directory that `ls` lists, in order. -/
def lsEntries (ws : Workspace) (o : LsOptions) (dir : AbsPath) : List Listed :=
  let names := ws.children dir
  let names := if o.all || o.almostAll then names else names.filter (!·.startsWith ".")
  let names := if o.noBackups then names.filter (!·.endsWith "~") else names
  let names := names.filter fun n => !(o.ignore.any fun p => namePatternMatch p n)
  let names := if o.all || o.almostAll then names else names.filter fun n => !(o.hide.any fun p => namePatternMatch p n)
  let entries := o.order ws (names.map fun n => { name := n, path := dir ++ [n] })
  if o.all then
    let dots : List Listed := [{ name := ".", path := dir }, { name := "..", path := dir.dropLast }]
    if o.reverse && o.sortBy != .none then entries ++ dots.reverse else dots ++ entries
  else entries

/-- A size with a unit, as `-h` writes it: rounded up, one decimal below ten. -/
def humanSize (n : Nat) : String :=
  let units := ["K", "M", "G", "T", "P", "E", "Z", "Y"]
  let rec scale : Nat → Nat → Nat → String
    | 0, _, _ => toString n
    | k + 1, power, i =>
      let next := power * 1024
      if n ≥ next * 1024 && i + 1 < units.length then scale k next (i + 1)
      else
        let tenths := (n * 10 + next - 1) / next
        if tenths < 100 then toString (tenths / 10) ++ "." ++ toString (tenths % 10) ++ units.getD i ""
        else
          let whole := (n + next - 1) / next
          if whole ≥ 1024 && i + 1 < units.length then "1.0" ++ units.getD (i + 1) ""
          else toString whole ++ units.getD i ""
  if n < 1024 then toString n else scale units.length 1 0

/-- Text padded with blanks on the left to a width. -/
def padLeft (w : Nat) (s : String) : String := String.ofList (List.replicate (w - s.length) ' ') ++ s

/-- Text padded with blanks on the right to a width. -/
def padRight (w : Nat) (s : String) : String := s ++ String.ofList (List.replicate (w - s.length) ' ')

/-- The number of links of what stands at a path: a directory has one for itself, one from its
parent and one from each directory inside. -/
def linkCount (ws : Workspace) (p : AbsPath) : Nat :=
  match ws.node? p with
  | some .dir => 2 + ((ws.children p).filter fun n => ws.node? (p ++ [n]) == some .dir).length
  | _ => 1

/-- The number `-i` shows for a file. -/
def fileNumber (ws : Workspace) (p : AbsPath) : Nat :=
  if p.isEmpty then 2 else 1000 + (ws.nodes.findIdx? (·.1 == p)).getD 0

/-- A name in the style of the options, the marks of `-F` or `--file-type` and the characters
`extra` escaped where the style escapes. -/
def LsOptions.styled (o : LsOptions) (extra : List Char) (name : String) : String :=
  let marks := match o.indicator with
    | .fileType => "*=>@|".toList
    | .classify => "=>@|".toList
    | _ => []
  let text := styledName o.style (extra ++ marks) name
  if o.hideControl then hideUnprintable text else text

/-- A file's name as `ls` writes it, with what follows it. -/
def LsOptions.shown (o : LsOptions) (ws : Workspace) (f : Listed) : String :=
  let name := o.styled [] f.name
  if o.indicator != .none && ws.node? f.path == some .dir then name ++ "/" else name

/-- The size column of a file: bytes (or with a unit), or a device's numbers. -/
def LsOptions.sizeText (o : LsOptions) (ws : Workspace) (f : Listed) : String :=
  match ws.node? f.path with
  | some .sink => "1, 3"
  | _ => if o.human then humanSize (nodeSize ws f.path) else toString (nodeSize ws f.path)

/-- The blocks column of a file. -/
def LsOptions.blocksText (o : LsOptions) (ws : Workspace) (f : Listed) : String :=
  let k := nodeBlocks ws f.path
  if o.human then humanSize (k * 1024) else toString k

/-- The mode text of what stands at a path. -/
def modeText (ws : Workspace) (p : AbsPath) : String :=
  match ws.node? p with
  | some .dir => "drwxr-xr-x"
  | some .sink => "crw-rw-rw-"
  | _ => "-rw-r--r--"

/-- The lines of the long form of files. -/
def LsOptions.longLines (o : LsOptions) (ws : Workspace) (files : List Listed) : List String :=
  let who := if o.numeric then "0" else "root"
  let inodes := files.map fun f => toString (fileNumber ws f.path)
  let blocks := files.map fun f => o.blocksText ws f
  let links := files.map fun f => toString (linkCount ws f.path)
  let sizes := files.map fun f => o.sizeText ws f
  let widest (xs : List String) : Nat := xs.foldl (fun m s => max m s.length) 0
  let (wi, wb, wl, ws') := (widest inodes, widest blocks, widest links, widest sizes)
  (files.zip (inodes.zip (blocks.zip (links.zip sizes)))).map fun (f, i, b, l, s) =>
    (if o.inode then padLeft wi i ++ " " else "") ++ (if o.blocks then padLeft wb b ++ " " else "") ++
      modeText ws f.path ++ " " ++ padLeft wl l ++ " " ++ (if o.owner then who ++ " " else "") ++
      (if o.group then who ++ " " else "") ++ padLeft ws' s ++ " Jan  1 00:00 " ++ o.shown ws f

/-- The prefix of a name in the short forms: its number and its blocks, as asked. -/
def LsOptions.prefixes (o : LsOptions) (ws : Workspace) (files : List Listed) : List String :=
  let inodes := files.map fun f => toString (fileNumber ws f.path)
  let blocks := files.map fun f => o.blocksText ws f
  let widest (xs : List String) : Nat := xs.foldl (fun m s => max m s.length) 0
  let (wi, wb) := (widest inodes, widest blocks)
  (inodes.zip blocks).map fun (i, b) =>
    (if o.inode then padLeft wi i ++ " " else "") ++ (if o.blocks then padLeft wb b ++ " " else "")

/-- Blanks from one column to another, with tabs where a tab stop is passed. The fuel bounds
the steps. -/
def indentText (tabsize : Nat) : Nat → Nat → Nat → String
  | 0, _, _ => ""
  | k + 1, here, goal =>
    if here ≥ goal then ""
    else if tabsize != 0 && goal / tabsize > (here + 1) / tabsize then
      "\t" ++ indentText tabsize k (here + tabsize - here % tabsize) goal
    else " " ++ indentText tabsize k (here + 1) goal

/-- The widths of the columns when items of these widths are laid out in `cols` columns,
downwards or across; each column but the last is two wider than its widest item. -/
def columnWidths (across : Bool) (widths : List Nat) (cols : Nat) : List Nat :=
  let n := widths.length
  let rows := (n + cols - 1) / cols
  widths.zipIdx.foldl (fun (acc : List Nat) (w, k) =>
    let col := if across then k % cols else k / rows
    let real := w + (if col + 1 == cols then 0 else 2)
    acc.set col (max (acc.getD col 3) real)) (List.replicate cols 3)

/-- The most columns that fit items of these widths in a line of a width, at least one. -/
def columnCount (across : Bool) (width : Nat) (widths : List Nat) : Nat :=
  let most := min (max (width / 3) 1) widths.length
  let fits (cols : Nat) : Bool := (columnWidths across widths cols).foldl (· + ·) 0 < width
  ((List.range most).reverse.map (· + 1)).find? fits |>.getD 1

/-- Items laid out in columns: downwards, or `across`. -/
def columnLines (across : Bool) (width tabsize : Nat) (items : List (String × Nat)) : String :=
  if items.isEmpty then ""
  else
    let widths := items.map (·.2)
    let cols := columnCount across width widths
    let colW := columnWidths across widths cols
    let n := items.length
    let rows := (n + cols - 1) / cols
    let arr := items.toArray
    let rowLine (r : Nat) : String :=
      let idxs := (List.range cols).filterMap fun c =>
        let k := if across then r * cols + c else c * rows + r
        if k < n then some (c, k) else none
      let (out, _) := idxs.zipIdx.foldl (fun (acc : String × Nat) ((c, k), j) =>
        let (out, pos) := acc
        let (text, w) := arr[k]?.getD ("", 0)
        let out := out ++ text
        if j + 1 == idxs.length then (out, pos)
        else
          let target := pos + colW.getD c 0
          (out ++ indentText tabsize (target + 1) (pos + w) target, target)) ("", 0)
      out ++ "\n"
    String.join ((List.range rows).map rowLine)

/-- Names apart by commas, as `-m` writes them: a line is broken before a name that would reach
the last column. -/
def commaLines (width : Nat) (items : List (String × Nat)) : String :=
  let (out, _) := items.zipIdx.foldl (fun (acc : String × Nat) ((n, len), i) =>
    let (out, pos) := acc
    if i == 0 then (out ++ n, len)
    else if pos + len + 2 < width then (out ++ ", " ++ n, pos + 2 + len)
    else (out ++ ",\n" ++ n, len)) ("", 0)
  if items.isEmpty then "" else out ++ "\n"

/-- The text of a block of files in the chosen layout. -/
def LsOptions.blockText (o : LsOptions) (ws : Workspace) (files : List Listed) : String :=
  let ending := if o.zero then "\x00" else "\n"
  match o.format with
  | .long => String.join ((o.longLines ws files).map (· ++ ending))
  | fmt =>
    let items := (o.prefixes ws files).zip (files.map fun f => o.shown ws f) |>.map fun (p, s) =>
      let t := p ++ s
      (t, displayWidth t)
    match fmt with
    | .columns => columnLines false o.width o.tabsize items
    | .across => columnLines true o.width o.tabsize items
    | .commas => commaLines o.width items
    | _ => String.join (items.map (·.1 ++ ending))

/-- The blocks of a directory listing: the directory's text and its files; with `-R` the
directories inside follow, each fully, in order. The fuel bounds the depth. -/
def lsTree (ws : Workspace) (o : LsOptions) : Nat → String → AbsPath → List (String × List Listed)
  | 0, _, _ => []
  | k + 1, text, dir =>
    let entries := lsEntries ws o dir
    let inner := if !o.recursive then []
      else (entries.filter fun f => f.name != "." && f.name != ".." && ws.node? f.path == some .dir).flatMap
        fun f => lsTree ws o k (joinName text f.name) f.path
    (text, entries) :: inner

/-- `ls [OPTION]... [FILE]...`. -/
def ls (cmd : String) (args : List String) (ws : Workspace) : ToolRun :=
  let r := readOptions lsOptionSpecs false args
  let refuse (msg : String) (hint : Bool) (status : Nat) : ToolRun :=
    { ws := ws, err := bytes (cmd ++ ": " ++ msg ++ "\n" ++ (if hint then tryHelp cmd else "")), status := status }
  match lsChoices r.given, r.error with
  | .error (msg, hint), _ => refuse msg hint (if hint then 1 else 2)
  | .ok _, some e => refuse e.text true 2
  | .ok o, none =>
    let ops := if r.operands.isEmpty then ["."] else r.operands
    let found := ops.map fun d => (d, nodeAt ws d)
    let errors := found.filterMap fun (d, r) => match r with
      | .error e => some (errLine cmd ("cannot access " ++ quote d ++ ": " ++ IoError.text e))
      | .ok _ => none
    let good : List (Listed × Node) := found.filterMap fun (d, r) => match r with
      | .ok (p, n) => some ({ name := d, path := p }, n)
      | .error _ => none
    let sorted := (o.order ws (good.map (·.1))).filterMap fun f => good.find? (·.1.name == f.name)
    let files := (sorted.filter fun (_, n) => n != .dir || o.directory).map (·.1)
    let dirs := (sorted.filter fun (_, n) => n == .dir && !o.directory).map (·.1)
    let blocks := dirs.flatMap fun f => lsTree ws o (f.path.length + ws.nodes.length + 2) f.name f.path
    let headers := ops.length > 1 || o.recursive
    let totals := o.format == LsFormat.long || o.blocks
    let texts := blocks.map fun (d, entries) =>
      let total := (entries.map fun f => nodeBlocks ws f.path).foldl (· + ·) 0
      (if headers then o.styled [':'] d ++ ":\n" else "") ++
        (if totals then "total " ++ (if o.human then humanSize (total * 1024) else toString total) ++ "\n" else "") ++
        o.blockText ws entries
    let parts := (if files.isEmpty then [] else [o.blockText ws files]) ++ texts
    { ws := ws, out := bytes ("\n".intercalate parts), err := errors.flatten, status := if errors.isEmpty then 0 else 2 }

end Tool

end DefUseCoverage.Shell
