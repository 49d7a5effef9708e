import DefUseCoverage.Cli.Run
/-!
# The command-line program

The program works in its working directory: the files under it are read into a file tree, the
program runs on that tree with its arguments and the assembly named by the environment
variable `DUGEN_ASSEMBLY`, and the files it made, changed or removed are written back. What it
printed goes to standard output and standard error, and its status is the exit status.
-/

/-- The files under a directory, by path relative to the directory. -/
partial def readTree (dir rel : String) : IO (List (String × List UInt8)) := do
  let entries ← (System.mkFilePath [dir]).readDir
  let mut found := []
  for e in entries.toList do
    let path := dir ++ "/" ++ e.fileName
    let relPath := if rel.isEmpty then e.fileName else rel ++ "/" ++ e.fileName
    if ← (System.mkFilePath [path]).isDir then
      found := found ++ (← readTree path relPath)
    else
      let bytes ← IO.FS.readBinFile path
      found := found ++ [(relPath, bytes.toList)]
  pure found

/-- Writes back the files a run made, changed or removed. -/
def writeBack (before after : List (String × List UInt8)) : IO Unit := do
  for (rel, bytes) in after do
    if before.lookup rel != some bytes then
      match DefUseCoverage.PathText.parent? rel with
      | some d => if !d.isEmpty then IO.FS.createDirAll d
      | none => pure ()
      IO.FS.writeBinFile rel (ByteArray.mk bytes.toArray)
  for (rel, _) in before do
    if (after.lookup rel).isNone then IO.FS.removeFile rel

/-- Runs the program in the working directory. -/
def main (args : List String) : IO UInt32 := do
  let env ← IO.getEnv "DUGEN_ASSEMBLY"
  let before ← readTree "." ""
  let out := DefUseCoverage.Cli.run args env (DefUseCoverage.Workspace.withFiles before)
  IO.print out.stdout
  IO.eprint out.stderr
  writeBack before out.ws.files
  pure out.status.toUInt32
