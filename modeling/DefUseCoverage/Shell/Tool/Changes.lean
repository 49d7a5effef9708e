import DefUseCoverage.Shell.Tool.Names
/-!
# Utilities that change the file tree

`cp`, `mv`, `rm`, `rmdir`, `mkdir` and `touch` work through their operands one by one. Each
step may change the tree, print a line (with `-v`), print an error and mark the run failed, or
ask a question on standard error and read the answer from standard input. A failure does
not stop the run: the other operands are still handled, and the status is 1 at the end.

An answer is one line of standard input; it is yes when it starts with `y` or `Y`. At the
end of the input every answer is no.
-/

namespace DefUseCoverage.Shell

namespace Tool

/-- A directory text with a name appended, with one separator. -/
def joinName (dir name : String) : String := if dir.endsWith "/" then dir ++ name else dir ++ "/" ++ name

/-- A utility that changes the tree, part way through. -/
structure Changing where
  /-- The tree so far. -/
  ws : Workspace
  /-- The name the program was started by. -/
  cmd : String
  /-- Its standard output so far. -/
  out : String := ""
  /-- Its standard error so far. -/
  err : String := ""
  /-- Whether a step failed. -/
  failed : Bool := false
  /-- Its standard input not yet read. -/
  input : List UInt8 := []
  /-- Whether it read its standard input. -/
  asked : Bool := false

namespace Changing

/-- Prints a line on standard output. -/
def say (c : Changing) (line : String) : Changing := { c with out := c.out ++ line ++ "\n" }

/-- Prints an error line, the program's name first, and marks the run failed. -/
def complain (c : Changing) (msg : String) : Changing :=
  { c with err := c.err ++ c.cmd ++ ": " ++ msg ++ "\n", failed := true }

/-- Prints a line on standard error, the program's name first, without failing. -/
def warn (c : Changing) (msg : String) : Changing := { c with err := c.err ++ c.cmd ++ ": " ++ msg ++ "\n" }

/-- Asks a question (the program's name first, no newline after) and reads the answer: yes
when the line read starts with `y` or `Y`. -/
def ask (c : Changing) (question : String) : Changing × Bool :=
  let line := c.input.takeWhile (· != 10)
  let rest := c.input.drop (line.length + 1)
  let yes := line.head? == some 121 || line.head? == some 89
  ({ c with err := c.err ++ c.cmd ++ ": " ++ question ++ " ", input := rest, asked := true }, yes)

/-- The run as a utility's result. -/
def finish (c : Changing) : ToolRun :=
  { ws := c.ws, out := bytes c.out, err := bytes c.err, status := if c.failed then 1 else 0,
    readsInput := c.asked }

end Changing

/-- A usage error of a utility that changes the tree, after what it printed before. -/
def Changing.usage (c : Changing) (msg : String) : ToolRun :=
  { c.finish with err := bytes (c.err ++ c.cmd ++ ": " ++ msg ++ "\n" ++ tryHelp c.cmd), status := 1 }

end Tool

end DefUseCoverage.Shell
