/-!
# Shell commands

The command language of the POSIX shell, as far as engine commands use it: words made of
literal text, parameters, command substitutions and arithmetic; redirections, here-documents,
pipelines, `&&`/`||` lists, background jobs, `if`, `while`/`until`, `for`, `case`, groups,
subshells and functions.

Every piece of a word records whether it stood inside double quotes: quoted pieces are never
split into fields, and a word with a quoted piece always gives a field, even an empty one.
-/

namespace DefUseCoverage.Shell

/-- How a parameter is expanded. -/
inductive ParamForm where
  /-- Its value. -/
  | plain
  /-- Its length in characters. -/
  | length
  /-- The word when the parameter is unset (or null, with the colon). -/
  | orElse (colon : Bool)
  /-- The word, also assigned, when the parameter is unset (or null, with the colon). -/
  | assign (colon : Bool)
  /-- The word when the parameter is set (and not null, with the colon). -/
  | ifSet (colon : Bool)
  /-- An error with the word as message when the parameter is unset (or null). -/
  | required (colon : Bool)
  /-- The value without its shortest (or longest) prefix matching the word. -/
  | dropPrefix (longest : Bool)
  /-- The value without its shortest (or longest) suffix matching the word. -/
  | dropSuffix (longest : Bool)
  /-- A form the shell cannot expand: expanding it is an error. -/
  | bad
deriving DecidableEq, Repr

/-- Where a redirection sends or takes a descriptor. -/
inductive RedirMode where
  /-- Read from a file. -/
  | read
  /-- Write a file, emptied first; refused for an existing file under `set -C`. -/
  | write
  /-- Write a file, emptied first, even under `set -C` (`>|`). -/
  | clobber
  /-- Write at the end of a file. -/
  | append
  /-- Open a file for reading and writing. -/
  | readWrite
deriving DecidableEq, Repr

mutual

/-- A piece of a word. -/
inductive Part where
  /-- Literal text; `quoted` when it stood in quotes or after a backslash. -/
  | text (s : String) (quoted : Bool)
  /-- A parameter: a name, a position or one of `@ * # ? - $ ! 0`. -/
  | param (name : String) (form : ParamForm) (word : List Part) (quoted : Bool)
  /-- The output of a command, without its trailing newlines. -/
  | subst (body : Cmd) (quoted : Bool)
  /-- An arithmetic expression, expanded first. -/
  | arith (expr : List Part) (quoted : Bool)

/-- A redirection of a descriptor. -/
inductive Redir where
  /-- To or from a file. -/
  | file (fd : Nat) (mode : RedirMode) (target : List Part)
  /-- A copy of another descriptor, or closed when the target is `-`. -/
  | dup (fd : Nat) (target : List Part)
  /-- Standard input from a here-document's text. -/
  | here (fd : Nat) (body : List Part)

/-- A command. -/
inductive Cmd where
  /-- Nothing. -/
  | empty
  /-- Assignments, words and redirections, on a line of the script. -/
  | simple (line : Nat) (assigns : List (String × List Part)) (words : List (List Part))
      (redirs : List Redir)
  /-- One command, then the other. -/
  | seq (first second : Cmd)
  /-- A command left running in the background. -/
  | background (body : Cmd)
  /-- The second command only if the first succeeds. -/
  | andThen (first second : Cmd)
  /-- The second command only if the first fails. -/
  | orElse (first second : Cmd)
  /-- Commands joined by pipes. -/
  | pipeline (stages : List Cmd)
  /-- The command's status inverted. -/
  | negate (body : Cmd)
  /-- A conditional. -/
  | ifThen (cond thenPart elsePart : Cmd)
  /-- A loop while (or, with `untilLoop`, until) the condition succeeds. -/
  | loop (untilLoop : Bool) (cond body : Cmd)
  /-- A loop over words, or over the positional parameters when there are none, on a line of
  the script. -/
  | forEach (line : Nat) (var : String) (items : Option (List (List Part))) (body : Cmd)
  /-- A choice by patterns, on a line of the script. -/
  | caseOf (line : Nat) (subject : List Part) (arms : List (List (List Part) × Cmd))
  /-- A group run in the shell itself, with redirections, starting on a line of the script. -/
  | group (line : Nat) (body : Cmd) (redirs : List Redir)
  /-- A group run in a copy of the shell, with redirections, starting on a line of the
  script. -/
  | subshell (line : Nat) (body : Cmd) (redirs : List Redir)
  /-- A function definition. -/
  | function (name : String) (body : Cmd)
deriving Repr

end

/-- The shell's own commands whose assignments stay, and which no function may be named after. -/
def specialBuiltins : List String :=
  [":", ".", "break", "continue", "eval", "exec", "exit", "export", "readonly", "return", "set",
   "shift", "times", "trap", "unset", "local"]

end DefUseCoverage.Shell
