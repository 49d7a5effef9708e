import DefUseCoverage.Config.Error
import DefUseCoverage.Template.Strategy
/-!
# Generation settings

Where the stub template comes from (inline text, a file, or the default template) and how
many seed rows follow each stub. Inline text and a file together are refused.
-/

namespace DefUseCoverage

/-- The `[generation]` settings. -/
structure GenerationSettings where
  /-- An inline template. -/
  template : Option String := none
  /-- A file holding the template. -/
  templatePath : Option String := none
  /-- Seed rows after each stub. -/
  seedRows : Nat := 0
  /-- Values per seed row. -/
  seedArgs : Nat := 2
deriving Repr

namespace GenerationSettings

/-- The template text: inline, read from its file, or the default. -/
def templateText (g : GenerationSettings) (w : Workspace) : Except ConfigError String :=
  match g.template, g.templatePath with
  | some _, some _ => .error .templateSourcesExclusive
  | some t, none => .ok t
  | none, some p =>
    match w.follow p >>= w.read with
    | .error e => .error (.templateUnreadable p e)
    | .ok bs =>
      match Utf8.decode? bs with
      | some t => .ok t
      | none => .error (.templateUnreadable p .notText)
  | none, none => .ok Template.defaultText

/-- The strategy the settings describe. -/
def strategy (g : GenerationSettings) (w : Workspace) : Except ConfigError Template.Strategy := do
  let text ← g.templateText w
  match Template.parse text with
  | .error e => .error (.invalidTemplate e)
  | .ok segs => .ok { segments := segs, seedRows := g.seedRows, seedArgs := g.seedArgs }

end GenerationSettings

end DefUseCoverage
