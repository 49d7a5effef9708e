import DefUseCoverage.Metadata.Views
import DefUseCoverage.Template.Basic
/-!
# Configuration errors

The errors of reading a configuration and of building what it describes, each with the
text the command line prints after `Error: `.
-/

namespace DefUseCoverage

/-- Why a configuration, or something built from it, could not be used. -/
inductive ConfigError where
  /-- The configuration file could not be read. -/
  | unreadable (path : String) (err : IoError)
  /-- The configuration file is not a valid configuration. -/
  | malformed (path : String)
  /-- Both an inline template and a template file are given. -/
  | templateSourcesExclusive
  /-- The template file could not be read. -/
  | templateUnreadable (path : String) (err : IoError)
  /-- The template does not parse. -/
  | invalidTemplate (err : Template.GenerationError)
  /-- The command engine is selected without its settings. -/
  | commandSettingsMissing
  /-- The engine command is empty. -/
  | commandEmpty
  /-- A metadata view could not be loaded: which one, from where, and why. -/
  | viewUnloadable (view : String) (path : String) (err : Metadata.MetadataError)
  /-- The store could not be opened from its snapshot. -/
  | storeUnopenable (path : String) (reason : String)
deriving Repr

/-- The text of a configuration error. -/
def ConfigError.message : ConfigError → String
  | .unreadable p e => "Failed to read config file at " ++ Quoted.quote p ++ ": " ++ e.message
  | .malformed p => "Failed to parse TOML from config file " ++ Quoted.quote p ++ ": invalid document"
  | .templateSourcesExclusive =>
    "generation.template and generation.template-path are mutually exclusive"
  | .templateUnreadable p e => "Failed to read PUT template at " ++ Quoted.quote p ++ ": " ++ e.message
  | .invalidTemplate e => "Invalid PUT template: " ++ e.message
  | .commandSettingsMissing => "Command engine selected but [engine.command-settings] is missing"
  | .commandEmpty => "engine.command-settings.command must not be empty"
  | .viewUnloadable v p e => "Failed to load " ++ v ++ " metadata from " ++ Quoted.quote p ++ ": " ++ e.message
  | .storeUnopenable p r => "Failed to open store at " ++ Quoted.quote p ++ ": " ++ r

end DefUseCoverage
