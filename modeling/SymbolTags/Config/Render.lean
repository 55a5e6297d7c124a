import SymbolTags.Config.Check
import SymbolTags.Toml.Text

namespace SymbolTags

/-!
# Rendered configurations

`Config.render` writes a configuration as a file for the user to change: a comment on
precedence, the level, and a table of the settings.
-/

/-- The comment at the top of a rendered configuration. -/
def renderedComment : String :=
  "# Generated by jstags config\n" ++
  "# Precedence: CLI flags > env vars > jstags.toml > defaults\n" ++
  "# Environment overrides:\n" ++
  "#   JSTAGS_LOG_LEVEL=info\n" ++
  "#   JSTAGS_VERBOSE=1\n"

/-- The word for a truth value. -/
def boolWord (b : Bool) : String := if b then "true" else "false"

/-- A line that assigns a written value to a name. -/
def assignmentLine (name value : String) : String := name ++ " = " ++ value ++ "\n"

/-- The lines of the settings. -/
def Settings.render (s : Settings) : String :=
  assignmentLine "verbose" (boolWord s.verbose) ++
  assignmentLine "require_policy" (boolWord s.requirePolicy) ++
  assignmentLine "module_retry" (boolWord s.moduleRetry) ++
  assignmentLine "jsx" (boolWord s.jsx) ++
  assignmentLine "strip_shebang" (boolWord s.stripShebang) ++
  assignmentLine "encoding" (Toml.writeText s.encoding)

/-- A configuration as a file. -/
def Config.render (c : Config) : String :=
  renderedComment ++ "\n" ++ assignmentLine levelName (Toml.writeText c.logLevel) ++ "\n" ++
    "[" ++ settingsName ++ "]\n" ++ c.settings.render

end SymbolTags
