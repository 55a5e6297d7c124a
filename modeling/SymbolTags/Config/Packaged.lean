import SymbolTags.File.Store
import SymbolTags.Toml.Document

namespace SymbolTags.Packaged

/-!
# Packaged files

The only packaged file holds the default configuration.  `defaults` is the table that its
text stands for; `Packaged.read_defaultsText` proves it.
-/

/-- The name of the packaged file. -/
def defaultsName : String := "jstags.defaults.toml"

/-- The text of the packaged file. -/
def defaultsText : String :=
  "# Packaged defaults for jstags.\n" ++
  "# Precedence: CLI flags > env vars > user jstags.toml > these defaults\n" ++
  "\n" ++
  "log_level = \"WARNING\"\n" ++
  "\n" ++
  "[tagger]\n" ++
  "verbose = false\n" ++
  "require_policy = true\n" ++
  "module_retry = true\n" ++
  "jsx = false\n" ++
  "strip_shebang = true\n" ++
  "encoding = \"utf-8\"\n"

/-- The default configuration. -/
def defaults : Fields Data :=
  [("log_level", .str "WARNING"),
   ("tagger", .table
     [("verbose", .bool false), ("require_policy", .bool true), ("module_retry", .bool true),
      ("jsx", .bool false), ("strip_shebang", .bool true), ("encoding", .str "utf-8")])]

/-- There is no packaged file of a name. -/
structure NotPackaged where
  name : String
deriving DecidableEq, Repr, Inhabited

/-- The place of the directory that packaged files lie in. -/
def directory : List String := ["jstags", "resources"]

/-- The place of the packaged file. -/
def defaultsPlace : List String := directory ++ [defaultsName]

/-- The packaged file and the directories around it. -/
def files : File.Files :=
  ⟨(defaultsPlace, .file defaultsText.toUTF8.toList) ::
    ["cli", "core", "tagger"].map fun name => (["jstags", name], .directory)⟩

/-- The name and text of the packaged file that a path leads to from its directory on. -/
def find (path : String) : Except NotPackaged (String × String) :=
  let start := if File.startOf path = [] then directory else File.startOf path
  match files.follow start (File.components path) with
  | .ok place => if place = defaultsPlace then .ok (defaultsName, defaultsText) else .error ⟨path⟩
  | .error _ => .error ⟨path⟩

end SymbolTags.Packaged
