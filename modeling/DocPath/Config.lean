import DocPath.Document.Conversion
import DocPath.Document.File
import DocPath.Toml.Document
import DocPath.Word

/-!
# Configuration

Three settings, each with a default, which a TOML file may change. Entries that are no settings do not matter,
but a setting has to have its own kind of value.
-/

namespace DocPath

structure Config where
  /-- How many compiled expressions are kept; with zero, none. -/
  cacheMaxSize : UInt64
  outputFormat : OutputFormat
  /-- Whether strings spelled like symbols are loaded as symbols. -/
  symbolizeColonStrings : Bool
  deriving DecidableEq

/-- The name of each format. -/
def OutputFormat.name : OutputFormat → String
  | .yaml => "yaml"
  | .json => "json"

/-- The format of a name. -/
def OutputFormat.ofName? (name : String) : Option OutputFormat :=
  [OutputFormat.yaml, .json].find? (·.name == name)

/-- Why a configuration file is of no use. -/
inductive ConfigError where
  | unreadable (path : String)
  | malformed (path : String)
  deriving DecidableEq, Repr

/-- The wording of each error. -/
def ConfigError.message : ConfigError → String
  | .unreadable path => "Failed to read config file " ++ path
  | .malformed path => "Failed to parse config file " ++ path

namespace Config

/-- The settings where nothing is set. -/
def default : Config := ⟨200, .yaml, true⟩

/-! ### Loading -/

/-- A size is an integer that is not negative. -/
def size? : Toml.Value → Option UInt64
  | .int n => if 0 ≤ n then some n.toUInt64 else none
  | _ => none

/-- A format is its name, or a table with that name as its only key and nothing under it. -/
def format? : Toml.Value → Option OutputFormat
  | .str name => OutputFormat.ofName? name
  | .table [(name, .table [])] | .table [(name, .array [])] => OutputFormat.ofName? name
  | _ => none

def bool? : Toml.Value → Option Bool
  | .bool b => some b
  | _ => none

/-- The value of a setting: the default where there is no entry, and none where the entry is of the wrong
kind. -/
def setting? {α : Type} (read? : Toml.Value → Option α) (default : α) (name : String)
    (entries : List (String × Toml.Value)) : Option α :=
  match Entries.get? name entries with
  | some value => read? value
  | none => some default

/-- The configuration in the entries of a file. -/
def ofEntries? (entries : List (String × Toml.Value)) : Option Config := do
  return {
    cacheMaxSize := ← setting? size? default.cacheMaxSize "cache_max_size" entries
    outputFormat := ← setting? format? default.outputFormat "output_format" entries
    symbolizeColonStrings :=
      ← setting? bool? default.symbolizeColonStrings "symbolize_colon_strings" entries }

/-- The configuration that a text spells. -/
def parse? (text : String) : Option Config := (Toml.parse? text).bind ofEntries?

/-- The configuration in the file that a path leads to. -/
def loadFrom (path : String) (state : FileState) : Except ConfigError Config :=
  match state.text? with
  | none => .error (.unreadable path)
  | some text =>
    match parse? text with
    | none => .error (.malformed path)
    | some config => .ok config

/-- The configuration of a user: the defaults when the file is missing or of no use. -/
def load (state : FileState) : Config := (state.text?.bind parse?).getD default

/-- Where a user's configuration is, in the home directory. -/
def pathIn (home : String) : String := home ++ "/.config/schmuck/config.toml"

/-! ### Saving -/

/-- The text of a configuration file. A size beyond the signed range cannot be written. -/
def render? (config : Config) : Option String :=
  if config.cacheMaxSize.toNat < signedBound then
    some ("cache_max_size = " ++ toString config.cacheMaxSize.toNat ++ "\n" ++
      "output_format = \"" ++ config.outputFormat.name ++ "\"\n" ++
      "symbolize_colon_strings = " ++ (if config.symbolizeColonStrings then "true" else "false") ++ "\n")
  else none

end Config

end DocPath
