/-!
# Tokens of YAML

The tokens of a document stream. Beginnings and ends of block collections, which the text shows by
indentation only, are tokens of their own.
-/

namespace DocPath.Yaml

inductive Token where
  /-- `%YAML` with a major and a minor number. -/
  | versionDirective (major minor : Nat)
  /-- `%TAG`: a handle and what it stands for. -/
  | tagDirective (handle meaning : String)
  | documentStart
  | documentEnd
  | blockSequenceStart
  | blockMappingStart
  | blockEnd
  | flowSequenceStart
  | flowSequenceEnd
  | flowMappingStart
  | flowMappingEnd
  | blockEntry
  | flowEntry
  | key
  | value
  | alias (name : String)
  | anchor (name : String)
  /-- A tag as its handle, which is empty for a verbatim tag, and the rest. -/
  | tag (handle suffix : String)
  | scalar (text : String) (plain : Bool)
  | streamEnd
  deriving DecidableEq, Repr

end DocPath.Yaml
