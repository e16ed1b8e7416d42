import DocPath.Entries
import DocPath.Json
import DocPath.Text.Blank
import DocPath.Value.Display
import DocPath.Word
import DocPath.Yaml.Printer

/-!
# Documents and values

Parsed documents become values, and values become documents again. On loading, strings spelled like symbols
may be taken for symbols, tags are dropped and keys of all kinds are brought down to three. On rendering,
symbols are spelled with a colon, so keys that differ as values may become one.
-/

namespace DocPath

open DocPath.Yaml (Node)

/-- The name in a text of the form `:name`. -/
def symbolName? (text : String) : Option String :=
  match text.toList with
  | ':' :: name =>
    if !name.isEmpty && name.all (fun c => c.isAlphanum || c == '_') then some (String.ofList name)
    else none
  | _ => none

/-- The value of a string: the symbol that it spells, when symbols are wanted, or else itself. -/
def Value.ofText (symbolize : Bool) (text : String) : Value :=
  match if symbolize then symbolName? text else none with
  | some name => .symbol name
  | none => .str text

/-- The value of an integer; beyond the signed range it is a float. -/
def Value.ofInteger (n : Int) : Value :=
  match int64? n with
  | some i => .int i
  | none => .float (.ofInt n)

/-- The key of a node of which the value is given. Null is the empty key, a collection the text of its node,
and anything else that is no key the plain text of its value. -/
def Key.ofNodeValue (node : Node) : Value → Key
  | .str text => .str text
  | .symbol name => .symbol name
  | .int n => .int n
  | .nil => .str ""
  | .array _ | .hash _ =>
    .str (String.ofList (Text.trimEnd ((node.render?).getD "").toList))
  | value => .str value.text

namespace Value

mutual

/-- The value of a node. -/
def ofNode (symbolize : Bool) : Node → Value
  | .null => .nil
  | .bool b => .bool b
  | .int n => ofInteger n
  | .float x => .float x
  | .str text => ofText symbolize text
  | .seq items => .array (ofNodes symbolize items)
  | .map entries => .hash (Entries.ofList (entriesOfNodes symbolize entries))
  | .tagged _ content => ofNode symbolize content

/-- The values of the items of a sequence. -/
def ofNodes (symbolize : Bool) : List Node → List Value
  | [] => []
  | item :: rest => ofNode symbolize item :: ofNodes symbolize rest

/-- The entries of a mapping, of which keys may be repeated. -/
def entriesOfNodes (symbolize : Bool) : List (Node × Node) → List (Key × Value)
  | [] => []
  | (key, value) :: rest =>
    (Key.ofNodeValue key (ofNode symbolize key), ofNode symbolize value) ::
      entriesOfNodes symbolize rest

end

end Value

/-- The text of a key as a name. -/
def Key.label : Key → String
  | .str text => text
  | .symbol name => ":" ++ name
  | .int n => integerText n

/-- A key as a node: integers stay integers. -/
def Key.toNode : Key → Node
  | .int n => .int n.toInt
  | key => .str key.label

namespace Value

mutual

/-- A value as a node; a host object is its inspected text. -/
def toNode : Value → Node
  | .nil => .null
  | .bool b => .bool b
  | .int n => .int n.toInt
  | .float x => .float x
  | .str text => .str text
  | .symbol name => .str (":" ++ name)
  | .array items => .seq (toNodes items)
  | .hash entries => .map (Entries.ofList (entriesToNodes entries))
  | .host object => .str (inspect (.host object))

def toNodes : List Value → List Node
  | [] => []
  | item :: rest => toNode item :: toNodes rest

def entriesToNodes : List (Key × Value) → List (Node × Node)
  | [] => []
  | (key, value) :: rest => (key.toNode, toNode value) :: entriesToNodes rest

end

mutual

/-- A value as JSON: names are always strings, and floats that are not finite become their text. -/
def toJson : Value → Json
  | .nil => .null
  | .bool b => .bool b
  | .int n => .int n.toInt
  | .float x =>
    match x with
    | .signed negative m => if m.isInfinite then .str x.text else .float negative m
    | .nan => .str x.text
  | .str text => .str text
  | .symbol name => .str (":" ++ name)
  | .array items => .array (toJsonItems items)
  | .hash entries => .object (Json.membersOfList (toJsonMembers entries))
  | .host object => .str (inspect (.host object))

def toJsonItems : List Value → List Json
  | [] => []
  | item :: rest => toJson item :: toJsonItems rest

def toJsonMembers : List (Key × Value) → List (String × Json)
  | [] => []
  | (key, value) :: rest => (key.label, toJson value) :: toJsonMembers rest

end

end Value

/-- The formats in which a value is printed. -/
inductive OutputFormat where
  | yaml
  | json
  deriving DecidableEq, Repr

/-- The text of a value in a format: YAML ends with a line feed, JSON does not. -/
def Value.render (format : OutputFormat) (value : Value) : String :=
  match format with
  | .yaml => value.toNode.render
  | .json => value.toJson.render

end DocPath
