import DocPath.Toml.DateTime
import DocPath.Toml.Number
import DocPath.Toml.Table
import DocPath.Toml.Text

/-!
# TOML documents

A document is a row of statements, each on a line of its own: a header opens a table, and an assignment adds a
value to the table opened last. Values nest no deeper than a fixed limit, and dotted keys have fewer parts
than that.
-/

namespace DocPath.Toml

/-- The depth at which arrays and tables are refused. -/
def depthLimit : Nat := 80

/-- The nodes of a row of keys, each but the last a table: the tables on the way, and the last key. -/
structure KeyPath where
  path : List String
  key : String
  deriving DecidableEq, Repr

namespace Reader

def isBareKey (c : Char) : Bool := c.isAlphanum || c == '_' || c == '-'

/-- Takes a key without dots. -/
def simpleKey : Reader String :=
  basicText <|> literalText <|> (String.ofList <$> takeSome isBareKey)

/-- Takes a key with blanks around it. -/
def spacedKey : Reader String := do
  blanks
  let key ← simpleKey
  blanks
  return key

/-- Takes a dotted key, with blanks around it. -/
def keyPath : Reader KeyPath := do
  let first ← spacedKey
  let rest ← many (do char '.'; spacedKey)
  if rest.length + 1 < depthLimit then
    return ⟨(first :: rest).dropLast, rest.getLastD first⟩
  else failure

/-- Takes an element of an array, with the gaps around it. -/
def element (value : Reader Value) : Reader Value := do
  gap
  let content ← value
  gap
  return content

/-- Takes an array, in which a comma may follow the last element. -/
def array (value : Reader Value) : Reader (List Value) := do
  char '['
  let items ← separated (element value)
  if !items.isEmpty then discard (optionally (char ','))
  gap
  char ']'
  return items

/-- Takes a dotted key and its value, with blanks around them. -/
def member (value : Reader Value) : Reader (KeyPath × Value) := do
  let keys ← keyPath
  char '='
  blanks
  let content ← value
  blanks
  return (keys, content)

/-- Takes a table that is written in one piece. -/
def inlineTable (value : Reader Value) : Reader (List (String × Value)) := do
  char '\x7b'
  let members ← separated (member value)
  blanks
  char '\x7d'
  match members.foldlM (fun table (keys, content) => OpenTable.assign keys.path keys.key content table) [] with
  | some table => return closeEntries table
  | none => failure

/-- Takes a value in which arrays and tables have at most the given depth. -/
def value : (depth : Nat) → Reader Value
  | 0 => .str <$> string <|> scalar
  | depth + 1 =>
    .str <$> string <|> .array <$> array (value depth) <|> .table <$> inlineTable (value depth) <|> scalar
where
  /-- Takes a value that is neither a string nor made up of others. -/
  scalar : Reader Value :=
    .dateTime <$> dateTime <|> .float <$> float <|> .int <$> integer <|>
      (do chars "true".toList; return .bool true) <|> (do chars "false".toList; return .bool false)

end Reader

/-- A line that says something. -/
inductive Statement where
  | assign (keys : KeyPath) (content : Value)
  | openTable (keys : KeyPath)
  | openElement (keys : KeyPath)

namespace Reader

/-- Takes a statement with the rest of its line. -/
def statement : Reader Statement :=
  (do
    chars "[[".toList
    let keys ← keyPath
    chars "]]".toList
    lineEnd
    return .openElement keys) <|>
  (do
    char '['
    let keys ← keyPath
    char ']'
    lineEnd
    return .openTable keys) <|>
  (do
    let (keys, content) ← member (value (depthLimit - 1))
    lineEnd
    return .assign keys content)

/-- Takes all lines up to the end of the text. -/
def statements : Reader (List Statement) := do
  gap
  let all ← many do
    let one ← statement
    gap
    return one
  atEnd
  return all

end Reader

/-- A document so far: its tables, and the keys of the table opened last. -/
structure Draft where
  root : OpenTable
  current : List String

namespace Draft

/-- Carries out a statement. -/
def perform (draft : Draft) : Statement → Option Draft
  | .assign keys content => do
    let root ← OpenTable.descend .implied false
      (fun _ table => OpenTable.assign keys.path keys.key content table)
      draft.current .header draft.root
    return { draft with root }
  | .openTable keys => do
    return ⟨← OpenTable.openTable keys.path keys.key draft.root, keys.path ++ [keys.key]⟩
  | .openElement keys => do
    return ⟨← OpenTable.openElement keys.path keys.key draft.root, keys.path ++ [keys.key]⟩

end Draft

/-- The entries of the document that a text is, if it is one. A byte order mark may stand before it. -/
def parse? (text : String) : Option (List (String × Value)) := do
  let chars :=
    match text.toList with
    | '\ufeff' :: rest => rest
    | chars => chars
  let (statements, _) ← Reader.statements chars
  let draft ← statements.foldlM Draft.perform ⟨[], []⟩
  return closeEntries draft.root

end DocPath.Toml
