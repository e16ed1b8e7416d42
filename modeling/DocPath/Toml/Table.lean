import DocPath.Toml.Value

/-!
# Building TOML tables

While a document is read its tables are open: later lines may add to them. How far depends on how a table came
about. A header may name a table that other headers only implied, once; a dotted key may add to tables that no
header has named. Values, with the tables and arrays written in one piece among them, are closed.
-/

namespace DocPath.Toml

/-- How an open table came about. -/
inductive Origin where
  /-- It has a header of its own. -/
  | header
  /-- It lies on the way to the table of a header. -/
  | implied
  /-- It lies on the way of a dotted key. -/
  | dotted
  deriving DecidableEq, Repr

/-- What a key stands for in an open table. -/
inductive Item where
  | value (content : Value)
  | table (origin : Origin) (entries : List (String × Item))
  /-- An array of tables, of which only the last is still open. -/
  | tables (closed : List (List (String × Item))) (last : List (String × Item))

/-- The entries of an open table. -/
abbrev OpenTable := List (String × Item)

namespace OpenTable

/-- Changes the table at the end of a row of keys, given how it came about, and adds the tables that are
missing on the way with the origin given for them. A key of a closed value leads nowhere. With
`keepsHeaders`, neither does one of a table that has a header. -/
def descend (missing : Origin) (keepsHeaders : Bool)
    (edit : Origin → OpenTable → Option OpenTable) :
    (keys : List String) → Origin → OpenTable → Option OpenTable
  | [], origin, table => edit origin table
  | key :: rest, _, table =>
    match Entries.get? key table with
    | none => do
      let inner ← descend missing keepsHeaders edit rest missing []
      return Entries.insert key (.table missing inner) table
    | some (.value _) => none
    | some (.table origin entries) =>
      if keepsHeaders && origin == .header then none
      else do
        let inner ← descend missing keepsHeaders edit rest origin entries
        return Entries.insert key (.table origin inner) table
    | some (.tables closed last) => do
      let inner ← descend missing keepsHeaders edit rest .header last
      return Entries.insert key (.tables closed inner) table

/-- Adds a value under a dotted key, of which `path` is all but the last key. The last key must be new, and
after other keys it must stand in a table that dotted keys have made. -/
def assign (path : List String) (key : String) (content : Value) (table : OpenTable) :
    Option OpenTable :=
  descend .dotted true
    (fun origin table =>
      if (origin == .dotted) == path.isEmpty || Entries.contains key table then none
      else some (Entries.insert key (.value content) table))
    path .header table

/-- Opens a table by its header: it must be new or only implied. -/
def openTable (path : List String) (key : String) (table : OpenTable) : Option OpenTable :=
  descend .implied false
    (fun _ table =>
      match Entries.get? key table with
      | none => some (Entries.insert key (.table .header []) table)
      | some (.table .implied entries) => some (Entries.insert key (.table .header entries) table)
      | some _ => none)
    path .header table

/-- Opens a further table of an array of tables by its header. -/
def openElement (path : List String) (key : String) (table : OpenTable) : Option OpenTable :=
  descend .implied false
    (fun _ table =>
      match Entries.get? key table with
      | none => some (Entries.insert key (.tables [] []) table)
      | some (.tables closed last) =>
        some (Entries.insert key (.tables (closed ++ [last]) []) table)
      | some _ => none)
    path .header table

end OpenTable

mutual

/-- The value of what a key stands for, closed. -/
def Item.close : Item → Value
  | .value content => content
  | .table _ entries => .table (closeEntries entries)
  | .tables closed last => .array (closeTables closed ++ [.table (closeEntries last)])

def closeEntries : List (String × Item) → List (String × Value)
  | [] => []
  | (key, item) :: rest => (key, item.close) :: closeEntries rest

def closeTables : List (List (String × Item)) → List Value
  | [] => []
  | entries :: rest => .table (closeEntries entries) :: closeTables rest

end

end DocPath.Toml
