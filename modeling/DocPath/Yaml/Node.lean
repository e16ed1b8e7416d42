import DocPath.Binary64.Basic
import DocPath.Entries

/-!
# YAML nodes

A document as a tree: scalars, sequences, mappings whose keys are nodes, and nodes with a local tag. Tags of
the core schema are resolved away; integers are those of 64 bits, signed or unsigned.
-/

namespace DocPath.Yaml

inductive Node where
  | null
  | bool (b : Bool)
  | int (n : Int)
  | float (x : Binary64)
  | str (text : String)
  | seq (items : List Node)
  | map (entries : List (Node × Node))
  /-- A node with a local tag, given without its leading `!`. -/
  | tagged (tag : String) (content : Node)
  deriving Inhabited

namespace Node

mutual

/-- Whether two nodes are the same key. Integers and floats differ, all that is not a number is one float,
and the order of the entries of a mapping does not count. -/
def equal : Node → Node → Bool
  | .null, .null => true
  | .bool a, .bool b => a == b
  | .int a, .int b => a == b
  | .float a, .float b => (a.isNaN && b.isNaN) || Binary64.equal a b
  | .str a, .str b => a == b
  | .seq a, .seq b => equalItems a b
  | .map a, .map b => a.length == b.length && entriesIn a b
  | .tagged s a, .tagged t b => s == t && equal a b
  | _, _ => false

/-- Whether two lists of nodes are equal item by item. -/
def equalItems : List Node → List Node → Bool
  | [], [] => true
  | a :: as, b :: bs => equal a b && equalItems as bs
  | _, _ => false

/-- Whether every entry has an equal one in `target`. -/
def entriesIn : List (Node × Node) → List (Node × Node) → Bool
  | [], _ => true
  | (key, a) :: rest, target =>
    target.any (fun (k, b) => equal key k && equal a b) && entriesIn rest target

end

instance : BEq Node := ⟨equal⟩

end Node

end DocPath.Yaml
