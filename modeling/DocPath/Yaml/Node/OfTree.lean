import DocPath.Yaml.Scalar
import DocPath.Yaml.Tree

/-!
# Nodes of trees

The meaning of a tree: scalars are resolved, aliases stand for the nodes they name, and the keys of a mapping
have to be pairwise distinct. Nesting is limited, and so is the work that aliases make.
-/

namespace DocPath.Yaml

/-- Why a document has no meaning. -/
inductive NodeError where
  /-- The text is no YAML stream. -/
  | malformed
  | unknownAlias (name : String)
  /-- An alias stands inside the node that it names. -/
  | recursiveAlias (name : String)
  | tooManyAliases
  | tooDeep
  | duplicateKey
  /-- A scalar does not have the type that its tag demands, or is an integer of more than 64 bits. -/
  | scalarType
  deriving DecidableEq, Repr

/-- The depth to which collections may be nested. -/
def maxDepth : Nat := 128

/-- How often aliases may be followed for each node, bracket and alias of a document. -/
def aliasesPerEvent : Nat := 100

/-- The name of a local tag: what follows its exclamation mark, or the mark itself if nothing does. -/
def localTag? (tag : String) : Option String :=
  match tag.toList with
  | ['!'] => some "!"
  | '!' :: name => some (String.ofList name)
  | _ => none

/-- The node of a scalar of which the tag says nothing. -/
def untaggedScalar? (text : String) (plain : Bool) : Option Node :=
  if plain then Scalar.resolve? text.toList else some (.str text)

/-- The node of a scalar: a core tag demands its type, a local one is kept, and any other makes it a
string. -/
def scalarNode? (tag : Option String) (text : String) (plain : Bool) : Option Node :=
  match tag with
  | none => untaggedScalar? text plain
  | some tag =>
    match localTag? tag with
    | some name => (untaggedScalar? text plain).map (.tagged name)
    | none =>
      match tag with
      | "tag:yaml.org,2002:null" => if Scalar.isNull text.toList then some .null else none
      | "tag:yaml.org,2002:bool" => (Scalar.bool? text.toList).map .bool
      | "tag:yaml.org,2002:int" => (Scalar.integerNode? text.toList).join
      | "tag:yaml.org,2002:float" => (Scalar.float? text.toList).map .float
      | _ => some (.str text)

/-- The node of a collection with its tag, of which only a local one counts. -/
def Node.withTag (tag : Option String) (node : Node) : Node :=
  match tag.bind localTag? with
  | some name => .tagged name node
  | none => node

/-- A node with what it costs: how deep its collections are nested, and how many aliases are followed in
it. -/
structure Meaning where
  node : Node
  depth : Nat
  aliases : Nat

/-- The anchors met so far, the latest first, each with a number of its own; and the meanings of those whose
node is complete, by number. -/
structure Anchors where
  names : List (String × Nat)
  meanings : List (Nat × Meaning)

namespace Anchors

def empty : Anchors := ⟨[], []⟩

/-- Opens a new node that may have an anchor. -/
def enter (name : Option String) (anchors : Anchors) : Anchors :=
  match name with
  | none => anchors
  | some name => { anchors with names := (name, anchors.names.length) :: anchors.names }

/-- Completes a node, of which the anchor, if it has one, got the given number. -/
def complete (name : Option String) (number : Nat) (meaning : Meaning) (anchors : Anchors) : Anchors :=
  match name with
  | none => anchors
  | some _ => { anchors with meanings := (number, meaning) :: anchors.meanings }

/-- What an alias stands for. -/
def lookup (name : String) (anchors : Anchors) : Except NodeError Meaning :=
  match anchors.names.lookup name with
  | none => .error (.unknownAlias name)
  | some number =>
    match anchors.meanings.lookup number with
    | none => .error (.recursiveAlias name)
    | some meaning => .ok meaning

end Anchors

mutual

/-- How many tokens a tree stands for, counting both ends of a collection. -/
def Tree.eventCount : Tree → Nat
  | .alias _ => 1
  | .scalar _ _ _ => 1
  | .seq _ items => Tree.itemsEventCount items + 2
  | .map _ entries => Tree.entriesEventCount entries + 2

def Tree.itemsEventCount : List Tree → Nat
  | [] => 0
  | item :: rest => item.eventCount + Tree.itemsEventCount rest

def Tree.entriesEventCount : List (Tree × Tree) → Nat
  | [] => 0
  | (key, value) :: rest => key.eventCount + value.eventCount + Tree.entriesEventCount rest

end

mutual

/-- The meaning of a tree, and the anchors after it. No more than `limit` aliases are followed in it. -/
def Tree.meaning (limit : Nat) : Tree → Anchors → Except NodeError (Meaning × Anchors)
  | .alias name, anchors => do
    let meaning ← anchors.lookup name
    if limit < meaning.aliases + 1 then throw .tooManyAliases
    return ({ meaning with aliases := meaning.aliases + 1 }, anchors)
  | .scalar properties text plain, anchors =>
    match scalarNode? properties.tag text plain with
    | none => .error .scalarType
    | some node =>
      let meaning := ⟨node, 0, 0⟩
      .ok (meaning, (anchors.enter properties.anchor).complete properties.anchor anchors.names.length meaning)
  | .seq properties items, anchors => do
    let (nodes, depth, aliases, after) ← Tree.itemMeanings limit items (anchors.enter properties.anchor)
    let meaning := ⟨.withTag properties.tag (.seq nodes), depth + 1, aliases⟩
    return (meaning, after.complete properties.anchor anchors.names.length meaning)
  | .map properties entries, anchors => do
    let (nodes, depth, aliases, after) ←
      Tree.entryMeanings limit [] entries (anchors.enter properties.anchor)
    let meaning := ⟨.withTag properties.tag (.map nodes), depth + 1, aliases⟩
    return (meaning, after.complete properties.anchor anchors.names.length meaning)

/-- The nodes of the items of a sequence, with the depth of the deepest one and the aliases in all. -/
def Tree.itemMeanings (limit : Nat) :
    List Tree → Anchors → Except NodeError (List Node × Nat × Nat × Anchors)
  | [], anchors => .ok ([], 0, 0, anchors)
  | item :: rest, anchors => do
    let (first, anchors) ← item.meaning limit anchors
    let (nodes, depth, aliases, anchors) ← Tree.itemMeanings limit rest anchors
    if limit < first.aliases + aliases then throw .tooManyAliases
    return (first.node :: nodes, max first.depth depth, first.aliases + aliases, anchors)

/-- The entries of a mapping, likewise; `seen` are the keys before them. -/
def Tree.entryMeanings (limit : Nat) (seen : List Node) :
    List (Tree × Tree) → Anchors → Except NodeError (List (Node × Node) × Nat × Nat × Anchors)
  | [], anchors => .ok ([], 0, 0, anchors)
  | (key, value) :: rest, anchors => do
    let (key, anchors) ← key.meaning limit anchors
    if seen.any (·.equal key.node) then throw .duplicateKey
    let (value, anchors) ← value.meaning limit anchors
    let (nodes, depth, aliases, anchors) ← Tree.entryMeanings limit (key.node :: seen) rest anchors
    let total := key.aliases + value.aliases + aliases
    if limit < total then throw .tooManyAliases
    return ((key.node, value.node) :: nodes, max (max key.depth value.depth) depth, total, anchors)

end

/-- The node of a whole document. -/
def Node.ofTree (tree : Tree) : Except NodeError Node := do
  let (meaning, _) ← tree.meaning (tree.eventCount * aliasesPerEvent) .empty
  if maxDepth < meaning.depth then throw .tooDeep
  return meaning.node

end DocPath.Yaml
