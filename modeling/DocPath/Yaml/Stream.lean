import DocPath.Yaml.Node.OfTree
import DocPath.Yaml.Token.Reader

/-!
# Streams of documents

A text holds any number of documents. The first may start right away; every further one needs its marker.
Documents are read one after the other, and reading ends at the first one that cannot be read.
-/

namespace DocPath.Yaml

/-- The handles that every document knows. -/
def defaultHandles : Tree.TagHandles := [("!", "!"), ("!!", "tag:yaml.org,2002:")]

/-- Reads the directives before a document: at most one version, which has to be 1.1 or 1.2, and one meaning
for each handle. The default handles may be given other meanings. -/
def directives? (version : Bool) (handles : Tree.TagHandles) :
    List Token → Option (Tree.TagHandles × List Token)
  | .versionDirective major minor :: rest =>
    if version || major != 1 || (minor != 1 && minor != 2) then none
    else directives? true handles rest
  | .tagDirective handle meaning :: rest =>
    if (handles.lookup handle).isSome then none
    else directives? version ((handle, meaning) :: handles) rest
  | tokens => some (handles ++ defaultHandles, tokens)

/-- Whether a document ends, or the next one starts, before a token. -/
def isBoundary : Token → Bool
  | .versionDirective _ _ | .tagDirective _ _ | .documentStart | .documentEnd | .streamEnd => true
  | _ => false

/-- Moves over the marker at the end of a document; some token has to follow the document. -/
def afterDocument? : List Token → Option (List Token)
  | [] => none
  | .documentEnd :: rest => some rest
  | tokens => some tokens

/-- Reads the root of a document; it may be omitted after a start marker. -/
def root? (handles : Tree.TagHandles) (tokens : List Token) : Option (Tree × List Token) := do
  let (tree, rest) ← Tree.node? handles (4 * tokens.length + 4) true false tokens
  return (tree, ← afterDocument? rest)

/-- Reads a document from its directives on. -/
def explicitDocument? (tokens : List Token) : Option (Tree × List Token) := do
  let (handles, tokens) ← directives? false [] tokens
  match tokens with
  | .documentStart :: token :: rest =>
    if isBoundary token then return (.empty .none, ← afterDocument? (token :: rest))
    else root? handles (token :: rest)
  | _ => none

/-- Reads the documents of a stream after the first one, or the first one where `first` holds. -/
def documentTrees (first : Bool) : (fuel : Nat) → List Token → List (Option Tree)
  | 0, _ => [none]
  | fuel + 1, tokens =>
    let tokens := if first then tokens else tokens.dropWhile (· == .documentEnd)
    match tokens with
    | [] => [none]
    | .streamEnd :: _ => []
    | token :: rest =>
      let document :=
        if first && !isBoundary token then root? defaultHandles (token :: rest)
        else if first && token == .documentEnd then none
        else explicitDocument? (token :: rest)
      match document with
      | none => [none]
      | some (tree, rest) => some tree :: documentTrees false fuel rest

/-- The documents of a text in order; the last one may be an error, and nothing is known of what would come
after it. -/
def documents (text : List Char) : List (Except NodeError Node) :=
  let tokens := Token.ofText text
  (documentTrees true (tokens.length + 1) tokens).map fun
    | none => .error .malformed
    | some tree => Node.ofTree tree

/-- The node of a text that holds at most one document; a text without any is null. -/
def singleDocument (text : List Char) : Except NodeError Node :=
  match documents text with
  | [] => .ok .null
  | [document] => document
  | _ => .error .malformed

end DocPath.Yaml
