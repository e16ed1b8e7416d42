import DocPath.Yaml.Token

/-!
# Trees of tokens

The tree of a document as it is written: scalars without their meaning, anchors and tags as properties of
nodes, and aliases by name. Each function below reads one construct from the front of a list of tokens; it
is none when the tokens do not form the construct or run out.
-/

namespace DocPath.Yaml

/-- The anchor and the tag of a node. -/
structure Properties where
  anchor : Option String
  tag : Option String

def Properties.none : Properties := ⟨.none, .none⟩

def Properties.isEmpty (p : Properties) : Bool := p.anchor.isNone && p.tag.isNone

inductive Tree where
  | alias (name : String)
  | scalar (properties : Properties) (text : String) (plain : Bool)
  | seq (properties : Properties) (items : List Tree)
  | map (properties : Properties) (entries : List (Tree × Tree))
  deriving Inhabited

namespace Tree

/-- A node of which nothing is written. -/
def empty (properties : Properties) : Tree := .scalar properties "" true

/-- The meaning of each tag handle. -/
abbrev TagHandles := List (String × String)

/-- A tag in full: a verbatim one as it is, any other with the meaning of its handle in front. -/
def resolveTag? (handles : TagHandles) (handle suffix : String) : Option String :=
  if handle.isEmpty then some suffix else (handles.lookup handle).map (· ++ suffix)

/-- Reads an anchor and a tag, in either order. -/
def properties? (handles : TagHandles) : List Token → Option (Properties × List Token)
  | .anchor name :: .tag handle suffix :: rest =>
    (resolveTag? handles handle suffix).map fun tag => (⟨some name, some tag⟩, rest)
  | .tag handle suffix :: .anchor name :: rest =>
    (resolveTag? handles handle suffix).map fun tag => (⟨some name, some tag⟩, rest)
  | .anchor name :: rest => some (⟨some name, .none⟩, rest)
  | .tag handle suffix :: rest =>
    (resolveTag? handles handle suffix).map fun tag => (⟨.none, some tag⟩, rest)
  | tokens => some (.none, tokens)

/-- The properties of a scalar: a tag without a name says no more than no tag. -/
def scalarProperties (p : Properties) : Properties :=
  if p.tag == some "!" then { p with tag := .none } else p

/-- Whether nothing is written where a node is expected, as the next token shows. -/
def isOmitted (ends : List Token) : List Token → Bool
  | [] => false
  | token :: _ => ends.contains token

/-- Moves over a comma. -/
def afterComma? : List Token → Option (List Token)
  | .flowEntry :: rest => some rest
  | _ => none

mutual

/-- Reads a node. Block collections are possible where `block` holds, and a sequence at the indentation of
its mapping where `dashes` holds. -/
def node? (handles : TagHandles) :
    (fuel : Nat) → (block dashes : Bool) → List Token → Option (Tree × List Token)
  | 0, _, _, _ => none
  | fuel + 1, block, dashes, tokens =>
    match tokens with
    | .alias name :: rest => some (.alias name, rest)
    | tokens => do
      let (properties, tokens) ← properties? handles tokens
      match tokens with
      | [] => none
      | .scalar text plain :: rest => some (.scalar (scalarProperties properties) text plain, rest)
      | .flowSequenceStart :: rest =>
        (flowItems? handles fuel true rest).map fun (items, rest) => (.seq properties items, rest)
      | .flowMappingStart :: rest =>
        (flowEntries? handles fuel true rest).map fun (entries, rest) => (.map properties entries, rest)
      | token :: rest =>
        if dashes && token == .blockEntry then
          (dashedItems? handles fuel tokens).map fun (items, rest) => (.seq properties items, rest)
        else if block && token == .blockSequenceStart then
          (blockItems? handles fuel rest).map fun (items, rest) => (.seq properties items, rest)
        else if block && token == .blockMappingStart then
          (blockEntries? handles fuel rest).map fun (entries, rest) => (.map properties entries, rest)
        else if properties.isEmpty then none
        else some (.empty properties, tokens)

/-- Reads a node, or an empty one if one of the tokens `ends` comes first. -/
def nodeOrEmpty? (handles : TagHandles) :
    (fuel : Nat) → (block dashes : Bool) → (ends : List Token) → List Token → Option (Tree × List Token)
  | 0, _, _, _, _ => none
  | fuel + 1, block, dashes, ends, tokens =>
    if isOmitted ends tokens then some (.empty .none, tokens)
    else node? handles fuel block dashes tokens

/-- Reads the items of a block sequence up to its end. -/
def blockItems? (handles : TagHandles) : (fuel : Nat) → List Token → Option (List Tree × List Token)
  | fuel + 1, .blockEntry :: rest => do
    let (item, rest) ← nodeOrEmpty? handles fuel true false [.blockEntry, .blockEnd] rest
    let (items, rest) ← blockItems? handles fuel rest
    return (item :: items, rest)
  | _ + 1, .blockEnd :: rest => some ([], rest)
  | _, _ => none

/-- Reads the items of a sequence at the indentation of its mapping, which has no end of its own. -/
def dashedItems? (handles : TagHandles) : (fuel : Nat) → List Token → Option (List Tree × List Token)
  | fuel + 1, .blockEntry :: rest => do
    let (item, rest) ← nodeOrEmpty? handles fuel true false [.blockEntry, .key, .value, .blockEnd] rest
    let (items, rest) ← dashedItems? handles fuel rest
    return (item :: items, rest)
  | _ + 1, token :: rest => some ([], token :: rest)
  | _, _ => none

/-- Reads the entries of a block mapping up to its end. -/
def blockEntries? (handles : TagHandles) :
    (fuel : Nat) → List Token → Option (List (Tree × Tree) × List Token)
  | fuel + 1, .key :: rest => do
    let (key, rest) ← nodeOrEmpty? handles fuel true true [.key, .value, .blockEnd] rest
    let (value, rest) ← blockValue? handles fuel rest
    let (entries, rest) ← blockEntries? handles fuel rest
    return ((key, value) :: entries, rest)
  | _ + 1, .blockEnd :: rest => some ([], rest)
  | _, _ => none

/-- Reads the value of an entry of a block mapping; without a colon it is empty. -/
def blockValue? (handles : TagHandles) : (fuel : Nat) → List Token → Option (Tree × List Token)
  | fuel + 1, .value :: rest => nodeOrEmpty? handles fuel true true [.key, .value, .blockEnd] rest
  | _ + 1, token :: rest => some (.empty .none, token :: rest)
  | _, _ => none

/-- Reads the items of a flow sequence up to its end, with a comma between two of them. -/
def flowItems? (handles : TagHandles) :
    (fuel : Nat) → (first : Bool) → List Token → Option (List Tree × List Token)
  | 0, _, _ => none
  | _ + 1, _, .flowSequenceEnd :: rest => some ([], rest)
  | fuel + 1, first, tokens => do
    let tokens ← if first then some tokens else afterComma? tokens
    match tokens with
    | .flowSequenceEnd :: rest => some ([], rest)
    | .key :: rest => do
      let (entry, rest) ← flowPair? handles fuel rest
      let (items, rest) ← flowItems? handles fuel false rest
      return (.map .none [entry] :: items, rest)
    | tokens => do
      let (item, rest) ← node? handles fuel false false tokens
      let (items, rest) ← flowItems? handles fuel false rest
      return (item :: items, rest)

/-- Reads an entry that stands alone in a flow sequence. Where the key is omitted, so is the next token. -/
def flowPair? (handles : TagHandles) : (fuel : Nat) → List Token → Option ((Tree × Tree) × List Token)
  | 0, _ => none
  | fuel + 1, tokens => do
    let (key, rest) ←
      if isOmitted [.value, .flowEntry, .flowSequenceEnd] tokens then some (.empty .none, tokens.drop 1)
      else node? handles fuel false false tokens
    let (value, rest) ← flowValue? handles fuel .flowSequenceEnd rest
    return ((key, value), rest)

/-- Reads the value of an entry in a flow collection; without a colon it is empty. -/
def flowValue? (handles : TagHandles) :
    (fuel : Nat) → (closing : Token) → List Token → Option (Tree × List Token)
  | fuel + 1, closing, .value :: rest => nodeOrEmpty? handles fuel false false [.flowEntry, closing] rest
  | _ + 1, _, token :: rest => some (.empty .none, token :: rest)
  | _, _, _ => none

/-- Reads the entries of a flow mapping up to its end, with a comma between two of them. A node that is no
key of its own has an empty value. -/
def flowEntries? (handles : TagHandles) :
    (fuel : Nat) → (first : Bool) → List Token → Option (List (Tree × Tree) × List Token)
  | 0, _, _ => none
  | _ + 1, _, .flowMappingEnd :: rest => some ([], rest)
  | fuel + 1, first, tokens => do
    let tokens ← if first then some tokens else afterComma? tokens
    match tokens with
    | .flowMappingEnd :: rest => some ([], rest)
    | .key :: rest => do
      let (key, rest) ← nodeOrEmpty? handles fuel false false [.value, .flowEntry, .flowMappingEnd] rest
      let (value, rest) ← flowValue? handles fuel .flowMappingEnd rest
      let (entries, rest) ← flowEntries? handles fuel false rest
      return ((key, value) :: entries, rest)
    | tokens => do
      let (key, rest) ← node? handles fuel false false tokens
      let (entries, rest) ← flowEntries? handles fuel false rest
      return ((key, .empty .none) :: entries, rest)

end

end Tree

end DocPath.Yaml
