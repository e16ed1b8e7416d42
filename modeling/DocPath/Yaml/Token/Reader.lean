import DocPath.Yaml.Token.Property

/-!
# Cutting a text into tokens

Block collections are found by indentation. A mapping key on one line shows as such only when its colon is
reached, so the place of every token that might start such a key is remembered, one for each flow collection
around it, and the key token is put in there afterwards.

A token is not final while it might still become a key. When reading fails, the tokens before the first such
place are those that count.
-/

namespace DocPath.Yaml

/-- The place of a token that may turn out to start a mapping key. In a block, a token at the indentation of
a mapping has to. -/
structure PendingKey where
  token : Nat
  required : Bool
  index : Nat
  line : Nat
  column : Nat

/-- What is known between two tokens. -/
structure TokenReader where
  cursor : Cursor
  tokens : Array Token
  /-- The indentation of the innermost block collection, and of those around it. -/
  indent : Int
  outerIndents : List Int
  /-- Whether a key on one line may start here. -/
  keyAllowed : Bool
  /-- The pending key outside all flow collections, or of the innermost one, and of those around it. -/
  pending : Option PendingKey
  outerPending : List (Option PendingKey)

namespace TokenReader

def start (text : List Char) : TokenReader := ⟨.start text, #[], -1, [], true, none, []⟩

def inFlow (s : TokenReader) : Bool := !s.outerPending.isEmpty

def push (token : Token) (s : TokenReader) : TokenReader := { s with tokens := s.tokens.push token }

/-- Puts a token in at a place. -/
def insertAt (place : Nat) (token : Token) (s : TokenReader) : TokenReader :=
  { s with tokens := s.tokens.insertIdxIfInBounds place token }

/-! ### Pending keys -/

/-- Whether a key can no longer be completed: it has to stand on one line and within 1024 characters. -/
def isStale (cursor : Cursor) (key : PendingKey) : Bool :=
  key.line < cursor.line || key.index + 1024 < cursor.index

/-- Gives up a stale key, unless it is required. -/
def refresh? (cursor : Cursor) : Option PendingKey → Option (Option PendingKey)
  | none => some none
  | some key =>
    if isStale cursor key then (if key.required then none else some none) else some (some key)

/-- Gives up all stale keys. -/
def dropStale? (s : TokenReader) : Option TokenReader := do
  return { s with
    pending := ← refresh? s.cursor s.pending
    outerPending := ← s.outerPending.mapM (refresh? s.cursor) }

/-- Gives up the innermost pending key, unless it is required. -/
def dropKey? (s : TokenReader) : Option TokenReader :=
  match s.pending with
  | some key => if key.required then none else some { s with pending := none }
  | none => some s

/-- Remembers the place of the next token, where a key may start. -/
def saveKey? (s : TokenReader) : Option TokenReader :=
  if s.keyAllowed then
    s.dropKey?.map fun s =>
      { s with pending := some ⟨s.tokens.size, !s.inFlow && s.indent == s.cursor.column,
          s.cursor.index, s.cursor.line, s.cursor.column⟩ }
  else some s

def allowKey (allowed : Bool) (s : TokenReader) : TokenReader := { s with keyAllowed := allowed }

/-! ### Indentation -/

/-- Starts a block collection at a column to the right of the one around it, with its first token at
`place`. -/
def indentAt (column : Nat) (place : Nat) (token : Token) (s : TokenReader) : TokenReader :=
  if !s.inFlow && s.indent < column then
    { s.insertAt place token with indent := column, outerIndents := s.indent :: s.outerIndents }
  else s

/-- Ends the block collections to the right of a column. -/
def closeBlocks (column : Int) : (indent : Int) → (outer : List Int) → TokenReader → TokenReader
  | indent, [], s => { s with indent := indent, outerIndents := [] }
  | indent, next :: outer, s =>
    if column < indent then closeBlocks column next outer (s.push .blockEnd)
    else { s with indent := indent, outerIndents := next :: outer }

/-- Ends the block collections to the right of a column, which flow collections do not have. -/
def unindentTo (column : Int) (s : TokenReader) : TokenReader :=
  if s.inFlow then s else closeBlocks column s.indent s.outerIndents s

/-! ### Tokens -/

/-- Moves to the next token: over blanks, comments and breaks. Tabs do not count as blanks where a key may
start, and a byte order mark may start a line. After a break in a block, a key may start. -/
def skipToToken : (fuel : Nat) → TokenReader → TokenReader
  | 0, s => s
  | fuel + 1, s =>
    let c := s.cursor
    let c := if c.column == 0 && c.rest.head? == some '\ufeff' then c.advance 1 else c
    let c := (c.skipWhile fun d => d == ' ' || (d == '\t' && (s.inFlow || !s.keyAllowed))).skipComment
    if c.rest.head?.any isBreak then
      skipToToken fuel { s with cursor := c.skipBreak, keyAllowed := s.keyAllowed || !s.inFlow }
    else { s with cursor := c }

/-- Takes `count` characters as a token. -/
def take (count : Nat) (token : Token) (s : TokenReader) : TokenReader :=
  { s.push token with cursor := s.cursor.advance count }

/-- Reads a token with a text of its own. -/
def takeScanned? (scanned : Option (Token × Cursor)) (s : TokenReader) : Option TokenReader :=
  scanned.map fun (token, c) => { s.push token with cursor := c }

/-- A marker or a directive ends all block collections. -/
def leaveBlocks? (s : TokenReader) : Option TokenReader :=
  (s.unindentTo (-1)).dropKey?.map (allowKey false)

def openFlow? (token : Token) (s : TokenReader) : Option TokenReader :=
  s.saveKey?.map fun s =>
    { s.take 1 token with outerPending := s.pending :: s.outerPending, pending := none, keyAllowed := true }

def closeFlow? (token : Token) (s : TokenReader) : Option TokenReader :=
  s.dropKey?.map fun s =>
    let s := match s.outerPending with
      | key :: outer => { s with pending := key, outerPending := outer }
      | [] => s
    (s.allowKey false).take 1 token

/-- A dash. In a block it starts a sequence or an item of it, and a key may follow. -/
def blockEntry? (s : TokenReader) : Option TokenReader :=
  if !s.inFlow && !s.keyAllowed then none
  else
    (s.indentAt s.cursor.column s.tokens.size .blockSequenceStart).dropKey?.map fun s =>
      (s.allowKey true).take 1 .blockEntry

/-- A question mark. -/
def key? (s : TokenReader) : Option TokenReader :=
  if !s.inFlow && !s.keyAllowed then none
  else
    (s.indentAt s.cursor.column s.tokens.size .blockMappingStart).dropKey?.map fun s =>
      (s.allowKey !s.inFlow).take 1 .key

/-- A colon: the end of the pending key, or the value of a key given in full. -/
def value? (s : TokenReader) : Option TokenReader :=
  match s.pending with
  | some key =>
    let s := (s.insertAt key.token .key).indentAt key.column key.token .blockMappingStart
    some ({ s with pending := none, keyAllowed := false }.take 1 .value)
  | none =>
    if !s.inFlow && !s.keyAllowed then none
    else
      let s := s.indentAt s.cursor.column s.tokens.size .blockMappingStart
      some ((s.allowKey !s.inFlow).take 1 .value)

/-- A token before which a key may start, and after which none does. -/
def keyed? (scan : Cursor → Option (Token × Cursor)) (s : TokenReader) : Option TokenReader :=
  s.saveKey?.bind fun s => (s.allowKey false).takeScanned? (scan s.cursor)

/-- A plain scalar; after a line end a key may start. -/
def plain? (s : TokenReader) : Option TokenReader := do
  let s ← s.saveKey?
  let (text, broken, c) ← plainScalar? s.inFlow (s.indent + 1).toNat s.cursor
  return { s.push (.scalar (String.ofList text) true) with cursor := c, keyAllowed := broken }

def blockScalar? (literal : Bool) (s : TokenReader) : Option TokenReader := do
  let s ← s.dropKey?
  let (text, c) ← Yaml.blockScalar? literal s.indent s.cursor
  return { s.push (.scalar (String.ofList text) false) with cursor := c, keyAllowed := true }

/-- Whether a plain scalar may start with a text that starts with no other token. -/
def startsPlain (inFlow : Bool) : List Char → Bool
  | [] => false
  | '-' :: rest => !rest.head?.any isSpaceOrTab
  | c :: rest =>
    if c == '?' || c == ':' then !inFlow && !startsBlank rest
    else !isBlankOrBreak c && !isIndicator c

/-- Reads the token at the cursor. -/
def readToken? (s : TokenReader) : Option TokenReader :=
  let c := s.cursor
  let blankAfter := startsBlank (c.rest.drop 1)
  if c.column == 0 && c.rest.head? == some '%' then do (← s.leaveBlocks?).takeScanned? (directive? c)
  else if c.atDocumentMarker then do
    let s ← s.leaveBlocks?
    return s.take 3 (if c.rest.head? == some '-' then .documentStart else .documentEnd)
  else
    match c.rest.head? with
    | none => none
    | some d =>
      if d == '[' then s.openFlow? .flowSequenceStart
      else if d == '\x7b' then s.openFlow? .flowMappingStart
      else if d == ']' then s.closeFlow? .flowSequenceEnd
      else if d == '\x7d' then s.closeFlow? .flowMappingEnd
      else if d == ',' then s.dropKey?.map fun s => (s.allowKey true).take 1 .flowEntry
      else if d == '-' && blankAfter then s.blockEntry?
      else if d == '?' && (s.inFlow || blankAfter) then s.key?
      else if d == ':' && (s.inFlow || blankAfter) then s.value?
      else if d == '*' then s.keyed? fun c => (anchorName? (c.advance 1)).map fun (n, c) => (.alias n, c)
      else if d == '&' then s.keyed? fun c => (anchorName? (c.advance 1)).map fun (n, c) => (.anchor n, c)
      else if d == '!' then s.keyed? (tag? s.inFlow)
      else if d == '|' && !s.inFlow then s.blockScalar? true
      else if d == '>' && !s.inFlow then s.blockScalar? false
      else if d == '\'' || d == '"' then
        s.keyed? fun c => (quotedScalar? (d == '\'') c).map fun (text, c) =>
          (.scalar (String.ofList text) false, c)
      else if startsPlain s.inFlow c.rest then s.plain?
      else none

/-- Reads the end of the text, which ends all block collections. -/
def readEnd? (s : TokenReader) : Option TokenReader :=
  s.leaveBlocks?.map (push .streamEnd)

/-- How many tokens are final when reading cannot go on from here. -/
def finalTokens (s : TokenReader) : Nat :=
  let places := (s.pending :: s.outerPending).filterMap fun key =>
    match refresh? s.cursor key with
    | some (some key) => some key.token
    | some none => none
    | none => key.map (·.token)
  places.foldl min s.tokens.size

/-- Reads all tokens. If reading fails, the tokens up to there do not end with the end of the stream. -/
def readAll : (fuel : Nat) → TokenReader → List Token
  | 0, s => s.tokens.toList
  | fuel + 1, s =>
    let ready := do
      let next ← s.dropStale?
      let next ← (next.skipToToken (fuel + 1)).dropStale?
      return next.unindentTo next.cursor.column
    match ready with
    | none => s.tokens.toList.take s.finalTokens
    | some next =>
      if next.cursor.rest.isEmpty then
        match next.readEnd? with
        | some done => done.tokens.toList
        | none => s.tokens.toList.take s.finalTokens
      else
        match next.readToken? with
        | some next => readAll fuel next
        | none => s.tokens.toList.take s.finalTokens

end TokenReader

/-- The characters that a text may hold. -/
def isAllowed (c : Char) : Bool :=
  let n := c.toNat
  n == 0x09 || n == 0x0A || n == 0x0D || (0x20 ≤ n && n ≤ 0x7E) || n == 0x85 || (0xA0 ≤ n && n ≤ 0xFFFD) ||
    0x10000 ≤ n

/-- The tokens of a text. A text that is no stream has only some of its tokens, and not the end of the
stream; one with a character that is not allowed has none. -/
def Token.ofText (text : List Char) : List Token :=
  if text.all isAllowed then TokenReader.readAll (text.length + 1) (.start text) else []

end DocPath.Yaml
