import DocPath.Binary64.Decimal
import DocPath.Yaml.ScalarStyle

/-!
# Writing YAML

Nodes are written in block style with two blanks of indentation and without folding. A sequence inside a
mapping is not indented, a collection inside a sequence starts on the line of its dash, and empty
collections are written as brackets.
-/

namespace DocPath.Yaml

/-- The text of a float: the special ones have names that start with a point. -/
def floatText : Binary64 → List Char
  | .nan => ".nan".toList
  | .signed negative m =>
    if m.isInfinite then (if negative then "-.inf".toList else ".inf".toList)
    else Binary64.balancedText false negative m

/-- The text written so far, and what is known of its last line: its length, whether it ends with a blank,
and whether it holds nothing but indentation and indicators. -/
structure Writer where
  text : String
  column : Nat
  afterBlank : Bool
  indenting : Bool

namespace Writer

def start : Writer := ⟨"", 0, true, true⟩

/-- Writes characters that are no breaks. -/
def put (chars : List Char) (w : Writer) : Writer :=
  { w with text := w.text ++ String.ofList chars, column := w.column + chars.length }

/-- Ends the line with a break. -/
def lineBreak (c : Char) (w : Writer) : Writer := { w with text := w.text.push c, column := 0 }

/-- Goes to the given indentation, on a new line unless the line holds no more than indentation. -/
def indentTo (indent : Nat) (w : Writer) : Writer :=
  let w :=
    if !w.indenting || indent < w.column || (w.column == indent && !w.afterBlank) then
      w.lineBreak '\n'
    else w
  { w.put (List.replicate (indent - w.column) ' ') with afterBlank := true, indenting := true }

/-- Writes a blank unless there is one. -/
def separate (w : Writer) : Writer := if w.afterBlank then w else w.put [' ']

/-- Writes an indicator after which a nested collection may start on the same line. -/
def compactIndicator (c : Char) (w : Writer) : Writer :=
  { w.separate.put [c] with afterBlank := false }

/-- Writes characters that belong to a node's content. -/
def content (chars : List Char) (w : Writer) : Writer :=
  { w.put chars with afterBlank := false, indenting := false }

end Writer

/-! ### Scalars -/

/-- An escape inside double quotes. -/
def escapeChar (c : Char) : List Char :=
  let named : List (Char × Char) :=
    [('\x00', '0'), ('\x07', 'a'), ('\x08', 'b'), ('\t', 't'), ('\n', 'n'), ('\x0b', 'v'), ('\x0c', 'f'),
      ('\r', 'r'), ('\x1b', 'e'), ('"', '"'), ('\\', '\\'), ('\x85', 'N'), ('\xa0', '_'), ('\u2028', 'L'),
      ('\u2029', 'P')]
  match named.lookup c with
  | some name => ['\\', name]
  | none =>
    if c.toNat ≤ 0xFF then '\\' :: 'x' :: hexPadded 2 c.toNat
    else if c.toNat ≤ 0xFFFF then '\\' :: 'u' :: hexPadded 4 c.toNat
    else '\\' :: 'U' :: hexPadded 8 c.toNat

/-- A character inside double quotes. -/
def doubleQuotedChar (c : Char) : List Char :=
  if !isPlainPrintable c || isBreak c || c == '"' || c == '\\' then escapeChar c else [c]

def writeDoubleQuoted (text : List Char) (w : Writer) : Writer :=
  w.separate.content ('"' :: (text.flatMap doubleQuotedChar ++ ['"']))

/-- Writes the inside of single quotes: quotes are doubled, and the first character after breaks is
indented. -/
def writeSingleQuotedChars (indent : Nat) (afterBreak : Bool) : List Char → Writer → Writer
  | [], w => if afterBreak then w.indentTo indent else w
  | c :: rest, w =>
    if isBreak c then
      writeSingleQuotedChars indent true rest { w.lineBreak c with indenting := true }
    else if c == ' ' then writeSingleQuotedChars indent afterBreak rest (w.put [' '])
    else
      let w := if afterBreak then w.indentTo indent else w
      let w := w.put (if c == '\'' then ['\'', '\''] else [c])
      writeSingleQuotedChars indent false rest { w with indenting := false }

def writeSingleQuoted (indent : Nat) (text : List Char) (w : Writer) : Writer :=
  (writeSingleQuotedChars indent false text (w.separate.content ['\''])).content ['\'']

/-- The header of a literal block: an indentation digit if the text starts with a blank or break, and how
its final breaks are kept: `-` if there is none, `+` if there are several or nothing else. -/
def literalHeader (text : List Char) : List Char :=
  let hint := if text.head?.any (fun c => isSpace c || isBreak c) then ['2'] else []
  let chomping :=
    match text.reverse with
    | [] => ['-']
    | last :: before =>
      if !isBreak last then ['-']
      else
        match before with
        | [] => ['+']
        | c :: _ => if isBreak c then ['+'] else []
  '|' :: (hint ++ chomping)

/-- Writes the lines of a literal block, each one indented. -/
def writeLiteralChars (indent : Nat) (afterBreak : Bool) : List Char → Writer → Writer
  | [], w => w
  | c :: rest, w =>
    if isBreak c then writeLiteralChars indent true rest { w.lineBreak c with indenting := true }
    else
      let w := if afterBreak then w.indentTo indent else w
      writeLiteralChars indent false rest { w.put [c] with indenting := false }

def writeLiteral (indent : Nat) (text : List Char) (w : Writer) : Writer :=
  let w := (w.separate.content (literalHeader text)).lineBreak '\n'
  writeLiteralChars indent true text { w with indenting := true, afterBlank := true }

/-- Writes a string in its style, with `indent` for its further lines. -/
def writeString (indent : Nat) (text : List Char) (w : Writer) : Writer :=
  match ScalarStyle.ofString text with
  | .plain => w.separate.content text
  | .singleQuoted => writeSingleQuoted indent text w
  | .doubleQuoted => writeDoubleQuoted text w
  | .literal => writeLiteral indent text w

/-- The text of a node that is a scalar; none for collections and tagged nodes. -/
def Node.scalarText? : Node → Option (List Char)
  | .null => some "null".toList
  | .bool b => some (if b then "true".toList else "false".toList)
  | .int n => some (toString n).toList
  | .float x => some (floatText x)
  | .str text => some text.toList
  | _ => none

/-! ### Nodes -/

/-- A character of a tag; what a tag may not hold is written as its encoded bytes. -/
def tagChar (c : Char) : List Char :=
  if c.isAlphanum || "_-;/?:@&=+$,.~*'()[]".toList.contains c then [c]
  else (String.singleton c).toUTF8.toList.flatMap fun byte => '%' :: hexPadded 2 byte.toNat

/-- The text of a local tag. The one without a name has to be written out. -/
def tagText (tag : String) : List Char :=
  if tag == "!" then "!<%21>".toList else '!' :: tag.toList.flatMap tagChar

def writeTag (tag : Option String) (w : Writer) : Writer :=
  match tag with
  | none => w
  | some tag => w.separate.content (tagText tag)

/-- Whether a mapping key is written before its colon on one line: a scalar without breaks or an empty
collection, of at most 128 bytes with its tag. -/
def isSimpleKey (tagLength : Nat) : Node → Bool
  | .tagged tag content => isSimpleKey (tag.utf8ByteSize + 1) content
  | .seq items => items.isEmpty && tagLength ≤ 128
  | .map entries => entries.isEmpty && tagLength ≤ 128
  | node =>
    match node.scalarText? with
    | some text => !isMultiline text && tagLength + (String.ofList text).utf8ByteSize ≤ 128
    | none => false

/-- Where the lines of a scalar are indented inside a collection, or at the root. -/
def scalarIndent : Option Nat → Nat
  | none => 2
  | some indent => indent + 2

mutual

/-- Writes a node in a collection of the given indentation, or at the root. `inMapping` holds for the keys
and values of a mapping, and `tag` belongs to the node. -/
def writeNode (indent : Option Nat) (inMapping : Bool) (tag : Option String) :
    Node → Writer → Writer
  | .tagged inner content, w => writeNode indent inMapping (some inner) content w
  | .seq items, w =>
    let w := writeTag tag w
    if items.isEmpty then w.separate.content "[]".toList
    else
      match indent with
      | none => writeItems 0 items w
      | some n => writeItems (if inMapping && !w.indenting then n else n + 2) items w
  | .map entries, w =>
    let w := writeTag tag w
    if entries.isEmpty then w.separate.content "\x7b\x7d".toList
    else
      match indent with
      | none => writeEntries 0 entries w
      | some n => writeEntries (n + 2) entries w
  | .str text, w => writeString (scalarIndent indent) text.toList (writeTag tag w)
  | .null, w => (writeTag tag w).separate.content "null".toList
  | .bool b, w => (writeTag tag w).separate.content (if b then "true".toList else "false".toList)
  | .int n, w => (writeTag tag w).separate.content (toString n).toList
  | .float x, w => (writeTag tag w).separate.content (floatText x)

/-- Writes the items of a sequence, each on a line of its own after a dash. -/
def writeItems (indent : Nat) : List Node → Writer → Writer
  | [], w => w
  | item :: rest, w =>
    let w := (w.indentTo indent).compactIndicator '-'
    writeItems indent rest (writeNode (some indent) false none item w)

/-- Writes the entries of a mapping. A key that does not fit before a colon is marked as such. -/
def writeEntries (indent : Nat) : List (Node × Node) → Writer → Writer
  | [], w => w
  | (key, value) :: rest, w =>
    let w := w.indentTo indent
    let simple := isSimpleKey 0 key
    let w := if simple then w else w.compactIndicator '?'
    let w := writeNode (some indent) true none key w
    let w := if simple then w.content [':'] else (w.indentTo indent).compactIndicator ':'
    writeEntries indent rest (writeNode (some indent) true none value w)

end

mutual

/-- Whether a tagged node is the content of another one, which has no written form. -/
def Node.nestsTags : Node → Bool
  | .tagged _ (.tagged _ _) => true
  | .tagged _ content => content.nestsTags
  | .seq items => Node.anyNestsTags items
  | .map entries => Node.entriesNestTags entries
  | _ => false

def Node.anyNestsTags : List Node → Bool
  | [] => false
  | item :: rest => item.nestsTags || Node.anyNestsTags rest

def Node.entriesNestTags : List (Node × Node) → Bool
  | [] => false
  | (key, value) :: rest => key.nestsTags || value.nestsTags || Node.entriesNestTags rest

end

/-- A node as a document that ends with a line feed. -/
def Node.render (node : Node) : String := ((writeNode none false none node .start).indentTo 0).text

/-- A node as a document, if it has a written form. -/
def Node.render? (node : Node) : Option String :=
  if node.nestsTags then none else some node.render

end DocPath.Yaml
