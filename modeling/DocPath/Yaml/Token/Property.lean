import DocPath.Yaml.Cursor
import DocPath.Yaml.Token
import DocPath.Yaml.Token.Scalar

/-!
# Reading directives, anchors and tags

The short tokens that have a grammar of their own inside.
-/

namespace DocPath.Yaml

/-- The characters of names: letters, digits, underscore and hyphen. -/
def isNameChar (c : Char) : Bool := c.isAlphanum || c == '_' || c == '-'

/-- Reads a non-empty run of characters. -/
def run? (p : Char → Bool) (c : Cursor) : Option (List Char × Cursor) :=
  match c.rest.takeWhile p with
  | [] => none
  | run => some (run, c.advance run.length)

/-- Reads the name of an anchor or alias after its indicator. A blank, the end or one of a few indicators
has to follow. -/
def anchorName? (c : Cursor) : Option (String × Cursor) := do
  let (name, after) ← run? isNameChar c
  let ended := after.atBlank || after.rest.head?.any ['?', ':', ',', ']', '\x7d', '%', '@', '\x60'].contains
  if ended then some (String.ofList name, after) else none

/-! ### Tags -/

/-- The byte of an escape in a tag: a percent sign and two hexadecimal digits. -/
def escapedByte? : List Char → Option Nat
  | '%' :: a :: b :: _ => do return (← hexValue? a) * 16 + (← hexValue? b)
  | _ => none

/-- How many bytes an encoded character has, by its first byte. -/
def encodedLength? (first : Nat) : Option Nat :=
  if first < 0x80 then some 1
  else if first / 0x20 == 6 then some 2
  else if first / 0x10 == 14 then some 3
  else if first / 8 == 30 then some 4
  else none

/-- Reads the further bytes of an encoded character. -/
def escapedTail? : (count : Nat) → Cursor → Option (List Nat × Cursor)
  | 0, c => some ([], c)
  | count + 1, c => do
    let byte ← escapedByte? c.rest
    if byte / 0x40 != 2 then none
    let (more, c) ← escapedTail? count (c.advance 3)
    return (byte :: more, c)

/-- Reads a character written as escaped bytes; bytes that encode none give the replacement character. -/
def escapedChar? (c : Cursor) : Option (List Char × Cursor) := do
  let first ← escapedByte? c.rest
  let length ← encodedLength? first
  let (tail, c) ← escapedTail? (length - 1) (c.advance 3)
  let bytes := ByteArray.mk ((first :: tail).map UInt8.ofNat).toArray
  return (((String.fromUTF8? bytes).map String.toList).getD ['\ufffd'], c)

/-- The characters of a tag; in a verbatim tag and in a directive also a comma and brackets. -/
def isTagChar (verbatim : Bool) (c : Char) : Bool :=
  isNameChar c ||
    [';', '/', '?', ':', '@', '&', '=', '+', '$', '.', '%', '!', '~', '*', '\'', '(', ')'].contains c ||
    (verbatim && [',', '[', ']'].contains c)

/-- Reads the characters of a tag and decodes its escapes. -/
def tagText? (verbatim : Bool) : (fuel : Nat) → Cursor → Option (List Char × Cursor)
  | 0, c => some ([], c)
  | fuel + 1, c =>
    match c.rest with
    | '%' :: _ => do
      let (decoded, c) ← escapedChar? c
      let (more, c) ← tagText? verbatim fuel c
      return (decoded ++ more, c)
    | d :: _ =>
      if isTagChar verbatim d then
        (tagText? verbatim fuel (c.advance 1)).map fun (more, c) => (d :: more, c)
      else some ([], c)
    | [] => some ([], c)

/-- Reads a tag or the rest of one, which is not empty. -/
def tagPart? (verbatim : Bool) (c : Cursor) : Option (List Char × Cursor) := do
  let (text, after) ← tagText? verbatim c.rest.length c
  if after.index == c.index then none else some (text, after)

/-- Reads a handle: an exclamation mark, name characters, and a second mark if there is one. -/
def tagHandle? (c : Cursor) : Option (List Char × Cursor) :=
  match c.rest with
  | '!' :: rest =>
    let name := rest.takeWhile isNameChar
    let after := c.advance (name.length + 1)
    match after.rest with
    | '!' :: _ => some ('!' :: (name ++ ['!']), after.advance 1)
    | _ => some ('!' :: name, after)
  | _ => none

/-- Whether a handle has its second mark. -/
def isClosedHandle (handle : List Char) : Bool := handle.length ≥ 2 && handle.getLast? == some '!'

/-- Reads a tag from its exclamation mark on. -/
def tag? (inFlow : Bool) (c : Cursor) : Option (Token × Cursor) := do
  let (token, after) ←
    match c.rest with
    | '!' :: '<' :: _ => do
      let (text, c) ← tagPart? true (c.advance 2)
      if c.rest.head? == some '>' then some (Token.tag "" (String.ofList text), c.advance 1) else none
    | _ => do
      let (handle, c) ← tagHandle? c
      if isClosedHandle handle then
        let (suffix, c) ← tagPart? false c
        some (Token.tag (String.ofList handle) (String.ofList suffix), c)
      else
        let (more, c) ← tagText? false c.rest.length c
        match handle.drop 1 ++ more with
        | [] => some (Token.tag "" "!", c)
        | suffix => some (Token.tag "!" (String.ofList suffix), c)
  if (inFlow && after.rest.head? == some ',') || after.atBlank then some (token, after) else none

/-! ### Directives -/

/-- Reads a version number of at most nine digits. -/
def versionNumber? (c : Cursor) : Option (Nat × Cursor) := do
  let (digits, c) ← run? Char.isDigit c
  if digits.length ≤ 9 then
    some (digits.foldl (fun n d => n * 10 + (d.toNat - '0'.toNat)) 0, c)
  else none

/-- Reads a directive from its percent sign on, with the rest of its line. -/
def directive? (c : Cursor) : Option (Token × Cursor) := do
  let (name, c) ← run? isNameChar (c.advance 1)
  if !c.atBlank then none
  let c := c.skipWhile isSpaceOrTab
  let (token, c) ←
    match String.ofList name with
    | "YAML" => do
      let (major, c) ← versionNumber? c
      if c.rest.head? != some '.' then none
      let (minor, c) ← versionNumber? (c.advance 1)
      some (Token.versionDirective major minor, c)
    | "TAG" => do
      let (handle, c) ← tagHandle? c
      if handle != ['!'] && !isClosedHandle handle then none
      if !c.rest.head?.any isSpaceOrTab then none
      let (meaning, c) ← tagPart? true (c.skipWhile isSpaceOrTab)
      if !c.atBlank then none
      some (Token.tagDirective (String.ofList handle) (String.ofList meaning), c)
    | _ => none
  let c ← c.endLine?
  some (token, c)

end DocPath.Yaml
