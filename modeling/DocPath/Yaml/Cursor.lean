import DocPath.Yaml.Character

/-!
# Places in a text

A cursor is a place in a text with its line and column. Moving over a break starts a new line, and a
carriage return with a line feed is one break.
-/

namespace DocPath.Yaml

/-- The text from a place on, and how many characters, lines and columns lie before it. -/
structure Cursor where
  rest : List Char
  index : Nat
  line : Nat
  column : Nat

namespace Cursor

def start (text : List Char) : Cursor := ⟨text, 0, 0, 0⟩

/-- Moves over `count` characters that are no breaks. -/
def advance (count : Nat) (c : Cursor) : Cursor :=
  ⟨c.rest.drop count, c.index + count, c.line, c.column + count⟩

/-- Moves over the characters with a property, which no break has. -/
def skipWhile (p : Char → Bool) (c : Cursor) : Cursor := c.advance (c.rest.takeWhile p).length

/-- Moves over one break, if there is one. -/
def skipBreak (c : Cursor) : Cursor :=
  match c.rest with
  | '\r' :: '\n' :: rest => ⟨rest, c.index + 2, c.line + 1, 0⟩
  | b :: rest => if isBreak b then ⟨rest, c.index + 1, c.line + 1, 0⟩ else c
  | [] => c

/-- The break at the cursor as a scalar takes it: the two separators are kept and all others become line
feeds. -/
def breakText (c : Cursor) : List Char :=
  match c.rest with
  | b :: _ => if b == '\u2028' || b == '\u2029' then [b] else if isBreak b then ['\n'] else []
  | [] => []

/-- Whether the text ends or breaks here. -/
def atLineEnd (c : Cursor) : Bool :=
  match c.rest with
  | [] => true
  | b :: _ => isBreak b

/-- Whether a blank, a break or the end is here. -/
def atBlank (c : Cursor) : Bool := startsBlank c.rest

/-- Whether the line starts here with a document marker: three dashes or three points, and a blank. -/
def atDocumentMarker (c : Cursor) : Bool :=
  c.column == 0 &&
    match c.rest with
    | '-' :: '-' :: '-' :: rest => startsBlank rest
    | '.' :: '.' :: '.' :: rest => startsBlank rest
    | _ => false

/-- Moves over the blanks and the comment at the end of a line. -/
def skipComment (c : Cursor) : Cursor :=
  match c.rest with
  | '#' :: _ => c.skipWhile (!isBreak ·)
  | _ => c

/-- Moves over blanks, a comment and the break after them; none if something else stands on the line. -/
def endLine? (c : Cursor) : Option Cursor :=
  let c := (c.skipWhile isSpaceOrTab).skipComment
  if c.atLineEnd then some c.skipBreak else none

end Cursor

end DocPath.Yaml
