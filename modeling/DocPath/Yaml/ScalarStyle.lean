import DocPath.Yaml.Character
import DocPath.Yaml.Scalar

/-!
# Styles of written strings

A string is written plain where its text allows it and would be read back as a string; with line feeds it is
written as a literal block. What a style cannot hold goes into single quotes, and what these cannot hold
into double quotes.
-/

namespace DocPath.Yaml

inductive ScalarStyle where
  | plain
  | singleQuoted
  | doubleQuoted
  | literal
  deriving DecidableEq

/-- Whether two characters stand next to each other somewhere, the first with one property and the second
with the other. -/
def hasAdjacent (p q : Char → Bool) : List Char → Bool
  | c :: d :: rest => (p c && q d) || hasAdjacent p q (d :: rest)
  | _ => false

/-- A space before or after the other characters cannot be written in every style. -/
def isSpace (c : Char) : Bool := c == ' '

/-- Whether a comment or a mapping value starts somewhere after the first character; `previous` stands
before the text. -/
def hasInnerIndicator (previous : Char) : List Char → Bool
  | [] => false
  | c :: rest =>
    (c == ':' && startsBlank rest) || (c == '#' && isBlankOrBreak previous) || hasInnerIndicator c rest

/-- Whether a text would not be read as a plain scalar from its first to its last character. -/
def hasIndicator (text : List Char) : Bool :=
  match text with
  | [] => false
  | '-' :: '-' :: '-' :: _ => true
  | '.' :: '.' :: '.' :: _ => true
  | c :: rest =>
    isIndicator c || ((c == '?' || c == ':' || c == '-') && startsBlank rest) || hasInnerIndicator c rest

/-- Whether a text has a break, so that it takes several lines. -/
def isMultiline (text : List Char) : Bool := text.any isBreak

/-- Whether a character has to be escaped, or a blank would get lost before a break. -/
def needsEscapes (text : List Char) : Bool :=
  text.any (!isPlainPrintable ·) || hasAdjacent isSpace isBreak text

/-- Whether a text may stand outside quotes in a block. -/
def allowsPlain (text : List Char) : Bool :=
  !needsEscapes text && !isMultiline text && !hasIndicator text &&
    !(text.head?.any isSpace || text.getLast?.any isSpace)

/-- Whether a text may stand between single quotes. -/
def allowsSingleQuotes (text : List Char) : Bool :=
  !needsEscapes text && !hasAdjacent isBreak isSpace text

/-- Whether a text may be a literal block. -/
def allowsLiteral (text : List Char) : Bool := !needsEscapes text && !text.getLast?.any isSpace

/-- The style that a string is written in. -/
def ScalarStyle.ofString (text : List Char) : ScalarStyle :=
  if text.contains '\n' then
    if allowsLiteral text then .literal else .doubleQuoted
  else if allowsPlain text && !Scalar.isAmbiguous text then .plain
  else if allowsSingleQuotes text then .singleQuoted
  else .doubleQuoted

end DocPath.Yaml
