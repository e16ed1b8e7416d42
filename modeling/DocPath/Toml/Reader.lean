import DocPath.Text.Numeral

/-!
# Reading TOML text

A reader takes what it needs from the front of a text, or fails and takes nothing. Lines end with a line feed,
with or without a carriage return before it, and no control characters but tabs may stand anywhere.
-/

namespace DocPath.Toml

/-- Takes a value from the front of a text. -/
abbrev Reader (α : Type) := StateT (List Char) Option α

namespace Reader

/-- Takes a character with a property. -/
def satisfying (p : Char → Bool) : Reader Char
  | c :: rest => if p c then some (c, rest) else none
  | [] => none

/-- Takes one given character. -/
def char (c : Char) : Reader Unit := discard (satisfying (· == c))

/-- Takes the given characters. -/
def chars (text : List Char) : Reader Unit := fun rest =>
  if text.isPrefixOf rest then some ((), rest.drop text.length) else none

/-- Takes all characters up to the first without a property. -/
def takeWhile (p : Char → Bool) : Reader (List Char) := fun rest =>
  some (rest.takeWhile p, rest.dropWhile p)

/-- Takes as many characters as there are with a property, and at least one. -/
def takeSome (p : Char → Bool) : Reader (List Char) := do
  let first ← satisfying p
  return first :: (← takeWhile p)

/-- Takes what a reader takes, or nothing where it fails. -/
def optionally {α : Type} (reader : Reader α) : Reader (Option α) :=
  (some <$> reader) <|> pure none

/-- Takes values as long as a reader succeeds, at most `fuel` of them. -/
def manyWithin {α : Type} (reader : Reader α) : (fuel : Nat) → Reader (List α)
  | 0 => pure []
  | fuel + 1 => do
    match ← optionally reader with
    | some a => return a :: (← manyWithin reader fuel)
    | none => return []

/-- Takes values as long as a reader succeeds. Since each takes a character or more, there are no more of
them than characters. -/
def many {α : Type} (reader : Reader α) : Reader (List α) := fun rest =>
  manyWithin reader rest.length rest

/-- Takes any number of values with commas between them. -/
def separated {α : Type} (reader : Reader α) : Reader (List α) := do
  match ← optionally reader with
  | some first => return first :: (← many (do char ','; reader))
  | none => return []

/-! ### Blanks, comments and line ends -/

def isBlank (c : Char) : Bool := c == ' ' || c == '\t'

/-- Whether a character may stand in a comment. -/
def isPrintable (c : Char) : Bool := c == '\t' || (' ' ≤ c && c != '\x7f')

def blanks : Reader Unit := discard (takeWhile isBlank)

/-- Takes a break between two lines. -/
def newline : Reader Unit := char '\n' <|> chars ['\r', '\n']

/-- Takes a comment, without the break after it. -/
def comment : Reader Unit := do
  char '#'
  discard (takeWhile isPrintable)

/-- Succeeds where the text ends. -/
def atEnd : Reader Unit
  | [] => some ((), [])
  | _ :: _ => none

/-- Takes the rest of a line, on which only blanks and a comment may stand, with its break. -/
def lineEnd : Reader Unit := do
  blanks
  discard (optionally comment)
  newline <|> atEnd

/-- Takes blanks, breaks and comments. -/
def gap : Reader Unit := do
  discard (many (discard (takeSome isBlank) <|> newline <|> comment))

/-! ### Digits -/

/-- Takes what follows a digit in a row of digits: more digits, each with at most one underscore before it.
The underscores are left out. -/
def moreDigits (isDigit : Char → Bool) : Reader (List Char) := fun rest => some (go rest)
where
  go : List Char → List Char × List Char
    | '_' :: c :: rest =>
      if isDigit c then let (digits, rest) := go rest; (c :: digits, rest) else ([], '_' :: c :: rest)
    | c :: rest =>
      if isDigit c then let (digits, rest) := go rest; (c :: digits, rest) else ([], c :: rest)
    | [] => ([], [])

/-- Takes a row of digits, between which single underscores may stand. -/
def digits (isDigit : Char → Bool) : Reader (List Char) := do
  let first ← satisfying isDigit
  return first :: (← moreDigits isDigit)

end Reader

end DocPath.Toml
