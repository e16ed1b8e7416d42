import DocPath.Toml.Reader

/-!
# TOML strings

A basic string stands in double quotes and knows escapes; a literal string stands in single quotes and is
taken as it is. Either kind may run over several lines between three quotes on each side; then a break right
after the opening quotes does not count, and up to two quotes may stand before the closing ones.
-/

namespace DocPath.Toml.Reader

open DocPath.Text.Numeral (digitIn? natural?)

/-- Whether a character stands for itself in strings in the given quotes. -/
def isLiteral (quote c : Char) : Bool := isPrintable c && c != quote

/-- Whether a character stands for itself in a string with escapes. -/
def isUnescaped (c : Char) : Bool := isLiteral '"' c && c != '\\'

/-- Takes as many hexadecimal digits as given, which are the number of a character. -/
def characterNumber (count : Nat) : Reader Char := fun rest => do
  let n ← natural? 16 (rest.take count)
  if (rest.take count).length = count ∧ n.isValidChar then some (Char.ofNat n, rest.drop count) else none

/-- Takes an escape. -/
def escape : Reader Char := do
  char '\\'
  match ← satisfying fun _ => true with
  | 'b' => return '\x08'
  | 'f' => return '\x0c'
  | 'n' => return '\n'
  | 'r' => return '\r'
  | 't' => return '\t'
  | '"' => return '"'
  | '\\' => return '\\'
  | 'u' => characterNumber 4
  | 'U' => characterNumber 8
  | _ => failure

/-- Takes a string on one line: characters between quotes. -/
def quotedText (quote : Char) (character : Reader Char) : Reader String := do
  char quote
  let content ← many character
  char quote
  return String.ofList content

/-- Takes a basic string on one line. -/
def basicText : Reader String := quotedText '"' (satisfying isUnescaped <|> escape)

/-- Takes a literal string on one line. -/
def literalText : Reader String := quotedText '\'' (satisfying (isLiteral '\''))

/-- Takes a backslash at the end of a line, with all the blanks and breaks after it. -/
def continuation : Reader Unit := do
  char '\\'
  blanks
  newline
  discard (many (discard (takeSome isBlank) <|> newline))

/-- Takes one or two quotes after which another quote does not follow. -/
def loneQuotes (quote : Char) : Reader (List Char) := do
  let quotes ← takeSome (· == quote)
  if quotes.length ≤ 2 then return quotes else failure

/-- Takes the closing quotes of a string of several lines, and up to two quotes before them. -/
def closingQuotes (quote : Char) : Reader (List Char) := fun rest =>
  let count := (rest.takeWhile (· == quote)).length
  if 3 ≤ count then some (List.replicate (min (count - 3) 2) quote, rest.drop (min count 5)) else none

/-- Takes a string of several lines, of which a reader takes the characters that are neither breaks nor
quotes. -/
def longText (quote : Char) (character : Reader (List Char)) : Reader String := do
  chars (List.replicate 3 quote)
  discard (optionally newline)
  let piece := character <|> (do newline; return ['\n']) <|> loneQuotes quote
  let content ← many piece
  let quotes ← closingQuotes quote
  return String.ofList (content.flatten ++ quotes)

/-- Takes a basic string of several lines. -/
def longBasicText : Reader String :=
  longText '"' ((do return [← satisfying isUnescaped]) <|> (do continuation; return []) <|>
    (do return [← escape]))

/-- Takes a literal string of several lines. -/
def longLiteralText : Reader String := longText '\'' do return [← satisfying (isLiteral '\'')]

/-- Takes a string of any kind. -/
def string : Reader String := longBasicText <|> basicText <|> longLiteralText <|> literalText

end DocPath.Toml.Reader
