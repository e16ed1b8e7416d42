/-!
# Characters of YAML

The character classes on which both reading and writing depend. There are five line breaks, of which a
carriage return may be followed by a line feed.
-/

namespace DocPath.Yaml

/-- Line feed, carriage return, next line, line separator and paragraph separator. -/
def isBreak (c : Char) : Bool :=
  c == '\n' || c == '\r' || c == '\x85' || c == '\u2028' || c == '\u2029'

/-- Space and tab. -/
def isSpaceOrTab (c : Char) : Bool := c == ' ' || c == '\t'

/-- Blanks, breaks and the null character, which ends a text. -/
def isBlankOrBreak (c : Char) : Bool := isSpaceOrTab c || isBreak c || c == '\x00'

/-- Whether the next character is a blank or a break, or there is none. -/
def startsBlank : List Char → Bool
  | [] => true
  | c :: _ => isBlankOrBreak c

/-- The characters that mean something at the start of a node. -/
def isIndicator (c : Char) : Bool :=
  ['#', ',', '[', ']', '\x7b', '\x7d', '&', '*', '!', '|', '>', '\'', '"', '%', '@', '\x60'].contains c

/-- The characters that may stand in a document as they are when it is written: of the controls only the line
feed, and neither the byte order mark nor the last two of the basic plane. -/
def isPlainPrintable (c : Char) : Bool :=
  let n := c.toNat
  n == 0x0A || (0x20 ≤ n && n ≤ 0x7E) || (0xA0 ≤ n && n ≤ 0xFFFD && n != 0xFEFF) || 0x10000 ≤ n

/-- The upper-case hexadecimal digits of a number, padded with zeros to a width. -/
def hexPadded (width n : Nat) : List Char :=
  let digits := (Nat.toDigits 16 n).map Char.toUpper
  List.replicate (width - digits.length) '0' ++ digits

end DocPath.Yaml
