import DocPath.Text.CodePoint

/-!
# White space

The characters with the white space property, and trimming them off the ends of a text.
-/

namespace DocPath.Text

/-- The ranges of white space characters. -/
def blankRanges : Array (Nat × Nat) := #[
  (0x9, 0xD), (0x20, 0x20), (0x85, 0x85), (0xA0, 0xA0), (0x1680, 0x1680), (0x2000, 0x200A),
  (0x2028, 0x2029), (0x202F, 0x202F), (0x205F, 0x205F), (0x3000, 0x3000)]

/-- Whether a character is white space. -/
def isBlank (c : Char) : Bool := inRanges blankRanges c

/-- Removes white space from the front. -/
def trimStart (text : List Char) : List Char := text.dropWhile isBlank

/-- Removes white space from the end. -/
def trimEnd (text : List Char) : List Char := (text.reverse.dropWhile isBlank).reverse

/-- Removes white space from both ends. -/
def trim (text : List Char) : List Char := trimEnd (trimStart text)

end DocPath.Text
