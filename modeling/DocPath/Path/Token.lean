/-!
# Tokens of a path expression

A path expression is a row of segments: `.name`, `[:name]`, `['text']` or `["text"]`, `[42]` and
`[name]`. A `!` makes a segment mandatory; it stands after the dot, before the bracket or inside it.
-/

namespace DocPath.Path

/-- The five shapes of a segment. -/
inductive TokenKind where
  | method
  | symbolKey
  | stringKey
  | arrayIndex
  | genericKey
  deriving DecidableEq, Repr

/-- The name of a shape, as token listings show it. -/
def TokenKind.name : TokenKind → String
  | .method => "method"
  | .symbolKey => "symbol"
  | .stringKey => "string"
  | .arrayIndex => "array_index"
  | .genericKey => "index"

/-- One segment of an expression, before its text is interpreted. -/
structure Token where
  kind : TokenKind
  /-- The method name, key text or index digits. -/
  lexeme : String
  /-- Everything the segment occupies, with its delimiters and `!`. -/
  matchedText : String
  mandatory : Bool
  /-- The byte offset at which the segment starts. -/
  position : Nat
  deriving DecidableEq, Repr

/-- No segment starts at the byte offset `position`. -/
structure LexError where
  position : Nat
  deriving DecidableEq, Repr

/-- The wording of a lexing error. -/
def LexError.message (e : LexError) : String := s!"lexer error at position {e.position}"

end DocPath.Path
