import DocPath.Path.Lexer
import DocPath.Path.Segment
import DocPath.Text.Numeral
import DocPath.Word

/-!
# Compiling expressions

Each token becomes one segment. The only token that can be refused is an array index whose numeral does
not fit into 64 bits. An expression is cut into tokens as a whole before any token is compiled, so a
lexing error anywhere wins over an index that is too large.
-/

namespace DocPath.Path

open DocPath.Text (NumeralError Numeral.read)

/-- An array index that is no unsigned 64-bit numeral. -/
structure CompileError where
  lexeme : String
  position : Nat
  cause : NumeralError
  deriving DecidableEq, Repr

/-- What is wrong with the index. -/
def CompileError.reason (e : CompileError) : String :=
  "invalid array index \x60" ++ e.lexeme ++ "\x60 at position " ++ toString e.position ++ ": " ++
    e.cause.message

/-- The wording of a compile error. -/
def CompileError.message (e : CompileError) : String := "compile error: " ++ e.reason

/-- Why an expression is not a path. -/
inductive ParseError where
  | lex (error : LexError)
  | compile (error : CompileError)
  deriving DecidableEq, Repr

/-- The wording of a parse error is that of its cause. -/
def ParseError.message : ParseError → String
  | .lex e => e.message
  | .compile e => e.message

/-- The segment that a token stands for. -/
def Segment.ofToken (token : Token) : Except CompileError Segment :=
  match token.kind with
  | .method => .ok ⟨.method token.lexeme, token.mandatory⟩
  | .symbolKey => .ok ⟨.symbolKey token.lexeme, token.mandatory⟩
  | .stringKey => .ok ⟨.stringKey token.lexeme, token.mandatory⟩
  | .genericKey => .ok ⟨.genericKey token.lexeme, token.mandatory⟩
  | .arrayIndex =>
    match Numeral.read wordBound token.lexeme.toList with
    | .ok n => .ok ⟨.arrayIndex (UInt64.ofNat n), token.mandatory⟩
    | .error cause => .error ⟨token.lexeme, token.position, cause⟩

/-- The segments of a list of tokens, or the first error. -/
def segmentsOfTokens : List Token → Except CompileError (List Segment)
  | [] => .ok []
  | token :: rest =>
    match Segment.ofToken token with
    | .error e => .error e
    | .ok segment =>
      match segmentsOfTokens rest with
      | .error e => .error e
      | .ok segments => .ok (segment :: segments)

/-- The path of a list of tokens. -/
def ofTokens (tokens : List Token) : Except CompileError Path :=
  (segmentsOfTokens tokens).map Path.mk

/-- Compiles an expression. -/
def parse (expression : String) : Except ParseError Path :=
  match tokenize expression with
  | .error e => .error (.lex e)
  | .ok tokens =>
    match ofTokens tokens with
    | .error e => .error (.compile e)
    | .ok path => .ok path

end DocPath.Path
