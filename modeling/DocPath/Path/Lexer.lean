import DocPath.Path.Token

/-!
# Cutting an expression into tokens

Scanning goes from left to right. At each place the shapes are tried in a fixed order (method, symbol
key, string key, array index, generic key) and the first that fits is taken; scanning goes on right
after it. All delimiters and word characters are ASCII, so a segment has as many bytes as characters.
-/

namespace DocPath.Path

/-- The ASCII letters, digits and the underscore, of which names and key texts are made. -/
def isWordChar (c : Char) : Bool := c.isAlphanum || c == '_'

/-- A segment at the front of a text: its parts, the characters it covers and those after it. -/
structure Scanned where
  kind : TokenKind
  lexeme : List Char
  mandatory : Bool
  text : List Char
  rest : List Char

/-- Splits off one `!`, if there is one. -/
def splitBang : List Char → Bool × List Char
  | '!' :: rest => (true, rest)
  | text => (false, text)

/-- The text of a `!` that is there or not. -/
def bangText (bang : Bool) : List Char := if bang then ['!'] else []

/-- Splits off the longest run of accepted characters. -/
def splitRun (accept : Char → Bool) (text : List Char) : List Char × List Char :=
  (text.takeWhile accept, text.dropWhile accept)

/-- `.name` or `.!name`. -/
def scanMethod? : List Char → Option Scanned
  | '.' :: afterDot =>
    let (bang, body) := splitBang afterDot
    match splitRun isWordChar body with
    | ([], _) => none
    | (name, rest) => some ⟨.method, name, bang, '.' :: (bangText bang ++ name), rest⟩
  | _ => none

/-- The inside of a bracketed segment: its parts, the characters up to `]` and those after it. -/
structure Bracketed where
  kind : TokenKind
  lexeme : List Char
  text : List Char
  rest : List Char

/-- `:name]`. -/
def symbolKey? : List Char → Option Bracketed
  | ':' :: body =>
    match splitRun isWordChar body with
    | ([], _) => none
    | (name, ']' :: rest) => some ⟨.symbolKey, name, ':' :: (name ++ [']']), rest⟩
    | _ => none
  | _ => none

/-- `'text']` or `"text"]`, with the same quote on both sides. -/
def stringKey? : List Char → Option Bracketed
  | quote :: body =>
    if quote == '\'' || quote == '"' then
      match splitRun isWordChar body with
      | ([], _) => none
      | (text, closing :: ']' :: rest) =>
        if closing == quote then
          some ⟨.stringKey, text, quote :: (text ++ [quote, ']']), rest⟩
        else none
      | _ => none
    else none
  | [] => none

/-- `42]`. -/
def arrayIndex? (body : List Char) : Option Bracketed :=
  match splitRun Char.isDigit body with
  | ([], _) => none
  | (digits, ']' :: rest) => some ⟨.arrayIndex, digits, digits ++ [']'], rest⟩
  | _ => none

/-- `name]`. -/
def genericKey? (body : List Char) : Option Bracketed :=
  match splitRun isWordChar body with
  | ([], _) => none
  | (text, ']' :: rest) => some ⟨.genericKey, text, text ++ [']'], rest⟩
  | _ => none

/-- The first kind of key that fits the inside of a bracket. -/
def bracketed? (body : List Char) : Option Bracketed :=
  (symbolKey? body).or ((stringKey? body).or ((arrayIndex? body).or (genericKey? body)))

/-- A bracketed segment, with `!` before the bracket, inside it or on both sides of it. -/
def scanBracket? (text : List Char) : Option Scanned :=
  let (outer, opening) := splitBang text
  match opening with
  | '[' :: inside =>
    let (inner, body) := splitBang inside
    (bracketed? body).map fun b =>
      ⟨b.kind, b.lexeme, outer || inner, bangText outer ++ '[' :: (bangText inner ++ b.text), b.rest⟩
  | _ => none

/-- The segment at the front of a text. -/
def scanSegment? (text : List Char) : Option Scanned :=
  (scanMethod? text).or (scanBracket? text)

/-! ### A segment splits the text in front of which it stands -/

theorem bangText_append_splitBang (text : List Char) :
    bangText (splitBang text).1 ++ (splitBang text).2 = text := by
  unfold splitBang
  split <;> simp [bangText]

theorem splitRun_eq_append {accept : Char → Bool} {text run rest : List Char}
    (h : splitRun accept text = (run, rest)) : text = run ++ rest := by
  cases h
  exact List.takeWhile_append_dropWhile.symm

theorem scanMethod?_append {text : List Char} {found : Scanned} (h : scanMethod? text = some found) :
    found.text ++ found.rest = text := by
  unfold scanMethod? at h
  split at h
  next afterDot =>
    dsimp only at h
    split at h
    · cases h
    next name rest _ hword =>
      cases h
      have hbang := bangText_append_splitBang afterDot
      rw [splitRun_eq_append hword] at hbang
      simpa using hbang
  next => cases h

theorem bracketed?_append {body : List Char} {found : Bracketed} (h : bracketed? body = some found) :
    found.text ++ found.rest = body := by
  simp only [bracketed?, Option.or_eq_some_iff] at h
  rcases h with h | ⟨_, h | ⟨_, h | ⟨_, h⟩⟩⟩
  · unfold symbolKey? at h
    split at h
    next inside =>
      split at h
      · cases h
      next name rest _ hword => cases h; simp [splitRun_eq_append hword]
      · cases h
    next => cases h
  · unfold stringKey? at h
    split at h
    next quote inside =>
      split at h
      next =>
        split at h
        · cases h
        next text closing rest _ hword =>
          split at h
          next hquote => cases h; simp [splitRun_eq_append hword, eq_of_beq hquote]
          next => cases h
        · cases h
      next => cases h
    next => cases h
  · unfold arrayIndex? at h
    split at h
    · cases h
    next digits rest _ hdigits => cases h; simp [splitRun_eq_append hdigits]
    · cases h
  · unfold genericKey? at h
    split at h
    · cases h
    next text rest _ hword => cases h; simp [splitRun_eq_append hword]
    · cases h

theorem scanBracket?_append {text : List Char} {found : Scanned}
    (h : scanBracket? text = some found) : found.text ++ found.rest = text := by
  unfold scanBracket? at h
  dsimp only at h
  split at h
  next inside hopen =>
    obtain ⟨b, hb, rfl⟩ := Option.map_eq_some_iff.mp h
    have houter := bangText_append_splitBang text
    have hinner := bangText_append_splitBang inside
    rw [hopen] at houter
    rw [← bracketed?_append hb] at hinner
    rw [← hinner] at houter
    simpa using houter
  next => cases h

theorem scanSegment?_append {text : List Char} {found : Scanned}
    (h : scanSegment? text = some found) : found.text ++ found.rest = text := by
  simp only [scanSegment?, Option.or_eq_some_iff] at h
  rcases h with h | ⟨_, h⟩
  · exact scanMethod?_append h
  · exact scanBracket?_append h

/-- A segment is never empty. -/
theorem scanSegment?_text_ne_nil {text : List Char} {found : Scanned}
    (h : scanSegment? text = some found) : found.text ≠ [] := by
  simp only [scanSegment?, Option.or_eq_some_iff] at h
  rcases h with h | ⟨_, h⟩
  · unfold scanMethod? at h
    split at h
    next =>
      dsimp only at h
      split at h
      · cases h
      · cases h; simp
    next => cases h
  · unfold scanBracket? at h
    dsimp only at h
    split at h
    next =>
      obtain ⟨b, _, rfl⟩ := Option.map_eq_some_iff.mp h
      simp
    next => cases h

theorem scanSegment?_rest_length_lt {text : List Char} {found : Scanned}
    (h : scanSegment? text = some found) : found.rest.length < text.length := by
  have happend := congrArg List.length (scanSegment?_append h)
  have hpos := List.length_pos_iff.mpr (scanSegment?_text_ne_nil h)
  simp only [List.length_append] at happend
  omega

/-! ### Whole expressions -/

/-- The token of a scanned segment that starts at the byte offset `position`. -/
def Scanned.token (found : Scanned) (position : Nat) : Token where
  kind := found.kind
  lexeme := String.ofList found.lexeme
  matchedText := String.ofList found.text
  mandatory := found.mandatory
  position := position

/-- The tokens at the front of an expression and the error that ended them, if any. -/
structure Lexing where
  tokens : List Token
  stopped : Option LexError

/-- Scans the text at the byte offset `position` to its end or to the first place where no segment
starts. -/
def lexFrom (position : Nat) (text : List Char) : Lexing :=
  match text with
  | [] => ⟨[], none⟩
  | c :: cs =>
    match _hfound : scanSegment? (c :: cs) with
    | none => ⟨[], some ⟨position⟩⟩
    | some found =>
      let token := found.token position
      let later := lexFrom (position + token.matchedText.utf8ByteSize) found.rest
      ⟨token :: later.tokens, later.stopped⟩
termination_by text.length
decreasing_by exact scanSegment?_rest_length_lt ‹_›

/-- Scans an expression until it ends or the first error. -/
def lex (expression : String) : Lexing := lexFrom 0 expression.toList

/-- All tokens of an expression, or the first error. -/
def tokenize (expression : String) : Except LexError (List Token) :=
  match lex expression with
  | ⟨tokens, none⟩ => .ok tokens
  | ⟨_, some e⟩ => .error e

/-! ### One token at a time -/

/-- A lexer between two tokens: how far it has come, what is left, and whether it has met an error. -/
structure Lexer where
  position : Nat
  rest : List Char
  failed : Bool

/-- A lexer in front of an expression. -/
def Lexer.start (expression : String) : Lexer := ⟨0, expression.toList, false⟩

/-- The next token, or the error in its place, and the lexer behind it. At the end of the expression and
after an error there is nothing more. -/
def Lexer.next (lexer : Lexer) : Option (Except LexError Token) × Lexer :=
  if lexer.failed || lexer.rest.isEmpty then (none, lexer)
  else
    match scanSegment? lexer.rest with
    | none => (some (.error ⟨lexer.position⟩), { lexer with failed := true })
    | some found =>
      let token := found.token lexer.position
      (some (.ok token), ⟨lexer.position + token.matchedText.utf8ByteSize, found.rest, false⟩)

end DocPath.Path
