import Mathlib.Data.List.Basic
import DocPath.Path.Lexer

/-!
# The grammar of path expressions

How a segment may be written, apart from how it is found. A word is one or more letters, digits and
underscores. A segment is a dotted word or a bracketed inside, and an expression is a row of segments with
nothing between them. What a segment is written like determines its token, and a text is a row of segments
in at most one way.
-/

namespace DocPath.Path

/-! ## Words -/

/-- The ASCII letters, the ASCII digits and the underscore. -/
def IsWordChar (c : Char) : Prop :=
  ('a' ≤ c ∧ c ≤ 'z') ∨ ('A' ≤ c ∧ c ≤ 'Z') ∨ ('0' ≤ c ∧ c ≤ '9') ∨ c = '_'

/-- The scanner's test for the characters of words. -/
@[simp] theorem isWordChar_eq_true_iff {c : Char} : isWordChar c = true ↔ IsWordChar c := by
  unfold isWordChar IsWordChar Char.isAlphanum Char.isAlpha Char.isUpper Char.isLower Char.isDigit
  simp only [Bool.or_eq_true, Bool.and_eq_true, decide_eq_true_eq, beq_iff_eq, Char.le_def]
  tauto

/-- The characters with a meaning of their own. -/
def delimiters : List Char := ['.', '!', '[', ']', ':', '\'', '"']

theorem not_isWordChar_of_mem_delimiters {d : Char} (hd : d ∈ delimiters) : ¬ IsWordChar d := by
  have hall : delimiters.all (fun d => !isWordChar d) = true := by decide
  have hfalse : isWordChar d = false := Bool.not_inj (List.all_eq_true.mp hall d hd)
  exact mt isWordChar_eq_true_iff.mpr (Bool.eq_false_iff.mp hfalse)

theorem IsWordChar.ne_delimiter {c : Char} (hword : IsWordChar c) {d : Char} (hd : d ∈ delimiters) :
    c ≠ d := by
  rintro rfl
  exact not_isWordChar_of_mem_delimiters hd hword

theorem isWordChar_of_isDigit {c : Char} (hdigit : c.isDigit = true) : IsWordChar c := by
  rw [← isWordChar_eq_true_iff, isWordChar, Char.isAlphanum, hdigit]
  simp

/-- One or more word characters. -/
@[ext] structure Word where
  chars : List Char
  chars_ne_nil : chars ≠ []
  isWordChar_of_mem : ∀ c ∈ chars, IsWordChar c

/-- Whether a word consists of digits. -/
def Word.isNumeral (word : Word) : Bool := word.chars.all Char.isDigit

theorem Word.chars_eq_cons (word : Word) :
    ∃ first rest, word.chars = first :: rest ∧ IsWordChar first := by
  obtain ⟨first, rest, hchars⟩ := List.exists_cons_of_ne_nil word.chars_ne_nil
  exact ⟨first, rest, hchars, word.isWordChar_of_mem first (hchars ▸ List.mem_cons_self)⟩

/-! ## Segments -/

/-- The two quotes around the text of a string key. -/
inductive Quote where
  | single
  | double

def Quote.char : Quote → Char
  | .single => '\''
  | .double => '"'

theorem Quote.char_mem_delimiters (quote : Quote) : quote.char ∈ delimiters := by
  cases quote <;> decide

theorem Quote.char_injective : Function.Injective Quote.char := by
  intro quote other heq
  cases quote <;> cases other <;> simp_all [Quote.char]

/-- What stands between the brackets of a segment, apart from a `!`. -/
inductive Inside where
  /-- `:name` -/
  | symbol (name : Word)
  /-- `'text'` or `"text"` -/
  | quoted (quote : Quote) (content : Word)
  /-- `text` -/
  | bare (content : Word)

/-- A way to write a segment. -/
inductive Spelling where
  /-- `.name` or `.!name` -/
  | dotted (bang : Bool) (name : Word)
  /-- `[…]`, with a `!` before the bracket, within it, on both sides of it or on none. -/
  | bracketed (before within : Bool) (inside : Inside)

namespace Inside

/-- The characters of an inside. -/
def text : Inside → List Char
  | symbol name => ':' :: name.chars
  | quoted quote content => quote.char :: (content.chars ++ [quote.char])
  | bare content => content.chars

/-- The word in an inside. -/
def word : Inside → Word
  | symbol name => name
  | quoted _ content => content
  | bare content => content

/-- The shape that an inside gives its segment. A bare word of digits is an index. -/
def kind : Inside → TokenKind
  | symbol _ => .symbolKey
  | quoted _ _ => .stringKey
  | bare content => if content.isNumeral then .arrayIndex else .genericKey

end Inside

namespace Spelling

/-- The characters of a segment. -/
def text : Spelling → List Char
  | dotted bang name => '.' :: (bangText bang ++ name.chars)
  | bracketed before within inside =>
      bangText before ++ '[' :: (bangText within ++ (inside.text ++ [']']))

/-- The word in a segment. -/
def word : Spelling → Word
  | dotted _ name => name
  | bracketed _ _ inside => inside.word

/-- The shape of a segment. -/
def kind : Spelling → TokenKind
  | dotted _ _ => .method
  | bracketed _ _ inside => inside.kind

/-- The number of bytes that a segment takes. -/
def byteSize (spelling : Spelling) : Nat := (String.ofList spelling.text).utf8ByteSize

/-- The token of a segment at the byte offset `position`. It is mandatory when a `!` occurs in the
segment. -/
def token (position : Nat) (spelling : Spelling) : Token where
  kind := spelling.kind
  lexeme := String.ofList spelling.word.chars
  matchedText := String.ofList spelling.text
  mandatory := spelling.text.contains '!'
  position := position

end Spelling

/-! ## Rows of segments -/

/-- The characters of segments written one after the other. -/
def rowText (row : List Spelling) : List Char := row.flatMap Spelling.text

/-- The tokens of segments written one after the other, of which the first starts at the byte offset
`position`. -/
def rowTokens (position : Nat) : List Spelling → List Token
  | [] => []
  | spelling :: rest => spelling.token position :: rowTokens (position + spelling.byteSize) rest

@[simp] theorem rowText_nil : rowText [] = [] := rfl

@[simp] theorem rowText_cons (spelling : Spelling) (rest : List Spelling) :
    rowText (spelling :: rest) = spelling.text ++ rowText rest := rfl

/-! ## Spellings can be told apart -/

/-- A `!` can be split off a text that does not start with another one. -/
theorem splitBang_bangText_append (bang : Bool) {text : List Char} (hhead : text.head? ≠ some '!') :
    splitBang (bangText bang ++ text) = (bang, text) := by
  cases bang with
  | true => rfl
  | false =>
      cases text with
      | nil => rfl
      | cons c rest =>
          have hne : c ≠ '!' := fun heq => hhead (by rw [heq, List.head?_cons])
          simp [bangText, splitBang, hne]

/-- Whether there is a bang can be told if neither text goes on with one. -/
theorem bangText_append_inj {bang other : Bool} {text tail : List Char}
    (htext : text.head? ≠ some '!') (htail : tail.head? ≠ some '!')
    (heq : bangText bang ++ text = bangText other ++ tail) : bang = other ∧ text = tail := by
  have hsplit := congrArg splitBang heq
  rw [splitBang_bangText_append bang htext, splitBang_bangText_append other htail] at hsplit
  exact Prod.mk.inj hsplit

theorem Word.head?_ne_bang (word : Word) (rest : List Char) :
    (word.chars ++ rest).head? ≠ some '!' := by
  obtain ⟨first, more, hchars, hfirst⟩ := word.chars_eq_cons
  have hbang : first ≠ '!' := hfirst.ne_delimiter (by decide)
  rw [hchars]
  simpa using hbang

theorem Inside.head?_ne_bang (inside : Inside) (rest : List Char) :
    (inside.text ++ rest).head? ≠ some '!' := by
  cases inside with
  | symbol name => simp [Inside.text]
  | quoted quote content => cases quote <;> simp [Inside.text, Quote.char]
  | bare content => exact content.head?_ne_bang rest

/-- What stands inside brackets can be told from its text: by its first character, and by its last. -/
theorem Inside.text_injective : Function.Injective Inside.text := by
  intro inside other heq
  -- A bare word starts with neither a colon nor a quote, so the first characters tell the kinds apart.
  have hbare : ∀ word : Word, ∀ tail, word.chars ≠ ':' :: tail ∧
      ∀ quote : Quote, word.chars ≠ quote.char :: tail := by
    intro word tail
    obtain ⟨first, rest, hchars, hfirst⟩ := word.chars_eq_cons
    have hcolon : first ≠ ':' := hfirst.ne_delimiter (by decide)
    have hquote : ∀ quote : Quote, first ≠ quote.char := fun quote =>
      hfirst.ne_delimiter quote.char_mem_delimiters
    rw [hchars]
    exact ⟨fun h => hcolon (List.cons.inj h).1, fun quote h => hquote quote (List.cons.inj h).1⟩
  have hcolon : ∀ quote : Quote, ':' ≠ quote.char := by rintro (_ | _) <;> decide
  cases inside with
  | symbol name =>
      cases other with
      | symbol name' => exact congrArg symbol (Word.ext (List.cons.inj heq).2)
      | quoted quote content => exact absurd (List.cons.inj heq).1 (hcolon quote)
      | bare content => exact absurd heq.symm (hbare content _).1
  | quoted quote content =>
      cases other with
      | symbol name => exact absurd (List.cons.inj heq).1.symm (hcolon quote)
      | quoted quote' content' =>
          obtain ⟨hquote, hcontent⟩ := List.cons.inj heq
          obtain rfl := Quote.char_injective hquote
          rw [Word.ext (List.append_cancel_right hcontent)]
      | bare content' => exact absurd heq.symm ((hbare content' _).2 quote)
  | bare content =>
      cases other with
      | symbol name => exact absurd heq (hbare content _).1
      | quoted quote content' => exact absurd heq ((hbare content _).2 quote)
      | bare content' => exact congrArg bare (Word.ext heq)

/-- A segment can be written in one way only. -/
theorem Spelling.text_injective : Function.Injective Spelling.text := by
  -- A dotted segment starts with a dot, and a bracketed one with a `!` or a bracket.
  have hdot : ∀ before tail rest, bangText before ++ '[' :: tail ≠ '.' :: rest := by
    rintro (_ | _) tail rest <;> simp [bangText]
  intro spelling other heq
  cases spelling with
  | dotted bang name =>
      cases other with
      | dotted bang' name' =>
          have hname : (name.chars).head? ≠ some '!' := by simpa using name.head?_ne_bang []
          have hname' : (name'.chars).head? ≠ some '!' := by simpa using name'.head?_ne_bang []
          obtain ⟨rfl, hchars⟩ := bangText_append_inj hname hname' (List.cons.inj heq).2
          rw [Word.ext hchars]
      | bracketed before within inside => exact absurd heq.symm (hdot _ _ _)
  | bracketed before within inside =>
      cases other with
      | dotted bang name => exact absurd heq (hdot _ _ _)
      | bracketed before' within' inside' =>
          obtain ⟨rfl, hopened⟩ := bangText_append_inj (by simp) (by simp) heq
          obtain ⟨rfl, hinside⟩ := bangText_append_inj (inside.head?_ne_bang _)
            (inside'.head?_ne_bang _) (List.cons.inj hopened).2
          rw [Inside.text_injective (List.append_cancel_right hinside)]

end DocPath.Path
