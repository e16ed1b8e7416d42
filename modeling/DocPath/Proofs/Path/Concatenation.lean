import DocPath.Proofs.Path.Compiling

/-!
# Expressions one after the other

Scanning does not look back, and only a dotted word looks ahead: it goes on as long as it can. So an expression
and a text behind it are cut as they are on their own, unless the expression ends with a dotted word and the
text starts with a word character. The tokens and the error of the text only count their offsets from further
ahead.
-/

namespace DocPath.Path

/-! ## Further ahead -/

/-- The same token with `offset` more bytes in front. -/
def Token.shift (offset : Nat) (token : Token) : Token :=
  { token with position := offset + token.position }

/-- The same error with `offset` more bytes in front. -/
def LexError.shift (offset : Nat) (e : LexError) : LexError := ⟨offset + e.position⟩

/-- Behind a text of some bytes the tokens stand that much further on. -/
theorem rowTokens_shift (offset position : Nat) (row : List Spelling) :
    rowTokens (offset + position) row = (rowTokens position row).map (Token.shift offset) := by
  induction row generalizing position with
  | nil => rfl
  | cons spelling row ih =>
      rw [rowTokens, rowTokens, List.map_cons, Nat.add_assoc, ih]
      rfl

/-- The offset of a text shows in the offsets of its tokens and of its error, and nowhere else. -/
theorem lexFrom_shift (offset position : Nat) (text : List Char) :
    lexFrom (offset + position) text =
      ⟨(lexFrom position text).tokens.map (Token.shift offset),
        (lexFrom position text).stopped.map (LexError.shift offset)⟩ := by
  -- Which row the text starts with does not depend on the offset.
  obtain ⟨row, rest, rfl, hstops, hend⟩ := exists_row text
  rw [lexFrom_eq_of_row _ hstops hend, lexFrom_eq_of_row _ hstops hend, rowTokens_shift]
  by_cases hrest : rest = []
  · simp [hrest]
  · simp [hrest, LexError.shift, Nat.add_assoc]

/-! ## Where an expression may be cut -/

/-- Only a bracketed segment ends with a bracket, and nothing continues it. -/
theorem Spelling.stopsBefore_of_closed {spelling : Spelling}
    (hclosed : spelling.text.getLast? = some ']') (rest : List Char) : spelling.StopsBefore rest := by
  cases spelling with
  | bracketed before within inside => trivial
  | dotted bang name =>
      exfalso
      have hlast : (Spelling.dotted bang name).text.getLast? = name.chars.getLast? := by
        rw [Spelling.text, ← List.cons_append, List.getLast?_append_of_ne_nil _ name.chars_ne_nil]
      rw [hlast] at hclosed
      have hword := name.isWordChar_of_mem ']' (List.mem_of_getLast? hclosed)
      exact not_isWordChar_of_mem_delimiters (by decide) hword

theorem getLast?_rowText {row : List Spelling} {spelling : Spelling}
    (hlast : row.getLast? = some spelling) : (rowText row).getLast? = spelling.text.getLast? := by
  obtain ⟨init, rfl⟩ := List.getLast?_eq_some_iff.mp hlast
  rw [rowText_append, rowText_cons, rowText_nil, List.append_nil,
    List.getLast?_append_of_ne_nil _ spelling.text_ne_nil]

/-- A row is not continued if it is empty, if it ends with a bracket, or if no word character follows. -/
theorem rowStopsBefore_of_cut {row : List Spelling} {rest : List Char}
    (hcut : rowText row = [] ∨ (rowText row).getLast? = some ']' ∨ StopsWord rest) :
    RowStopsBefore row rest := by
  intro spelling hlast
  have htext := getLast?_rowText (Option.mem_def.mp hlast)
  rcases hcut with hempty | hclosed | hrest
  · rw [hempty, List.getLast?_nil] at htext
    exact absurd (List.getLast?_eq_none_iff.mp htext.symm) spelling.text_ne_nil
  · exact spelling.stopsBefore_of_closed (htext ▸ hclosed) rest
  · exact spelling.stopsBefore_of_stopsWord hrest

/-! ## Concatenation -/

/-- Compiled expressions concatenate without a condition: a row of segments never starts with a word
character. -/
theorem parse_append {a b : String} {path more : Path} (ha : Path.parse a = .ok path)
    (hb : Path.parse b = .ok more) : Path.parse (a ++ b) = .ok ⟨path.segments ++ more.segments⟩ := by
  obtain ⟨row, rfl, hrow⟩ := parse_eq_ok_iff_row.mp ha
  obtain ⟨other, rfl, hother⟩ := parse_eq_ok_iff_row.mp hb
  refine parse_eq_ok_iff_row.mpr ⟨row ++ other, ?_, List.rel_append hrow hother⟩
  rw [rowText_append, String.ofList_append]

/-- An expression that can be cut into tokens, and any text behind it. Unless the expression ends with a
dotted word and the text starts with a word character, the tokens are those of the expression and then those
of the text, or else there is the error of the text, with offsets that count the bytes of the expression. So
the segments of two compiled expressions come one after the other in the path of their concatenation. -/
theorem tokenize_append (a b : String) :
    (∀ tokens, tokenize a = .ok tokens →
      a = "" ∨ a.toList.getLast? = some ']' ∨ (∀ c ∈ b.toList.head?, ¬ IsWordChar c) →
      tokenize (a ++ b) =
        match tokenize b with
        | .ok more => .ok (tokens ++ more.map (Token.shift a.utf8ByteSize))
        | .error e => .error (e.shift a.utf8ByteSize)) ∧
    ∀ path more, Path.parse a = .ok path → Path.parse b = .ok more →
      Path.parse (a ++ b) = .ok ⟨path.segments ++ more.segments⟩ := by
  refine ⟨fun tokens htokens hcut => ?_, fun path more => parse_append⟩
  obtain ⟨row, rfl⟩ := exists_row_of_tokenize htokens
  rw [tokenize_rowText] at htokens
  obtain rfl := Except.ok.inj htokens
  rw [String.toList_ofList, String.ofList_eq_empty_iff] at hcut
  have hlex : lex (String.ofList (rowText row) ++ b) =
      ⟨rowTokens 0 row ++ (lex b).tokens.map (Token.shift (rowByteSize row)),
        (lex b).stopped.map (LexError.shift (rowByteSize row))⟩ := by
    rw [lex, String.toList_append, String.toList_ofList,
      lexFrom_rowText_append 0 (rowStopsBefore_of_cut hcut), Nat.zero_add,
      ← Nat.add_zero (rowByteSize row), lexFrom_shift, Nat.add_zero]
    rfl
  rw [tokenize, hlex, utf8ByteSize_rowText, tokenize]
  rcases lex b with ⟨more, _ | e⟩
  · rfl
  · rfl

/-- An instance behind a bracket: the text cannot be cut on its own, and so not there, five bytes further
ahead. -/
theorem tokenize_append_of_bracket :
    tokenize ".a[b]" = .ok [⟨.method, "a", ".a", false, 0⟩, ⟨.genericKey, "b", "[b]", false, 2⟩] ∧
      tokenize "c" = .error ⟨0⟩ ∧ tokenize (".a[b]" ++ "c") = .error ⟨5⟩ := by
  have hexpression : tokenize ".a[b]" =
      .ok [⟨.method, "a", ".a", false, 0⟩, ⟨.genericKey, "b", "[b]", false, 2⟩] := by
    decide +kernel
  have htext : tokenize "c" = .error ⟨0⟩ := by decide +kernel
  refine ⟨hexpression, htext, ?_⟩
  rw [(tokenize_append ".a[b]" "c").1 _ hexpression (Or.inr (Or.inl (by decide))), htext]
  rfl

end DocPath.Path
