import DocPath.Proofs.Path.Scanning

/-!
# Tokenizing whole expressions

Every text is a row of segments followed by a rest at which no segment starts, and the scan reports just
that: the tokens of the row, and an error at the rest unless it is empty. So the expressions that can be cut
into tokens are the rows of segments, and a row is the only one of its text.
-/

namespace DocPath.Path

/-! ## One step of the scan -/

theorem lexFrom_nil (position : Nat) : lexFrom position [] = ⟨[], none⟩ := by
  rw [lexFrom]

/-- Lexing stops where no segment starts. -/
theorem lexFrom_of_scanSegment?_eq_none (position : Nat) {text : List Char} (hne : text ≠ [])
    (hscan : scanSegment? text = none) : lexFrom position text = ⟨[], some ⟨position⟩⟩ := by
  obtain ⟨c, rest, rfl⟩ := List.exists_cons_of_ne_nil hne
  rw [lexFrom]
  split
  · rfl
  next found hfound =>
    rw [hscan] at hfound
    cases hfound

/-- The `!` of a segment stands nowhere but in front of a bracket or right after its opening. -/
theorem Spelling.contains_bang (spelling : Spelling) : spelling.text.contains '!' = spelling.bang := by
  have hword : ∀ word : Word, '!' ∉ word.chars := fun word hmem =>
    not_isWordChar_of_mem_delimiters (by decide) (word.isWordChar_of_mem '!' hmem)
  have hinside : ∀ inside : Inside, '!' ∉ inside.text := by
    intro inside
    cases inside with
    | symbol name => simpa [Inside.text] using hword name
    | quoted quote content => cases quote <;> simpa [Inside.text, Quote.char] using hword content
    | bare content => exact hword content
  cases spelling with
  | dotted bang name => cases bang <;> simp [Spelling.text, Spelling.bang, bangText, hword name]
  | bracketed before within inside =>
      cases before <;> cases within <;>
        simp [Spelling.text, Spelling.bang, bangText, hinside inside]

/-- The token of what has been scanned does not depend on what follows it. -/
theorem Spelling.token_scanned (spelling : Spelling) (rest : List Char) (position : Nat) :
    (spelling.scanned rest).token position = spelling.token position := by
  simp only [Scanned.token, Spelling.scanned, Spelling.token, spelling.contains_bang]

theorem Spelling.text_ne_nil (spelling : Spelling) : spelling.text ≠ [] := by
  cases spelling <;> simp [Spelling.text]

/-- A segment at the front gives its token, and the scan goes on right after it. -/
theorem lexFrom_text_append (position : Nat) (spelling : Spelling) {rest : List Char}
    (hstops : spelling.StopsBefore rest) :
    lexFrom position (spelling.text ++ rest) =
      ⟨spelling.token position :: (lexFrom (position + spelling.byteSize) rest).tokens,
        (lexFrom (position + spelling.byteSize) rest).stopped⟩ := by
  have hscan := scanSegment?_text_append spelling hstops
  obtain ⟨c, cs, htext⟩ := List.exists_cons_of_ne_nil
    (List.append_ne_nil_of_left_ne_nil spelling.text_ne_nil rest)
  rw [htext] at hscan ⊢
  rw [lexFrom]
  split
  next hnone =>
    rw [hscan] at hnone
    cases hnone
  next found hfound =>
    obtain rfl := Option.some.inj (hscan.symm.trans hfound)
    simp only [spelling.token_scanned]
    rfl

/-! ## Rows of segments -/

/-- The number of bytes that a row of segments takes. -/
def rowByteSize : List Spelling → Nat
  | [] => 0
  | spelling :: row => spelling.byteSize + rowByteSize row

@[simp] theorem rowText_append (row more : List Spelling) :
    rowText (row ++ more) = rowText row ++ rowText more := List.flatMap_append

theorem utf8ByteSize_rowText (row : List Spelling) :
    (String.ofList (rowText row)).utf8ByteSize = rowByteSize row := by
  induction row with
  | nil => rfl
  | cons spelling row ih =>
      rw [rowText_cons, String.ofList_append, String.utf8ByteSize_append, ih, rowByteSize,
        Spelling.byteSize]

/-- A text does not continue the last segment of a row. -/
def RowStopsBefore (row : List Spelling) (rest : List Char) : Prop :=
  ∀ spelling ∈ row.getLast?, spelling.StopsBefore rest

/-- A segment is not continued by another one. -/
theorem stopsWord_text_append (spelling : Spelling) (rest : List Char) :
    StopsWord (spelling.text ++ rest) := by
  have hdelimiter : ∀ d ∈ delimiters, ∀ tail, StopsWord (d :: tail) := fun d hd tail =>
    stopsWord_cons tail (not_isWordChar_of_mem_delimiters hd)
  cases spelling with
  | dotted bang name => exact hdelimiter '.' (by decide) _
  | bracketed before within inside =>
      cases before with
      | true => exact hdelimiter '!' (by decide) _
      | false => exact hdelimiter '[' (by decide) _

theorem Spelling.stopsBefore_of_stopsWord (spelling : Spelling) {rest : List Char}
    (hrest : StopsWord rest) : spelling.StopsBefore rest := by
  cases spelling with
  | dotted bang name => exact hrest
  | bracketed before within inside => trivial

theorem rowStopsBefore_nil (row : List Spelling) : RowStopsBefore row [] :=
  fun spelling _ => spelling.stopsBefore_of_stopsWord (by simp [StopsWord])

theorem RowStopsBefore.tail {spelling : Spelling} {row : List Spelling} {rest : List Char}
    (hstops : RowStopsBefore (spelling :: row) rest) : RowStopsBefore row rest := by
  intro last hlast
  apply hstops
  rw [List.getLast?_cons, Option.mem_def.mp hlast]
  rfl

/-- In a row that stops before a text, every segment stops before what comes after it. -/
theorem RowStopsBefore.head {spelling : Spelling} {row : List Spelling} {rest : List Char}
    (hstops : RowStopsBefore (spelling :: row) rest) : spelling.StopsBefore (rowText row ++ rest) := by
  cases row with
  | nil => exact hstops spelling rfl
  | cons next row =>
      rw [rowText_cons, List.append_assoc]
      exact spelling.stopsBefore_of_stopsWord (stopsWord_text_append next _)

/-- A row of segments at the front gives its tokens, and the scan goes on right after it. -/
theorem lexFrom_rowText_append (position : Nat) {row : List Spelling} {rest : List Char}
    (hstops : RowStopsBefore row rest) :
    lexFrom position (rowText row ++ rest) =
      ⟨rowTokens position row ++ (lexFrom (position + rowByteSize row) rest).tokens,
        (lexFrom (position + rowByteSize row) rest).stopped⟩ := by
  induction row generalizing position with
  | nil => rfl
  | cons spelling row ih =>
      rw [rowText_cons, List.append_assoc, lexFrom_text_append position spelling hstops.head,
        ih _ hstops.tail]
      simp only [rowTokens, rowByteSize, Nat.add_assoc, List.cons_append]

/-- Every text is a row of segments followed by a rest at which no segment starts. -/
theorem exists_row (text : List Char) :
    ∃ (row : List Spelling) (rest : List Char), text = rowText row ++ rest ∧
      RowStopsBefore row rest ∧ (rest = [] ∨ scanSegment? rest = none) := by
  induction hlength : text.length using Nat.strong_induction_on generalizing text with
  | _ length ih =>
      cases hscan : scanSegment? text with
      | none => exact ⟨[], text, rfl, fun _ h => by simp at h, Or.inr hscan⟩
      | some found =>
          obtain ⟨spelling, after, hstops, rfl⟩ := startsSegment_of_scanSegment? hscan
          -- No segment is empty, so what comes after it is shorter than the text.
          have hpos := List.length_pos_iff.mpr spelling.text_ne_nil
          rw [List.length_append] at hlength
          obtain ⟨row, rest, rfl, hrow, hend⟩ := ih after.length (by omega) after rfl
          refine ⟨spelling :: row, rest, by simp, ?_, hend⟩
          intro last hlast
          cases row with
          | nil =>
              obtain rfl := Option.some.inj hlast
              exact hstops
          | cons next row => exact hrow last (by simpa [List.getLast?_cons_cons] using hlast)

/-- The whole outcome of a scan: the tokens of a row, and an error at what is left, if anything is. -/
theorem lexFrom_eq_of_row (position : Nat) {row : List Spelling} {rest : List Char}
    (hstops : RowStopsBefore row rest) (hend : rest = [] ∨ scanSegment? rest = none) :
    lexFrom position (rowText row ++ rest) =
      ⟨rowTokens position row, if rest = [] then none else some ⟨position + rowByteSize row⟩⟩ := by
  rw [lexFrom_rowText_append position hstops]
  by_cases hrest : rest = []
  · subst hrest
    simp [lexFrom_nil]
  · rw [lexFrom_of_scanSegment?_eq_none _ hrest (hend.resolve_left hrest), if_neg hrest,
      List.append_nil]

/-! ## Expressions -/

/-- A row by itself is cut into its tokens. -/
theorem tokenize_rowText (row : List Spelling) :
    tokenize (String.ofList (rowText row)) = .ok (rowTokens 0 row) := by
  have hlex := lexFrom_eq_of_row 0 (rowStopsBefore_nil row) (Or.inl rfl)
  rw [List.append_nil, if_pos rfl] at hlex
  rw [tokenize, lex, String.toList_ofList, hlex]

/-- Only rows of segments can be cut into tokens. -/
theorem exists_row_of_tokenize {expression : String} {tokens : List Token}
    (htokens : tokenize expression = .ok tokens) :
    ∃ row : List Spelling, expression = String.ofList (rowText row) := by
  obtain ⟨row, rest, htext, hstops, hend⟩ := exists_row expression.toList
  rw [tokenize, lex, htext, lexFrom_eq_of_row 0 hstops hend] at htokens
  by_cases hrest : rest = []
  · refine ⟨row, ?_⟩
    rw [← String.ofList_toList (s := expression), htext, hrest, List.append_nil]
  · simp [hrest] at htokens

/-- A text is a row of segments in at most one way. -/
theorem rowText_injective : Function.Injective rowText := by
  intro row
  induction row with
  | nil =>
      intro other heq
      cases other with
      | nil => rfl
      | cons spelling other => exact absurd heq.symm (by simp [spelling.text_ne_nil])
  | cons spelling row ih =>
      intro other heq
      cases other with
      | nil => exact absurd heq (by simp [spelling.text_ne_nil])
      | cons spelling' other =>
          rw [rowText_cons, rowText_cons] at heq
          -- Both first segments are what the scanner finds at the front of the same text.
          have hscan := scanSegment?_text_append spelling (rowStopsBefore_nil (spelling :: row)).head
          have hscan' := scanSegment?_text_append spelling' (rowStopsBefore_nil (spelling' :: other)).head
          simp only [List.append_nil] at hscan hscan'
          rw [heq, hscan'] at hscan
          have hfound := Option.some.inj hscan
          obtain rfl : spelling' = spelling := Spelling.text_injective (congrArg Scanned.text hfound)
          obtain rfl : row = other := ih (congrArg Scanned.rest hfound).symm
          rfl

/-- The grammar of expressions, exactly. An expression can be cut into tokens when it is a row of segments;
its tokens are then those of the row, in order and at their byte offsets, and it is no other row. -/
theorem tokenize_eq_ok_iff_row (expression : String) :
    (∀ tokens, tokenize expression = .ok tokens ↔
      ∃ row : List Spelling, String.ofList (rowText row) = expression ∧ rowTokens 0 row = tokens) ∧
    Function.Injective rowText := by
  refine ⟨fun tokens => ⟨fun htokens => ?_, ?_⟩, rowText_injective⟩
  · obtain ⟨row, rfl⟩ := exists_row_of_tokenize htokens
    rw [tokenize_rowText] at htokens
    exact ⟨row, rfl, Except.ok.inj htokens⟩
  · rintro ⟨row, rfl, rfl⟩
    exact tokenize_rowText row

end DocPath.Path
