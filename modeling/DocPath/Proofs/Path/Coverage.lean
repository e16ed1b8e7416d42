import DocPath.Proofs.Path.Tokenizing

/-!
# How far a scan gets

A lexer yields tokens until the expression ends or no segment starts, then at most one error, and then nothing
any more. The texts of its tokens cover the longest front of the expression that can be cut into tokens: another
choice of segments never gets further, because a segment that is cut short can only be a dotted word, of which
the scanner takes more.
-/

namespace DocPath.Path

/-- What a lexer yields one after the other until nothing is left; from then on it yields nothing and stays
as it is. -/
inductive Lexer.Yields : Lexer → List (Except LexError Token) → Prop where
  | done {lexer : Lexer} (hnext : lexer.next = (none, lexer)) : Yields lexer []
  | item {lexer later : Lexer} {item : Except LexError Token} {items : List (Except LexError Token)}
    (hnext : lexer.next = (some item, later)) (hlater : Yields later items) :
    Yields lexer (item :: items)

/-- The tokens of a scan and then its error, if there is one. -/
def Lexing.items (lexing : Lexing) : List (Except LexError Token) :=
  lexing.tokens.map .ok ++ lexing.stopped.toList.map .error

/-- The texts that tokens cover, one after the other. -/
def coveredText (tokens : List Token) : String := String.join (tokens.map Token.matchedText)

/-! ## One token at a time -/

theorem Lexer.next_nil (position : Nat) :
    (Lexer.mk position [] false).next = (none, ⟨position, [], false⟩) := rfl

theorem Lexer.next_failed (position : Nat) (rest : List Char) :
    (Lexer.mk position rest true).next = (none, ⟨position, rest, true⟩) := rfl

/-- Where no segment starts the lexer reports the place and has failed. -/
theorem Lexer.next_of_scanSegment?_eq_none (position : Nat) {text : List Char} (hne : text ≠ [])
    (hscan : scanSegment? text = none) :
    (Lexer.mk position text false).next = (some (.error ⟨position⟩), ⟨position, text, true⟩) := by
  simp [Lexer.next, hne, hscan]

/-- From a spelling that stops before the rest the lexer takes its token, and stands behind it. -/
theorem Lexer.next_text_append (position : Nat) (spelling : Spelling) {rest : List Char}
    (hstops : spelling.StopsBefore rest) :
    (Lexer.mk position (spelling.text ++ rest) false).next =
      (some (.ok (spelling.token position)), ⟨position + spelling.byteSize, rest, false⟩) := by
  have hne : spelling.text ++ rest ≠ [] :=
    List.append_ne_nil_of_left_ne_nil spelling.text_ne_nil rest
  simp only [Lexer.next, List.isEmpty_eq_false_iff.mpr hne, scanSegment?_text_append spelling hstops,
    spelling.token_scanned]
  rfl

/-- A lexer in the middle of an expression yields what the scan of the rest finds. -/
theorem Lexer.yields_lexFrom (position : Nat) (text : List Char) :
    (Lexer.mk position text false).Yields (lexFrom position text).items := by
  obtain ⟨row, rest, rfl, hstops, hend⟩ := exists_row text
  induction row generalizing position with
  | nil =>
      rw [rowText_nil, List.nil_append]
      by_cases hrest : rest = []
      · subst hrest
        rw [lexFrom_nil]
        exact .done (Lexer.next_nil position)
      · have hscan := hend.resolve_left hrest
        rw [lexFrom_of_scanSegment?_eq_none position hrest hscan]
        exact .item (Lexer.next_of_scanSegment?_eq_none position hrest hscan)
          (.done (Lexer.next_failed position rest))
  | cons spelling row ih =>
      rw [rowText_cons, List.append_assoc, lexFrom_text_append position spelling hstops.head]
      exact .item (Lexer.next_text_append position spelling hstops.head) (ih _ hstops.tail)

theorem Lexer.Yields.unique {lexer : Lexer} {items others : List (Except LexError Token)}
    (hitems : lexer.Yields items) (hothers : lexer.Yields others) : items = others := by
  induction hitems generalizing others with
  | done hnext =>
      cases hothers with
      | done => rfl
      | item hnext' => simp [hnext] at hnext'
  | item hnext _ ih =>
      cases hothers with
      | done hnext' => simp [hnext] at hnext'
      | item hnext' hlater =>
          rw [hnext] at hnext'
          obtain ⟨hitem, rfl⟩ := Prod.mk.inj hnext'
          rw [Option.some.inj hitem, ih hlater]

/-! ## What tokens cover -/

theorem coveredText_rowTokens (position : Nat) (row : List Spelling) :
    coveredText (rowTokens position row) = String.ofList (rowText row) := by
  induction row generalizing position with
  | nil => rfl
  | cons spelling row ih =>
      rw [rowText_cons, String.ofList_append, ← ih (position + spelling.byteSize)]
      exact String.join_cons

theorem length_rowTokens (position : Nat) (row : List Spelling) :
    (rowTokens position row).length = row.length := by
  induction row generalizing position with
  | nil => rfl
  | cons spelling row ih => rw [rowTokens, List.length_cons, List.length_cons, ih]

theorem length_le_utf8ByteSize (text : List Char) : text.length ≤ (String.ofList text).utf8ByteSize := by
  induction text with
  | nil => simp
  | cons c rest ih =>
      have hpos := c.utf8Size_pos
      rw [String.ofList_cons, String.utf8ByteSize_append, String.utf8ByteSize_singleton,
        List.length_cons]
      omega

/-- A segment has a delimiter and a word. -/
theorem Spelling.two_le_byteSize (spelling : Spelling) : 2 ≤ spelling.byteSize := by
  refine Nat.le_trans ?_ (length_le_utf8ByteSize spelling.text)
  cases spelling with
  | dotted bang name =>
      have hpos := List.length_pos_iff.mpr name.chars_ne_nil
      simp only [Spelling.text, List.length_cons, List.length_append]
      omega
  | bracketed before within inside =>
      simp only [Spelling.text, List.length_cons, List.length_append]
      omega

/-- Every spelling has a mark and a character in it, which are two bytes at least. -/
theorem two_mul_length_le_rowByteSize (row : List Spelling) : 2 * row.length ≤ rowByteSize row := by
  induction row with
  | nil => simp
  | cons spelling row ih =>
      have htwo := spelling.two_le_byteSize
      rw [rowByteSize, List.length_cons]
      omega

/-- The word of a segment is a part of its text. -/
theorem Spelling.exists_text_eq_append (spelling : Spelling) :
    ∃ opening closing, spelling.text = opening ++ (spelling.word.chars ++ closing) := by
  cases spelling with
  | dotted bang name => exact ⟨'.' :: bangText bang, [], by simp [Spelling.text, Spelling.word]⟩
  | bracketed before within inside =>
      have hinside : ∃ opening closing, inside.text = opening ++ (inside.word.chars ++ closing) := by
        cases inside with
        | symbol name => exact ⟨[':'], [], by simp [Inside.text, Inside.word]⟩
        | quoted quote content => exact ⟨[quote.char], [quote.char], by simp [Inside.text, Inside.word]⟩
        | bare content => exact ⟨[], [], by simp [Inside.text, Inside.word]⟩
      obtain ⟨opening, closing, htext⟩ := hinside
      refine ⟨bangText before ++ '[' :: (bangText within ++ opening), closing ++ [']'], ?_⟩
      simp [Spelling.text, Spelling.word, htext]

/-- A token of a row has its segment's place in the row. -/
theorem exists_of_rowTokens_eq {position : Nat} {row : List Spelling} {front back : List Token}
    {token : Token} (htokens : rowTokens position row = front ++ token :: back) :
    ∃ before spelling after, row = before ++ spelling :: after ∧
      front = rowTokens position before ∧ token = spelling.token (position + rowByteSize before) := by
  induction front generalizing position row with
  | nil =>
      cases row with
      | nil => simp [rowTokens] at htokens
      | cons spelling row => exact ⟨[], spelling, row, rfl, rfl, (List.cons.inj htokens).1.symm⟩
  | cons first front ih =>
      cases row with
      | nil => simp [rowTokens] at htokens
      | cons spelling row =>
          obtain ⟨rfl, hrest⟩ := List.cons.inj htokens
          obtain ⟨before, found, after, rfl, rfl, rfl⟩ := ih hrest
          refine ⟨spelling :: before, found, after, rfl, rfl, ?_⟩
          rw [rowByteSize, Nat.add_assoc]

/-! ## No other choice of segments gets further -/

/-- A segment in front of any text is a segment that this text does not continue, or the front of one. -/
theorem Spelling.exists_stopsBefore (spelling : Spelling) (rest : List Char) :
    ∃ (longer : Spelling) (after : List Char), longer.StopsBefore after ∧
      spelling.text ++ rest = longer.text ++ after ∧ spelling.text <+: longer.text := by
  cases spelling with
  | bracketed before within inside =>
      exact ⟨.bracketed before within inside, rest, trivial, rfl, List.prefix_refl _⟩
  | dotted bang name =>
      -- The word characters at the front of the rest belong to the longer word.
      rcases hsplit : splitRun isWordChar rest with ⟨run, after⟩
      obtain ⟨rfl, hrun, hafter⟩ := splitRun_eq_iff.mp hsplit
      let longer : Word :=
        { chars := name.chars ++ run
          chars_ne_nil := List.append_ne_nil_of_left_ne_nil name.chars_ne_nil run
          isWordChar_of_mem := fun c hc => (List.mem_append.mp hc).elim (name.isWordChar_of_mem c)
            fun hmem => isWordChar_eq_true_iff.mp (hrun c hmem) }
      refine ⟨.dotted bang longer, after, ?_, ?_, ?_⟩
      · intro c hc
        exact mt isWordChar_eq_true_iff.mpr (Bool.eq_false_iff.mp (hafter c hc))
      · simp [Spelling.text, longer]
      · simp [Spelling.text, longer]

/-- A row in front of any text is the front of a row that stops there. -/
theorem exists_rowStopsBefore (row : List Spelling) (rest : List Char) :
    ∃ (longer : List Spelling) (after : List Char), RowStopsBefore longer after ∧
      rowText row ++ rest = rowText longer ++ after ∧ rowText row <+: rowText longer := by
  rcases List.eq_nil_or_concat' row with rfl | ⟨init, last, rfl⟩
  · exact ⟨[], rest, fun _ h => by simp at h, rfl, List.prefix_refl _⟩
  · obtain ⟨longer, after, hstops, htext, hprefix⟩ := last.exists_stopsBefore rest
    refine ⟨init ++ [longer], after, ?_, ?_, ?_⟩
    · simpa [RowStopsBefore] using hstops
    · simp [htext]
    · simpa using hprefix

theorem coveredText_append (front back : List Token) :
    coveredText (front ++ back) = coveredText front ++ coveredText back := by
  simp [coveredText]

/-- The tokens of an expression cover every front of it that can be cut into tokens. -/
theorem exists_coveredText_lex_eq {front back : String} {tokens : List Token}
    (hfront : tokenize front = .ok tokens) :
    ∃ more, coveredText (lex (front ++ back)).tokens = front ++ more := by
  obtain ⟨row, rfl⟩ := exists_row_of_tokenize hfront
  obtain ⟨longer, after, hstops, htext, t, ht⟩ := exists_rowStopsBefore row back.toList
  rw [lex, String.toList_append, String.toList_ofList, htext, lexFrom_rowText_append 0 hstops,
    coveredText_append, coveredText_rowTokens, ← ht, String.ofList_append, String.append_assoc]
  exact ⟨_, rfl⟩

/-! ## The scan of an expression -/

/-- The lexer asked item by item yields what the lexing as a whole does. -/
theorem Lexer.yields_iff (expression : String) (items : List (Except LexError Token)) :
    (Lexer.start expression).Yields items ↔ items = (lex expression).items := by
  have hlex : (Lexer.start expression).Yields (lex expression).items :=
    Lexer.yields_lexFrom 0 expression.toList
  exact ⟨fun hitems => hitems.unique hlex, fun heq => heq ▸ hlex⟩

/-- The scan of an expression is that of a row of segments and of a rest at which it stops. -/
theorem exists_row_of_lex (expression : String) :
    ∃ (row : List Spelling) (rest : String), expression = String.ofList (rowText row) ++ rest ∧
      lex expression = ⟨rowTokens 0 row,
        if rest = "" then none else some ⟨(String.ofList (rowText row)).utf8ByteSize⟩⟩ := by
  obtain ⟨row, rest, htext, hstops, hend⟩ := exists_row expression.toList
  refine ⟨row, String.ofList rest, ?_, ?_⟩
  · rw [← String.ofList_append, ← htext, String.ofList_toList]
  · rw [lex, htext, lexFrom_eq_of_row 0 hstops hend, Nat.zero_add, utf8ByteSize_rowText]
    simp only [String.ofList_eq_empty_iff]

/-- Where a token of a row stands in an expression that starts with the row. -/
theorem placed_of_rowTokens_eq {row : List Spelling} {front back : List Token} {token : Token}
    (htokens : rowTokens 0 row = front ++ token :: back) (rest : String) :
    token.position = (coveredText front).utf8ByteSize ∧
      ∃ after, String.ofList (rowText row) ++ rest = coveredText front ++ token.matchedText ++ after := by
  obtain ⟨before, spelling, after, rfl, rfl, rfl⟩ := exists_of_rowTokens_eq htokens
  rw [coveredText_rowTokens, Nat.zero_add, utf8ByteSize_rowText]
  refine ⟨rfl, String.ofList (rowText after) ++ rest, ?_⟩
  rw [rowText_append, rowText_cons, String.ofList_append, String.ofList_append, String.append_assoc,
    String.append_assoc, String.append_assoc]
  rfl

theorem exists_matchedText_eq_append {row : List Spelling} {front back : List Token} {token : Token}
    (htokens : rowTokens 0 row = front ++ token :: back) :
    ∃ opening closing, token.matchedText = opening ++ token.lexeme ++ closing := by
  obtain ⟨before, spelling, after, rfl, rfl, rfl⟩ := exists_of_rowTokens_eq htokens
  obtain ⟨opening, closing, htext⟩ := spelling.exists_text_eq_append
  refine ⟨String.ofList opening, String.ofList closing, ?_⟩
  rw [Spelling.token, htext, String.ofList_append, String.ofList_append, String.append_assoc]

/-- A lexer yields the tokens of the scan and then at most one error, and nothing after that. There is a token
for at most every other byte. Each token starts where the texts before it end, its text stands there in the
expression, between characters, and its lexeme stands in its text. The tokens are those of the front that
they cover. No longer front of the expression can be cut into tokens, and there is an error right behind it
unless it is the whole expression. -/
theorem lex_covers_longest_front (expression : String) :
    (∀ items, (Lexer.start expression).Yields items ↔ items = (lex expression).items) ∧
    (lex expression).tokens.length ≤ expression.utf8ByteSize / 2 ∧
    (∀ front token back, (lex expression).tokens = front ++ token :: back →
      token.position = (coveredText front).utf8ByteSize ∧
      (∃ rest, expression = coveredText front ++ token.matchedText ++ rest) ∧
      String.Pos.Raw.IsValid expression ⟨token.position⟩ ∧
      String.Pos.Raw.IsValid expression ⟨token.position + token.matchedText.utf8ByteSize⟩ ∧
      ∃ opening closing, token.matchedText = opening ++ token.lexeme ++ closing) ∧
    ∃ rest, expression = coveredText (lex expression).tokens ++ rest ∧
      tokenize (coveredText (lex expression).tokens) = .ok (lex expression).tokens ∧
      (∀ front back, expression = front ++ back → (∃ tokens, tokenize front = .ok tokens) →
        ∃ more, coveredText (lex expression).tokens = front ++ more) ∧
      (lex expression).stopped =
        if rest = "" then none else some ⟨(coveredText (lex expression).tokens).utf8ByteSize⟩ := by
  obtain ⟨row, rest, hexpression, hlex⟩ := exists_row_of_lex expression
  have htokens : (lex expression).tokens = rowTokens 0 row := congrArg Lexing.tokens hlex
  have hcovered : coveredText (lex expression).tokens = String.ofList (rowText row) := by
    rw [htokens, coveredText_rowTokens]
  refine ⟨Lexer.yields_iff expression, ?_, ?_, rest, ?_, ?_, ?_, ?_⟩
  · have hlength := two_mul_length_le_rowByteSize row
    rw [htokens, length_rowTokens, hexpression, String.utf8ByteSize_append, utf8ByteSize_rowText]
    omega
  · intro front token back heq
    rw [htokens] at heq
    obtain ⟨hposition, after, hafter⟩ := placed_of_rowTokens_eq heq rest
    rw [← hexpression] at hafter
    refine ⟨hposition, ⟨after, hafter⟩, ?_, ?_, exists_matchedText_eq_append heq⟩
    · rw [String.Pos.Raw.isValid_iff_exists_append]
      refine ⟨coveredText front, token.matchedText ++ after, ?_, ?_⟩
      · rw [hafter, String.append_assoc]
      · rw [hposition]
        rfl
    · rw [String.Pos.Raw.isValid_iff_exists_append]
      refine ⟨coveredText front ++ token.matchedText, after, hafter, ?_⟩
      rw [hposition, ← String.utf8ByteSize_append]
      rfl
  · rw [hcovered, hexpression]
  · rw [hcovered, htokens, tokenize_rowText]
  · rintro front back rfl ⟨tokens, hfront⟩
    exact exists_coveredText_lex_eq hfront
  · rw [hcovered, hlex]

example : lex ".naïve" = ⟨[⟨.method, "na", ".na", false, 0⟩], some ⟨3⟩⟩ := by cbv

end DocPath.Path
