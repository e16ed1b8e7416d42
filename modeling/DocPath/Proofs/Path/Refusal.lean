import DocPath.Proofs.Path.Compiling

/-!
# Expressions that are refused

An expression that cannot be cut into tokens is refused where the cut fails, whatever its indices are. Of the
others only those are refused in which an index does not fit into 64 bits, at the first such index. The rest
compile to a path with one segment for each token.
-/

namespace DocPath.Path

open DocPath.Text

/-- The value of a token's text as a decimal numeral. -/
def Token.index (token : Token) : Nat := Nat.ofDigitChars 10 token.lexeme.toList 0

/-- A token is an index above the greatest number of 64 bits. -/
def Token.IsOversized (token : Token) : Prop :=
  token.kind = .arrayIndex ∧ 0xFFFFFFFFFFFFFFFF < token.index

instance : DecidablePred Token.IsOversized :=
  fun token => inferInstanceAs (Decidable (token.kind = .arrayIndex ∧ 0xFFFFFFFFFFFFFFFF < token.index))

/-- A segment with the token's flag, with its text as it is, and for an index with the exact value of the
numeral. -/
def Token.StandsFor (token : Token) (segment : Segment) : Prop :=
  segment.mandatory = token.mandatory ∧
    match token.kind with
    | .method => segment.step = .method token.lexeme
    | .symbolKey => segment.step = .symbolKey token.lexeme
    | .stringKey => segment.step = .stringKey token.lexeme
    | .genericKey => segment.step = .genericKey token.lexeme
    | .arrayIndex => ∃ index : UInt64, segment.step = .arrayIndex index ∧ index.toNat = token.index

/-! ## One token -/

/-- If a token is an index, its text is a numeral. -/
def Token.IndexIsNumeral (token : Token) : Prop :=
  token.kind = .arrayIndex →
    token.lexeme.toList ≠ [] ∧ ∀ c ∈ token.lexeme.toList, c.isDigit = true

theorem Spelling.indexIsNumeral_token (spelling : Spelling) (position : Nat) :
    (spelling.token position).IndexIsNumeral := by
  intro hkind
  have hchars : (spelling.token position).lexeme.toList = spelling.word.chars :=
    String.toList_ofList
  rw [hchars]
  refine ⟨spelling.word.chars_ne_nil, ?_⟩
  cases spelling with
  | dotted bang name => cases hkind
  | bracketed before within inside =>
      cases inside with
      | symbol name => cases hkind
      | quoted quote content => cases hkind
      | bare content =>
          change (if content.isNumeral then TokenKind.arrayIndex else .genericKey) = _ at hkind
          split at hkind
          next hnumeral => exact List.all_eq_true.mp hnumeral
          next => cases hkind

theorem indexIsNumeral_of_mem_rowTokens (position : Nat) (row : List Spelling) :
    ∀ token ∈ rowTokens position row, token.IndexIsNumeral := by
  induction row generalizing position with
  | nil => simp [rowTokens]
  | cons spelling row ih =>
      exact List.forall_mem_cons.mpr ⟨spelling.indexIsNumeral_token position, ih _⟩

/-- The scanner takes nothing but numerals for indices. -/
theorem indexIsNumeral_of_tokenize {expression : String} {tokens : List Token}
    (htokens : tokenize expression = .ok tokens) : ∀ token ∈ tokens, token.IndexIsNumeral := by
  obtain ⟨row, rfl⟩ := exists_row_of_tokenize htokens
  rw [tokenize_rowText] at htokens
  obtain rfl := Except.ok.inj htokens
  exact indexIsNumeral_of_mem_rowTokens 0 row

/-- An index fits if its value, of however many digits, is below the bound. -/
theorem not_isOversized_iff {token : Token} (hkind : token.kind = .arrayIndex) :
    ¬ token.IsOversized ↔ token.index < wordBound := by
  rw [Token.IsOversized, wordBound]
  simp only [hkind, true_and]
  omega

/-- An index that is too large is refused, with its text and its place. -/
theorem Segment.ofToken_of_isOversized {token : Token} (hnumeral : token.IndexIsNumeral)
    (hlarge : token.IsOversized) :
    Segment.ofToken token = .error ⟨token.lexeme, token.position, .tooLarge⟩ := by
  obtain ⟨hne, hdigits⟩ := hnumeral hlarge.1
  have hread : Numeral.read wordBound token.lexeme.toList = .error .tooLarge := by
    rw [Numeral.read_eq (by decide) hne hdigits, Numeral.value_eq_ofDigitChars]
    exact if_neg fun hlt => (not_isOversized_iff hlarge.1).mpr hlt hlarge
  rw [Segment.ofToken, hlarge.1]
  simp only [hread]

/-- Any other token becomes the segment that it stands for. -/
theorem Segment.exists_ofToken {token : Token} (hnumeral : token.IndexIsNumeral)
    (hfits : ¬ token.IsOversized) :
    ∃ segment, Segment.ofToken token = .ok segment ∧ token.StandsFor segment := by
  cases hkind : token.kind with
  | arrayIndex =>
      obtain ⟨hne, hdigits⟩ := hnumeral hkind
      have hlt : token.index < wordBound := (not_isOversized_iff hkind).mp hfits
      have hread : Numeral.read wordBound token.lexeme.toList = .ok token.index := by
        rw [Numeral.read_eq (by decide) hne hdigits, Numeral.value_eq_ofDigitChars]
        exact if_pos hlt
      refine ⟨⟨.arrayIndex (UInt64.ofNat token.index), token.mandatory⟩, ?_, rfl, ?_⟩
      · rw [Segment.ofToken, hkind]
        simp only [hread]
      · rw [hkind]
        exact ⟨_, rfl, UInt64.toNat_ofNat_of_lt hlt⟩
  | method | symbolKey | stringKey | genericKey =>
      simp [Segment.ofToken, Token.StandsFor, hkind]

/-! ## All tokens -/

/-- If no index is too large every token becomes a segment. -/
theorem exists_segmentsOfTokens {tokens : List Token}
    (hnumerals : ∀ token ∈ tokens, token.IndexIsNumeral)
    (hfit : ∀ token ∈ tokens, ¬ token.IsOversized) :
    ∃ segments, segmentsOfTokens tokens = .ok segments ∧
      List.Forall₂ Token.StandsFor tokens segments := by
  induction tokens with
  | nil => exact ⟨[], rfl, .nil⟩
  | cons token rest ih =>
      obtain ⟨hnumeral, hnumerals⟩ := List.forall_mem_cons.mp hnumerals
      obtain ⟨hfits, hfit⟩ := List.forall_mem_cons.mp hfit
      obtain ⟨segment, hsegment, hstands⟩ := Segment.exists_ofToken hnumeral hfits
      obtain ⟨segments, hsegments, hrest⟩ := ih hnumerals hfit
      refine ⟨segment :: segments, ?_, .cons hstands hrest⟩
      rw [segmentsOfTokens, hsegment, hsegments]

/-- The first token that is refused decides. -/
theorem segmentsOfTokens_append_cons {front back : List Token} {token : Token}
    {segments : List Segment} {e : CompileError} (hfront : segmentsOfTokens front = .ok segments)
    (htoken : Segment.ofToken token = .error e) :
    segmentsOfTokens (front ++ token :: back) = .error e := by
  induction front generalizing segments with
  | nil => rw [List.nil_append, segmentsOfTokens, htoken]
  | cons first front ih =>
      rw [segmentsOfTokens] at hfront
      rw [List.cons_append, segmentsOfTokens]
      cases hfirst : Segment.ofToken first with
      | error e' => simp [hfirst] at hfront
      | ok segment =>
          cases hmore : segmentsOfTokens front with
          | error e' => simp [hfirst, hmore] at hfront
          | ok more => simp only [ih hmore]

/-! ## Expressions -/

theorem reason_tooLarge (lexeme : String) (position : Nat) :
    (CompileError.mk lexeme position .tooLarge).reason =
      "invalid array index \x60" ++ lexeme ++ "\x60 at position " ++ toString position ++
        ": number too large to fit in target type" := by
  have hcause : ": " ++ NumeralError.tooLarge.message =
      ": number too large to fit in target type" := by
    simp [NumeralError.message]
  unfold CompileError.reason
  rw [String.append_assoc]
  exact congrArg _ hcause

/-- An expression that can be cut into tokens fails, if at all, on one of them. -/
theorem parse_eq_of_tokenize {expression : String} {tokens : List Token}
    (htokens : tokenize expression = .ok tokens) :
    Path.parse expression =
      match segmentsOfTokens tokens with
      | .error e => .error (.compile e)
      | .ok segments => .ok ⟨segments⟩ := by
  unfold Path.parse ofTokens
  simp only [htokens]
  cases segmentsOfTokens tokens <;> rfl

/-- All indices fit, or there is a first one that does not. -/
theorem parse_cases {expression : String} {tokens : List Token}
    (htokens : tokenize expression = .ok tokens) :
    ((∀ token ∈ tokens, ¬ token.IsOversized) ∧
      ∃ path, Path.parse expression = .ok path ∧
        List.Forall₂ Token.StandsFor tokens path.segments) ∨
    ∃ front token back, tokens = front ++ token :: back ∧
      (∀ earlier ∈ front, ¬ earlier.IsOversized) ∧ token.IsOversized ∧
      Path.parse expression = .error (.compile ⟨token.lexeme, token.position, .tooLarge⟩) := by
  have hnumerals := indexIsNumeral_of_tokenize htokens
  rw [parse_eq_of_tokenize htokens]
  cases hfirst : tokens.find? fun token => decide token.IsOversized with
  | none =>
      have hfit : ∀ token ∈ tokens, ¬ token.IsOversized := by
        simpa using List.find?_eq_none.mp hfirst
      obtain ⟨segments, hsegments, hstands⟩ := exists_segmentsOfTokens hnumerals hfit
      exact Or.inl ⟨hfit, ⟨segments⟩, by rw [hsegments], hstands⟩
  | some token =>
      obtain ⟨hlarge, front, back, rfl, hfront⟩ := List.find?_eq_some_iff_append.mp hfirst
      have hfit : ∀ earlier ∈ front, ¬ earlier.IsOversized := by simpa using hfront
      have hlarge : token.IsOversized := of_decide_eq_true hlarge
      -- What stands in front compiles, so nothing hides the token.
      obtain ⟨segments, hsegments, -⟩ := exists_segmentsOfTokens
        (fun earlier hmem => hnumerals earlier (List.mem_append_left _ hmem)) hfit
      have htoken := Segment.ofToken_of_isOversized (hnumerals token (by simp)) hlarge
      exact Or.inr ⟨front, token, back, rfl, hfit, hlarge,
        by rw [segmentsOfTokens_append_cons hsegments htoken]⟩

/-- What comes of an expression. It is refused by the scanner exactly when it cannot be cut into tokens. If it
can, it is refused by the compiler exactly when the decimal value of an index does not fit into 64 bits, and
the error names the text and the offset of the first such token. Otherwise its path has one segment for each
token, in order, with the token's flag and text, and the exact value of an index. -/
theorem parse_outcome (expression : String) :
    (∀ e, Path.parse expression = .error (.lex e) ↔ tokenize expression = .error e) ∧
    ∀ tokens, tokenize expression = .ok tokens →
      ((∃ e, Path.parse expression = .error (.compile e)) ↔ ∃ token ∈ tokens, token.IsOversized) ∧
      (∀ e, Path.parse expression = .error (.compile e) →
        ∃ front token back, tokens = front ++ token :: back ∧
          (∀ earlier ∈ front, ¬ earlier.IsOversized) ∧ token.IsOversized ∧
          e = ⟨token.lexeme, token.position, .tooLarge⟩ ∧
          e.reason = "invalid array index \x60" ++ token.lexeme ++ "\x60 at position " ++
            toString token.position ++ ": number too large to fit in target type") ∧
      ((∀ token ∈ tokens, ¬ token.IsOversized) →
        ∃ path, Path.parse expression = .ok path ∧
          List.Forall₂ Token.StandsFor tokens path.segments) := by
  refine ⟨fun e => ?_, fun tokens htokens => ?_⟩
  · unfold Path.parse
    cases tokenize expression with
    | error e' => simp
    | ok tokens => cases hpath : ofTokens tokens <;> simp [hpath]
  · rcases parse_cases htokens with ⟨hfit, path, hpath, hstands⟩ |
      ⟨front, token, back, rfl, hfit, hlarge, herror⟩
    · refine ⟨⟨?_, ?_⟩, ?_, fun _ => ⟨path, hpath, hstands⟩⟩
      · rintro ⟨e, he⟩
        rw [hpath] at he
        cases he
      · rintro ⟨token, hmem, hlarge⟩
        exact absurd hlarge (hfit token hmem)
      · intro e he
        rw [hpath] at he
        cases he
    · refine ⟨⟨fun _ => ⟨token, by simp, hlarge⟩, fun _ => ⟨_, herror⟩⟩, ?_, ?_⟩
      · intro e he
        rw [herror] at he
        obtain rfl := ParseError.compile.inj (Except.error.inj he)
        exact ⟨front, token, back, rfl, hfit, hlarge, rfl, reason_tooLarge token.lexeme token.position⟩
      · intro hall
        exact absurd hlarge (hall token (by simp))

/-- An instance at the limit of 64 bits: leading zeros do not make an index too large, and the second index
does, by one. -/
theorem parse_outcome_at_limit :
    (∃ path, Path.parse "[00018446744073709551615]" = .ok path ∧ path.segments.length = 1) ∧
      ∃ e, Path.parse "[0][18446744073709551616]" = .error (.compile e) := by
  have hgreatest : tokenize "[00018446744073709551615]" =
      .ok [⟨.arrayIndex, "00018446744073709551615", "[00018446744073709551615]", false, 0⟩] := by
    decide +kernel
  have habove : tokenize "[0][18446744073709551616]" =
      .ok [⟨.arrayIndex, "0", "[0]", false, 0⟩,
        ⟨.arrayIndex, "18446744073709551616", "[18446744073709551616]", false, 3⟩] := by
    decide +kernel
  constructor
  · obtain ⟨path, hpath, hstands⟩ :=
      ((parse_outcome "[00018446744073709551615]").2 _ hgreatest).2.2 (by decide +kernel)
    exact ⟨path, hpath, hstands.length_eq.symm⟩
  · exact ((parse_outcome "[0][18446744073709551616]").2 _ habove).1.mpr (by decide +kernel)

end DocPath.Path
