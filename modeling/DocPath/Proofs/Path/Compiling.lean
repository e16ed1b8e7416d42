import Mathlib.Data.List.Forall2
import DocPath.Path.Compile
import DocPath.Proofs.Path.Tokenizing
import DocPath.Proofs.Text.Numeral

/-!
# Compiling rows of segments

A segment as it is written stands for at most one compiled segment, wherever it stands. An expression compiles
to a path exactly when it is a row of segments that stand for those of the path, one by one.
-/

namespace DocPath.Path

open DocPath.Text

/-! ## One segment -/

/-- The name, key text or numeral in a segment. -/
def Spelling.lexeme (spelling : Spelling) : String := String.ofList spelling.word.chars

/-- The compiled form of a segment by its shape. -/
theorem Segment.ofToken_token (spelling : Spelling) (position : Nat) :
    Segment.ofToken (spelling.token position) =
      match spelling.kind with
      | .method => .ok ⟨.method spelling.lexeme, spelling.bang⟩
      | .symbolKey => .ok ⟨.symbolKey spelling.lexeme, spelling.bang⟩
      | .stringKey => .ok ⟨.stringKey spelling.lexeme, spelling.bang⟩
      | .genericKey => .ok ⟨.genericKey spelling.lexeme, spelling.bang⟩
      | .arrayIndex =>
        match Numeral.read wordBound spelling.word.chars with
        | .ok n => .ok ⟨.arrayIndex (UInt64.ofNat n), spelling.bang⟩
        | .error cause => .error ⟨spelling.lexeme, position, cause⟩ := by
  have hkind : (spelling.token position).kind = spelling.kind := rfl
  have hbang : (spelling.token position).mandatory = spelling.bang := spelling.contains_bang
  have hchars : (spelling.token position).lexeme.toList = spelling.word.chars :=
    String.toList_ofList
  rw [Segment.ofToken, hkind, hbang, hchars]
  cases spelling.kind <;> rfl

/-- A segment as it is written stands for a compiled segment. -/
def Spelling.Denotes (spelling : Spelling) (segment : Segment) : Prop :=
  ∀ position, Segment.ofToken (spelling.token position) = .ok segment

/-- The offset of a token has no part in its segment, only in its error. -/
theorem Spelling.denotes_of_ofToken {spelling : Spelling} {position : Nat} {segment : Segment}
    (hsegment : Segment.ofToken (spelling.token position) = .ok segment) :
    spelling.Denotes segment := by
  intro other
  rw [Segment.ofToken_token] at hsegment ⊢
  cases hkind : spelling.kind with
  | method | symbolKey | stringKey | genericKey => simpa only [hkind] using hsegment
  | arrayIndex =>
      simp only [hkind] at hsegment ⊢
      cases hread : Numeral.read wordBound spelling.word.chars with
      | ok n => simpa only [hread] using hsegment
      | error cause =>
          rw [hread] at hsegment
          cases hsegment

/-! ## Rows of segments -/

/-- Tokens are compiled one by one. -/
theorem segmentsOfTokens_eq_ok_iff {tokens : List Token} {segments : List Segment} :
    segmentsOfTokens tokens = .ok segments ↔
      List.Forall₂ (fun token segment => Segment.ofToken token = .ok segment) tokens segments := by
  induction tokens generalizing segments with
  | nil => cases segments <;> simp [segmentsOfTokens]
  | cons token rest ih =>
      cases htoken : Segment.ofToken token with
      | error e => cases segments <;> simp [segmentsOfTokens, htoken]
      | ok segment =>
          cases hrest : segmentsOfTokens rest with
          | error e =>
              have hnone : ∀ more, ¬ List.Forall₂
                  (fun token segment => Segment.ofToken token = .ok segment) rest more := by
                intro more hmore
                rw [ih.mpr hmore] at hrest
                cases hrest
              cases segments <;> simp [segmentsOfTokens, htoken, hrest, hnone]
          | ok more =>
              cases segments with
              | nil => simp [segmentsOfTokens, htoken, hrest]
              | cons first others =>
                  rw [List.forall₂_cons, ← ih, htoken, hrest]
                  simp [segmentsOfTokens, htoken, hrest]

/-- The segments of the tokens of a row are those that its spellings stand for. -/
theorem segmentsOfTokens_rowTokens_iff {position : Nat} {row : List Spelling}
    {segments : List Segment} :
    segmentsOfTokens (rowTokens position row) = .ok segments ↔
      List.Forall₂ Spelling.Denotes row segments := by
  rw [segmentsOfTokens_eq_ok_iff]
  induction row generalizing position segments with
  | nil => simp [rowTokens]
  | cons spelling row ih =>
      cases segments with
      | nil => simp [rowTokens]
      | cons segment segments =>
          rw [rowTokens, List.forall₂_cons, List.forall₂_cons, ih]
          exact and_congr_left fun _ =>
            ⟨Spelling.denotes_of_ofToken, fun hdenotes => hdenotes position⟩

/-! ## Expressions -/

/-- An expression is a path if it can be cut into tokens that all can be compiled. -/
theorem parse_eq_ok_iff {expression : String} {path : Path} :
    Path.parse expression = .ok path ↔
      ∃ tokens, tokenize expression = .ok tokens ∧ segmentsOfTokens tokens = .ok path.segments := by
  unfold Path.parse ofTokens
  cases htokens : tokenize expression with
  | error e => simp
  | ok tokens =>
      cases hsegments : segmentsOfTokens tokens with
      | error e => simp [Except.map, hsegments]
      | ok segments =>
          simp only [Except.map, hsegments, Except.ok.injEq, exists_eq_left']
          exact ⟨fun h => h ▸ rfl, fun h => by rw [h]⟩

/-- An expression compiles to a path when it is a row of segments that stand for those of the path. -/
theorem parse_eq_ok_iff_row {expression : String} {path : Path} :
    Path.parse expression = .ok path ↔
      ∃ row : List Spelling, String.ofList (rowText row) = expression ∧
        List.Forall₂ Spelling.Denotes row path.segments := by
  rw [parse_eq_ok_iff]
  constructor
  · rintro ⟨tokens, htokens, hsegments⟩
    obtain ⟨row, rfl⟩ := exists_row_of_tokenize htokens
    rw [tokenize_rowText] at htokens
    obtain rfl := Except.ok.inj htokens
    exact ⟨row, rfl, segmentsOfTokens_rowTokens_iff.mp hsegments⟩
  · rintro ⟨row, rfl, hdenotes⟩
    exact ⟨rowTokens 0 row, tokenize_rowText row, segmentsOfTokens_rowTokens_iff.mpr hdenotes⟩

end DocPath.Path
