import Mathlib.Data.List.Infix
import DocPath.Proofs.Text.Numeral
import DocPath.Proofs.Value.Dispatch
import DocPath.Proofs.Word

/-!
# Texts of integers

An integer is written in digits, with a minus in front if it is below zero, and no other integer is written like it.
A text is read as an integer from its front: white space is passed over, and then the longest row of digits with a
sign or none counts. So the text of an integer is read back whatever white space stands before it and whatever other
than a digit follows.
-/

namespace DocPath

namespace Text

/-! ## Digits with a sign -/

/-- What may stand in front of digits. -/
inductive Sign where
  | none
  | plus
  | minus

/-- A sign as it is written. -/
def Sign.chars : Sign → List Char
  | .none => []
  | .plus => ['+']
  | .minus => ['-']

/-- A natural number with a sign as an integer. -/
def Sign.apply (n : Nat) : Sign → Int
  | .none | .plus => n
  | .minus => -n

/-- A row of digits, which may be empty, with a sign in front or none. -/
structure SignedDigits where
  sign : Sign
  digits : List Char
  isDigit_of_mem : ∀ c ∈ digits, c.isDigit = true

namespace SignedDigits

/-- The row as it is written. -/
def chars (row : SignedDigits) : List Char := row.sign.chars ++ row.digits

/-- The integer that the row spells, which is zero if there are no digits. -/
def value (row : SignedDigits) : Int := row.sign.apply (Nat.ofDigitChars 10 row.digits 0)

theorem value_of_digits_eq_nil (row : SignedDigits) (hdigits : row.digits = []) : row.value = 0 := by
  rw [value, hdigits, Nat.ofDigitChars_nil]
  cases row.sign <;> rfl

/-- No longer row starts a text. -/
def IsLongestIn (row : SignedDigits) (text : List Char) : Prop :=
  row.chars <+: text ∧ ∀ other : SignedDigits, other.chars <+: text → other.chars <+: row.chars

/-- A text does not go on with what a row could be extended by: a digit, or a sign where there is nothing yet. -/
structure StopsBefore (row : SignedDigits) (rest : List Char) : Prop where
  digit : ∀ c ∈ rest.head?, c.isDigit = false
  sign : row.chars = [] → ∀ c ∈ rest.head?, c ≠ '+' ∧ c ≠ '-'

theorem isDigit_of_mem_tail {row : SignedDigits} {c : Char} (hc : c ∈ row.chars.tail) : c.isDigit = true := by
  obtain ⟨sign, digits, hdigits⟩ := row
  cases sign with
  | none => exact hdigits c (List.mem_of_mem_tail hc)
  | plus => exact hdigits c hc
  | minus => exact hdigits c hc

theorem isDigit_or_eq_of_head {row : SignedDigits} {c : Char} (hc : c ∈ row.chars.head?) :
    c.isDigit = true ∨ c = '+' ∨ c = '-' := by
  obtain ⟨sign, digits, hdigits⟩ := row
  cases sign with
  | none => exact .inl (hdigits c (List.mem_of_mem_head? hc))
  | plus => exact .inr (.inl (Option.mem_some.mp hc).symm)
  | minus => exact .inr (.inr (Option.mem_some.mp hc).symm)

/-- A row goes on from another one with digits, or with what rows start with if the other one is empty. -/
theorem isDigit_or_of_chars_eq_append {row other : SignedDigits} {c : Char} {more : List Char}
    (hchars : other.chars = row.chars ++ c :: more) :
    c.isDigit = true ∨ row.chars = [] ∧ (c = '+' ∨ c = '-') := by
  by_cases hempty : row.chars = []
  · have hfirst : c ∈ other.chars.head? := by simp [hchars, hempty]
    exact (isDigit_or_eq_of_head hfirst).imp_right (And.intro hempty)
  · have htail : c ∈ other.chars.tail := by simp [hchars, List.tail_append_of_ne_nil hempty]
    exact .inl (isDigit_of_mem_tail htail)

/-- A row is the longest one in front if what follows does not go on with it. -/
theorem isLongestIn_append {row : SignedDigits} {rest : List Char} (hstop : row.StopsBefore rest) :
    row.IsLongestIn (row.chars ++ rest) := by
  refine ⟨List.prefix_append _ _, fun other hother => ?_⟩
  rcases List.prefix_or_prefix_of_prefix hother (List.prefix_append row.chars rest) with hshorter | ⟨more, hmore⟩
  · exact hshorter
  · rw [← hmore, List.prefix_append_right_inj] at hother
    cases more with
    | nil => rw [← hmore, List.append_nil]
    | cons c more =>
        -- A longer row would go on with what follows.
        have hhead : c ∈ rest.head? := by
          obtain ⟨after, rfl⟩ := hother
          exact Option.mem_some_self c
        exfalso
        rcases isDigit_or_of_chars_eq_append hmore.symm with hdigit | ⟨hempty, hsign⟩
        · exact Bool.false_ne_true ((hstop.digit c hhead).symm.trans hdigit)
        · exact hsign.elim (hstop.sign hempty c hhead).1 (hstop.sign hempty c hhead).2

/-- The digits at the front of a text behind a sign. -/
def behind (sign : Sign) (text : List Char) : SignedDigits :=
  ⟨sign, text.takeWhile Char.isDigit, List.all_eq_true.mp List.all_takeWhile⟩

theorem chars_behind_append (sign : Sign) (text : List Char) :
    (behind sign text).chars ++ text.dropWhile Char.isDigit = sign.chars ++ text := by
  rw [chars, List.append_assoc, behind, List.takeWhile_append_dropWhile]

theorem stopsBefore_behind {sign : Sign} {text : List Char}
    (hsign : sign.chars = [] → ∀ c ∈ text.head?, c ≠ '+' ∧ c ≠ '-') :
    (behind sign text).StopsBefore (text.dropWhile Char.isDigit) where
  digit := by
    intro c hc
    have hfirst := List.head?_dropWhile_not Char.isDigit text
    rwa [Option.mem_def.mp hc] at hfirst
  sign := by
    intro hempty
    obtain ⟨hnone, hdigits⟩ := List.append_eq_nil_iff.mp hempty
    have hall : text.dropWhile Char.isDigit = text := by
      have hsplit := List.takeWhile_append_dropWhile (p := Char.isDigit) (l := text)
      rwa [show text.takeWhile Char.isDigit = [] from hdigits, List.nil_append] at hsplit
    rw [hall]
    exact hsign hnone

/-- Every text starts with a row that it does not go on with. -/
theorem exists_append (text : List Char) :
    ∃ (row : SignedDigits) (rest : List Char), text = row.chars ++ rest ∧ row.StopsBefore rest := by
  have hbehind : ∀ (sign : Sign) (after : List Char), text = sign.chars ++ after →
      (sign.chars = [] → ∀ c ∈ after.head?, c ≠ '+' ∧ c ≠ '-') →
      ∃ (row : SignedDigits) (rest : List Char), text = row.chars ++ rest ∧ row.StopsBefore rest := by
    intro sign after htext hsign
    exact ⟨behind sign after, _, htext.trans (chars_behind_append sign after).symm, stopsBefore_behind hsign⟩
  by_cases hplus : text.head? = some '+'
  · exact hbehind .plus text.tail (List.eq_cons_of_mem_head? hplus) nofun
  by_cases hminus : text.head? = some '-'
  · exact hbehind .minus text.tail (List.eq_cons_of_mem_head? hminus) nofun
  · refine hbehind .none text rfl fun _ c hc => ⟨?_, ?_⟩
    · rintro rfl
      exact hplus hc
    · rintro rfl
      exact hminus hc

/-- Only the sign of a row is taken off before its digits are read. -/
theorem splitSign_append {row : SignedDigits} {rest : List Char} (hstop : row.StopsBefore rest) :
    Binary64.splitSign (row.chars ++ rest) = (row.sign matches .minus, row.digits ++ rest) := by
  obtain ⟨sign, digits, hdigits⟩ := row
  cases sign with
  | plus => rfl
  | minus => rfl
  | none =>
      have hfirst : ∀ c ∈ (digits ++ rest).head?, c ≠ '+' ∧ c ≠ '-' := by
        cases digits with
        | nil => exact hstop.sign rfl
        | cons d digits =>
            rintro _ ⟨⟩
            have hd := hdigits d List.mem_cons_self
            refine ⟨?_, ?_⟩
            · rintro rfl
              cases hd
            · rintro rfl
              cases hd
      change Binary64.splitSign (digits ++ rest) = (false, digits ++ rest)
      generalize digits ++ rest = text at hfirst
      unfold Binary64.splitSign
      split
      · exact absurd rfl (hfirst '-' rfl).2
      · exact absurd rfl (hfirst '+' rfl).1
      · rfl

theorem takeWhile_append {row : SignedDigits} {rest : List Char} (hstop : row.StopsBefore rest) :
    (row.digits ++ rest).takeWhile Char.isDigit = row.digits := by
  have hrest : rest.takeWhile Char.isDigit = [] := by
    cases rest with
    | nil => rfl
    | cons c rest => rw [List.takeWhile_cons, hstop.digit c rfl]; rfl
  rw [List.takeWhile_append_of_pos row.isDigit_of_mem, hrest, List.append_nil]

end SignedDigits

end Text

/-! ## The integer at the front of a text -/

section

open Text

variable {blank rest : List Char} {row : SignedDigits}

theorem trimStart_append (hblank : ∀ c ∈ blank, isBlank c = true) (hrest : ∀ c ∈ rest.head?, isBlank c = false) :
    trimStart (blank ++ rest) = rest := by
  rw [trimStart, List.dropWhile_append_of_pos hblank]
  cases rest with
  | nil => rfl
  | cons c rest => rw [List.dropWhile_cons, hrest c rfl]; rfl

/-- Every text is blank up to some place, and goes on with what is none. -/
theorem exists_blank_append (text : List Char) : ∃ blank rest, text = blank ++ rest ∧
    (∀ c ∈ blank, isBlank c = true) ∧ ∀ c ∈ rest.head?, isBlank c = false := by
  refine ⟨text.takeWhile isBlank, text.dropWhile isBlank, List.takeWhile_append_dropWhile.symm,
    List.all_eq_true.mp List.all_takeWhile, fun c hc => ?_⟩
  have hfirst := List.head?_dropWhile_not isBlank text
  rwa [Option.mem_def.mp hc] at hfirst

theorem isBlank_of_isDigit {c : Char} (hc : c.isDigit = true) : isBlank c = false := by
  have hrange : 48 ≤ c.toNat ∧ c.toNat ≤ 57 := by
    simpa [Char.isDigit, UInt32.le_iff_toNat_le] using hc
  rw [isBlank, inRanges, blankRanges, Array.any_eq_false']
  simp only [List.mem_toArray, List.mem_cons, List.not_mem_nil, or_false, Bool.and_eq_true, decide_eq_true_eq,
    not_and, not_le, forall_eq_or_imp, forall_eq]
  omega

/-- A row behind blanks is read, and is nothing if it is no word. -/
theorem leadingInteger_append (hblank : ∀ c ∈ blank, isBlank c = true)
    (hfront : ∀ c ∈ (row.chars ++ rest).head?, isBlank c = false) (hstop : row.StopsBefore rest) :
    leadingInteger (blank ++ (row.chars ++ rest)) = (int64? row.value).getD 0 := by
  rw [leadingInteger, trimStart_append hblank hfront, SignedDigits.splitSign_append hstop]
  simp only [SignedDigits.takeWhile_append hstop, Numeral.value_eq_ofDigitChars, SignedDigits.value]
  cases row.sign <;> rfl

/-- What is read is the value of the row, or zero if it has no digits or is no word. -/
theorem toInt_leadingInteger_append (hblank : ∀ c ∈ blank, isBlank c = true)
    (hfront : ∀ c ∈ (row.chars ++ rest).head?, isBlank c = false) (hstop : row.StopsBefore rest) :
    (leadingInteger (blank ++ (row.chars ++ rest))).toInt =
      if row.digits ≠ [] ∧ FitsWord row.value then row.value else 0 := by
  rw [leadingInteger_append hblank hfront hstop]
  by_cases hdigits : row.digits = []
  · rw [if_neg (by simp [hdigits]), row.value_of_digits_eq_nil hdigits]
    rfl
  · by_cases hfits : FitsWord row.value
    · rw [if_pos ⟨hdigits, hfits⟩, int64?_eq_ite, if_pos hfits]
      exact Int64.toInt_ofInt_of_le hfits.1 hfits.2
    · rw [if_neg (by simp [hfits]), int64?_eq_none hfits]
      rfl

end

/-! ## The text of an integer -/

theorem toList_integerText (n : Int64) :
    (integerText n).toList = if 0 ≤ n.toInt then Text.Numeral.digits n.toInt.toNat
      else '-' :: Text.Numeral.digits (-n.toInt).toNat := by
  rw [integerText, Int.toString_eq_repr, Int.repr_eq_if]
  split <;> simp [Nat.repr_eq_ofList_toDigits, Text.Numeral.digits]

theorem digits_ne_minus (m : Nat) (ds : List Char) : Text.Numeral.digits m ≠ '-' :: ds := by
  intro heq
  have hminus : '-' ∈ Text.Numeral.digits m := by simp [heq]
  exact absurd (Text.Numeral.isDigit_of_mem_digits hminus) (by decide)

/-- Different integers have different texts. -/
theorem integerText_inj {m n : Int64} : integerText m = integerText n ↔ m = n := by
  refine ⟨fun heq => Int64.toInt_inj.mp ?_, congrArg integerText⟩
  have hchars := congrArg String.toList heq
  rw [toList_integerText, toList_integerText] at hchars
  split at hchars
  next hm =>
    split at hchars
    next hn =>
      rw [Text.Numeral.digits_inj] at hchars
      omega
    next => exact absurd hchars (digits_ne_minus _ _)
  next hm =>
    split at hchars
    next => exact absurd hchars.symm (digits_ne_minus _ _)
    next hn =>
      rw [List.cons_inj_right, Text.Numeral.digits_inj] at hchars
      omega

/-- No integer is written like a symbol. -/
theorem integerText_ne_colon (n : Int64) (name : String) : integerText n ≠ ":" ++ name := by
  intro heq
  have hcolon : ':' ∈ (integerText n).toList := by simp [heq]
  rw [toList_integerText] at hcolon
  have hdigits : ∀ m, ':' ∉ Text.Numeral.digits m := fun m hmem =>
    absurd (Text.Numeral.isDigit_of_mem_digits hmem) (by decide)
  split at hcolon
  next => exact hdigits _ hcolon
  next => exact hdigits _ ((List.mem_cons.mp hcolon).resolve_left (by decide))

namespace Text.SignedDigits

/-- The row that an integer is written as. -/
def ofInt (n : Int) : SignedDigits :=
  ⟨if n < 0 then .minus else .none, Numeral.digits n.natAbs, fun _ => Numeral.isDigit_of_mem_digits⟩

theorem chars_ofInt (n : Int64) : (ofInt n.toInt).chars = (integerText n).toList := by
  rw [toList_integerText, ofInt, chars]
  by_cases hn : n.toInt < 0
  · have habs : n.toInt.natAbs = (-n.toInt).toNat := by omega
    rw [if_pos hn, if_neg (by omega), ← habs]
    rfl
  · have habs : n.toInt.natAbs = n.toInt.toNat := by omega
    rw [if_neg hn, if_pos (by omega), ← habs]
    rfl

theorem value_ofInt (n : Int) : (ofInt n).value = n := by
  have habs : Nat.ofDigitChars 10 (ofInt n).digits 0 = n.natAbs := by
    rw [← Numeral.value_eq_ofDigitChars]
    exact Numeral.value_digits n.natAbs
  rw [value, habs, ofInt]
  by_cases hn : n < 0
  · simp only [if_pos hn, Sign.apply]
    omega
  · simp only [if_neg hn, Sign.apply]
    omega

theorem digits_ofInt_ne_nil (n : Int) : (ofInt n).digits ≠ [] := Numeral.digits_ne_nil _

theorem chars_ofInt_ne_nil (n : Int) : (ofInt n).chars ≠ [] := fun hnil =>
  digits_ofInt_ne_nil n (List.append_eq_nil_iff.mp hnil).2

theorem stopsBefore_ofInt {rest : List Char} (hrest : ∀ c ∈ rest.head?, c.isDigit = false) (n : Int) :
    (ofInt n).StopsBefore rest where
  digit := hrest
  sign := fun hempty => absurd hempty (chars_ofInt_ne_nil n)

theorem isBlank_of_head_ofInt {n : Int} {rest : List Char} {c : Char} (hc : c ∈ ((ofInt n).chars ++ rest).head?) :
    isBlank c = false := by
  rw [List.head?_append_of_ne_nil _ (chars_ofInt_ne_nil n)] at hc
  rcases isDigit_or_eq_of_head hc with hdigit | rfl | rfl
  · exact isBlank_of_isDigit hdigit
  · decide +kernel
  · decide +kernel

end Text.SignedDigits

namespace Value

/-- A text is read as the integer of the longest row of digits, with a sign or none, behind its white space; without
digits, or beyond 64 bits, that is zero. So an integer is read back from its text, with white space before it and
whatever follows that is no digit. -/
theorem send_to_i (hosts : Hosts) (earlier : List HostCall) :
    (∀ text : String, ∃ (blank rest : List Char) (row : Text.SignedDigits) (n : Int64),
      text.toList = blank ++ rest ∧ (∀ c ∈ blank, Text.isBlank c = true) ∧
      (∀ c ∈ rest.head?, Text.isBlank c = false) ∧ row.IsLongestIn rest ∧
      (str text).send hosts "to_i" earlier = ⟨[], .ok (.int n)⟩ ∧
      n.toInt = if row.digits ≠ [] ∧ FitsWord row.value then row.value else 0) ∧
    ∀ n : Int64, ∃ numeral : String, (int n).send hosts "to_s" earlier = ⟨[], .ok (.str numeral)⟩ ∧
      ∀ before after : String, (∀ c ∈ before.toList, Text.isBlank c = true) →
        (∀ c ∈ after.toList.head?, c.isDigit = false) →
        (str (before ++ numeral ++ after)).send hosts "to_i" earlier = ⟨[], .ok (.int n)⟩ := by
  have hsend : ∀ text : String, (str text).send hosts "to_i" earlier =
      ⟨[], .ok (.int (leadingInteger text.toList))⟩ := by
    intro text
    have hmethod : ownMethod (str text) "to_i" = (Except.ok (int (leadingInteger text.toList))).map some := rfl
    exact send_of_ownMethod hosts (by simp) hmethod earlier
  refine ⟨fun text => ?_, fun n => ⟨integerText n, rfl, fun before after hbefore hafter => ?_⟩⟩
  · obtain ⟨blank, rest, htext, hblank, hrest⟩ := exists_blank_append text.toList
    obtain ⟨row, behind, rfl, hstop⟩ := Text.SignedDigits.exists_append rest
    refine ⟨blank, _, row, _, htext, hblank, hrest, row.isLongestIn_append hstop, hsend text, ?_⟩
    rw [htext, toInt_leadingInteger_append hblank hrest hstop]
  · rw [hsend, String.toList_append, String.toList_append, ← Text.SignedDigits.chars_ofInt, List.append_assoc,
      leadingInteger_append hbefore (fun c => Text.SignedDigits.isBlank_of_head_ofInt)
        (Text.SignedDigits.stopsBefore_ofInt hafter n.toInt), Text.SignedDigits.value_ofInt, int64?_toInt]
    rfl

/-- The least integer, between white space and a minus. -/
theorem send_to_i_of_least :
    let hosts : Hosts := ⟨fun _ _ _ => .ok .nil, fun _ _ _ => .ok .nil, fun _ _ => false, fun _ _ _ => false⟩
    (∀ c ∈ "\t ".toList, Text.isBlank c = true) ∧ (∀ c ∈ "-1".toList.head?, c.isDigit = false) ∧
      ∃ numeral, (int Int64.minValue).send hosts "to_s" [] = ⟨[], .ok (.str numeral)⟩ ∧
        (str ("\t " ++ numeral ++ "-1")).send hosts "to_i" [] = ⟨[], .ok (.int Int64.minValue)⟩ := by
  intro hosts
  have hbefore : ∀ c ∈ "\t ".toList, Text.isBlank c = true := List.all_eq_true.mp (by decide +kernel)
  have hafter : ∀ c ∈ "-1".toList.head?, c.isDigit = false := by simp
  obtain ⟨numeral, htext, hread⟩ := (send_to_i hosts []).2 Int64.minValue
  exact ⟨hbefore, hafter, numeral, htext, hread "\t " "-1" hbefore hafter⟩

end Value

end DocPath
