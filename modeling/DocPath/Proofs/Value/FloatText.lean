import DocPath.Document.Conversion
import DocPath.Proofs.Binary64.Positional
import DocPath.Proofs.Value.IntegerText

/-!
# Texts of floats

A finite float is written with a point, unless it is a whole number of at least seventeen digits. Then it is written
in digits only, those of a whole number between the midpoints to its neighbours, as an integer is. Below `2 ^ 63` that
whole number is a word, so there is an integer of the same text; from `2 ^ 63` on it is none.
-/

namespace DocPath

namespace Binary64

/-! ## Texts of magnitudes -/

namespace Magnitude

/-- The text of a finite magnitude. -/
def chars (m : Magnitude) : List Char :=
  if units m.pattern % unitsPerOne = 0 ∧ units m.pattern < Nat.pow 10 16 * unitsPerOne then
    Text.Numeral.digits (units m.pattern / unitsPerOne) ++ ['.', '0']
  else (shortest .up m.pattern).positional false

/-- The magnitude is the natural number. -/
def IsWhole (m : Magnitude) (n : Nat) : Prop := units m.pattern = n * unitsPerOne

theorem IsWhole.unique {m : Magnitude} {n n' : Nat} (hn : m.IsWhole n) (hn' : m.IsWhole n') : n = n' :=
  Nat.eq_of_mul_eq_mul_right unitsPerOne_pos (hn.symm.trans hn')

variable {m : Magnitude} {n : Nat}

theorem IsWhole.dvd (hwhole : m.IsWhole n) : unitsPerOne ∣ units m.pattern := by
  rw [IsWhole] at hwhole
  rw [hwhole]
  exact Nat.dvd_mul_left _ _

/-- A small whole number is written in its digits, with a zero behind the point. -/
theorem chars_of_small (hwhole : m.IsWhole n) (hsmall : n < Nat.pow 10 16) :
    m.chars = Text.Numeral.digits n ++ ['.', '0'] := by
  have hbound : n * unitsPerOne < Nat.pow 10 16 * unitsPerOne := Nat.mul_lt_mul_of_pos_right hsmall unitsPerOne_pos
  rw [IsWhole] at hwhole
  rw [chars, hwhole, if_pos ⟨Nat.mul_mod_left _ _, hbound⟩, Nat.mul_div_cancel _ unitsPerOne_pos]

theorem chars_of_large (hwhole : m.IsWhole n) (hlarge : Nat.pow 10 16 ≤ n) :
    m.chars = (shortest .up m.pattern).positional false := by
  have hbound : Nat.pow 10 16 * unitsPerOne ≤ n * unitsPerOne := Nat.mul_le_mul_right _ hlarge
  rw [IsWhole] at hwhole
  rw [chars, hwhole, if_neg fun hsmall => Nat.not_lt.mpr hbound hsmall.2]

theorem chars_of_part (hpart : ¬ unitsPerOne ∣ units m.pattern) :
    m.chars = (shortest .up m.pattern).positional false := by
  rw [chars, if_neg fun hsmall => hpart (Nat.dvd_of_mod_eq_zero hsmall.1)]

/-- A magnitude is a small whole number, a large one or no whole number. -/
theorem size_cases (m : Magnitude) : (∃ n, m.IsWhole n ∧ n < Nat.pow 10 16) ∨
    (∃ n, m.IsWhole n ∧ Nat.pow 10 16 ≤ n) ∨ ¬ unitsPerOne ∣ units m.pattern := by
  by_cases hwhole : unitsPerOne ∣ units m.pattern
  · obtain ⟨n, hn⟩ := hwhole
    rw [Nat.mul_comm] at hn
    rcases Nat.lt_or_ge n (Nat.pow 10 16) with hsmall | hlarge
    · exact .inl ⟨n, hn, hsmall⟩
    · exact .inr (.inl ⟨n, hn, hlarge⟩)
  · exact .inr (.inr hwhole)

/-- A large whole number is written in the digits of the whole number that its shortest decimal is. -/
theorem exists_chars_of_large (hwhole : m.IsWhole n) (hlarge : Nat.pow 10 16 ≤ n) :
    ∃ written : Nat, 0 < written ∧ (shortest .up m.pattern).value = written ∧
      m.chars = Text.Numeral.digits written := by
  have hpattern := pattern_pos_of_whole hwhole (Nat.lt_of_lt_of_le (Nat.pow_pos (by decide)) hlarge)
  have hexponent := exponent_shortest_nonneg .up hwhole hlarge
  have hcoefficient := coefficient_ne_zero hpattern (encloses_shortest .up m.pattern)
  refine ⟨_, ?_, Decimal.value_of_nonneg hexponent, ?_⟩
  · exact Nat.mul_pos (Nat.pos_of_ne_zero hcoefficient) (Nat.pow_pos (by decide))
  · rw [chars_of_large hwhole hlarge, Decimal.positional_of_nonneg hcoefficient hexponent]

/-- Only large whole numbers are written without a point. -/
theorem point_mem_chars_iff (m : Magnitude) :
    '.' ∈ m.chars ↔ ¬ ∃ n, m.IsWhole n ∧ Nat.pow 10 16 ≤ n := by
  obtain ⟨n, hwhole, hsmall⟩ | ⟨n, hwhole, hlarge⟩ | hpart := m.size_cases
  · have hpoint : '.' ∈ m.chars := by simp [chars_of_small hwhole hsmall]
    refine iff_of_true hpoint ?_
    rintro ⟨n', hwhole', hlarge⟩
    rw [hwhole'.unique hwhole] at hlarge
    exact Nat.not_lt.mpr hlarge hsmall
  · obtain ⟨written, -, -, hchars⟩ := exists_chars_of_large hwhole hlarge
    refine iff_of_false ?_ (not_not_intro ⟨n, hwhole, hlarge⟩)
    rw [hchars]
    exact Decimal.point_notMem_digits written
  · refine iff_of_true ?_ ?_
    · obtain ⟨whole, fraction, _, htext, -⟩ :=
        Decimal.exists_positional_eq_of_neg (shortest_of_part .up hpart).1
      simp [chars_of_part hpart, htext]
    · rintro ⟨n, hwhole, -⟩
      exact hpart hwhole.dvd

/-- Only small whole numbers end in a point and a zero, since a decimal with such a text is a whole number. -/
theorem pointZero_suffix_chars_iff (m : Magnitude) :
    ['.', '0'] <:+ m.chars ↔ ∃ n, m.IsWhole n ∧ n < Nat.pow 10 16 := by
  obtain ⟨n, hwhole, hsmall⟩ | ⟨n, hwhole, hlarge⟩ | hpart := m.size_cases
  · rw [chars_of_small hwhole hsmall]
    exact iff_of_true (List.suffix_append _ _) ⟨n, hwhole, hsmall⟩
  · refine iff_of_false (fun hsuffix => ?_) ?_
    · have hpoint := hsuffix.subset List.mem_cons_self
      exact (point_mem_chars_iff m).mp hpoint ⟨n, hwhole, hlarge⟩
    · rintro ⟨n', hwhole', hsmall⟩
      rw [hwhole'.unique hwhole] at hsmall
      exact Nat.not_lt.mpr hlarge hsmall
  · obtain ⟨hexponent, hvalue⟩ := shortest_of_part .up hpart
    refine iff_of_false (fun hsuffix => ?_) ?_
    · rw [chars_of_part hpart] at hsuffix
      obtain ⟨n, hn⟩ := Decimal.exists_value_eq_of_suffix hexponent hsuffix
      exact hvalue n hn
    · rintro ⟨n, hwhole, -⟩
      exact hpart hwhole.dvd

/-! ## Which whole numbers are words -/

/-- The pattern of `2 ^ 63`. -/
def signedBoundPattern : Nat := 0x43E0000000000000

theorem units_signedBoundPattern : units signedBoundPattern = signedBound * unitsPerOne := by
  decide +kernel

theorem shortest_signedBoundPattern : shortest .up signedBoundPattern = ⟨9223372036854776, 3⟩ := by
  decide +kernel

/-- The whole number that is written for a large one is below `2 ^ 63` if that one is, and beyond otherwise. -/
theorem written_lt_or_gt {written : Nat} (hwhole : m.IsWhole n)
    (hwritten : (shortest .up m.pattern).value = written) :
    n < signedBound ∧ written < signedBound ∨ signedBound ≤ n ∧ signedBound < written := by
  have hencloses := encloses_shortest .up m.pattern
  rw [hwritten, RoundingInterval.encloses_natCast_iff] at hencloses
  obtain ⟨hlower, hupper⟩ := hencloses
  have hbound := units_signedBoundPattern
  have hlt_of : ∀ {a b : Nat}, a * unitsPerOne < b * unitsPerOne → a < b := Nat.lt_of_mul_lt_mul_right
  rw [IsWhole] at hwhole
  rcases Nat.lt_trichotomy m.pattern signedBoundPattern with hbelow | heq | habove
  · left
    have hvalue := units_strictMono hbelow
    have hnext : units (m.pattern + 1) ≤ units signedBoundPattern := units_strictMono.monotone hbelow
    exact ⟨hlt_of (by omega), hlt_of (by omega)⟩
  · right
    -- At the bound itself the digits are those of a greater number.
    rw [heq, shortest_signedBoundPattern, Decimal.value_of_nonneg (by decide), Nat.cast_inj] at hwritten
    rw [heq, hbound] at hwhole
    refine ⟨Nat.le_of_eq (Nat.eq_of_mul_eq_mul_right unitsPerOne_pos hwhole), ?_⟩
    rw [← hwritten]
    decide
  · right
    have hvalue := units_strictMono habove
    have hbefore := units_strictMono.monotone (Nat.le_sub_one_of_lt habove)
    exact ⟨Nat.le_of_lt (hlt_of (by omega)), hlt_of (by omega)⟩

end Magnitude

/-! ## Texts of numbers -/

/-- The number is the integer. -/
def IsInteger (x : Binary64) (n : Int) : Prop := x.signedUnits? = some (n * unitsPerOne)

/-- A number that is not finite has no units, and is written in letters. -/
theorem finite_cases (x : Binary64) : (∃ negative m, x = .signed negative m ∧ m.isInfinite = false) ∨
    x.isFinite = false ∧ x.signedUnits? = none ∧ '.' ∉ x.text.toList ∧
      ∃ c ∈ x.text.toList, ¬ (c.isDigit = true ∨ c = '-') := by
  cases x with
  | nan => exact .inr ⟨rfl, rfl, by decide, 'N', by decide, by decide⟩
  | signed negative m =>
      cases hfinite : m.isInfinite with
      | false => exact .inl ⟨negative, m, rfl, hfinite⟩
      | true =>
          have htext : (signed negative m).text = if negative then "-Infinity" else "Infinity" := by
            rw [text, hfinite, if_pos rfl]
          refine .inr ⟨by rw [isFinite, hfinite]; rfl, by rw [signedUnits?, hfinite]; rfl, ?_, 'I', ?_, by decide⟩
          · rw [htext]
            cases negative <;> decide
          · rw [htext]
            cases negative <;> decide

section

variable {negative : Bool} {m : Magnitude} (hfinite : m.isInfinite = false)

include hfinite

theorem toList_text_signed :
    (signed negative m).text.toList = (if negative then ['-'] else []) ++ m.chars := by
  simp [text, hfinite, Magnitude.chars]

theorem signedUnits?_signed :
    (signed negative m).signedUnits? = some (if negative then -(units m.pattern : Int) else units m.pattern) := by
  rw [signedUnits?, hfinite]
  rfl

/-- A finite number is an integer of some size if its magnitude is a whole number of that size. -/
theorem exists_isInteger_iff (size : Nat → Prop) :
    (∃ n, (signed negative m).IsInteger n ∧ size n.natAbs) ↔ ∃ n, m.IsWhole n ∧ size n := by
  simp only [IsInteger, signedUnits?_signed hfinite, Option.some.injEq, Magnitude.IsWhole]
  constructor
  · rintro ⟨n, hn, hsize⟩
    refine ⟨n.natAbs, ?_, hsize⟩
    have habs := congrArg Int.natAbs hn
    rw [Int.natAbs_mul, Int.natAbs_natCast] at habs
    rw [← habs]
    cases negative <;> simp
  · rintro ⟨n, hwhole, hsize⟩
    refine ⟨if negative then -n else n, ?_, ?_⟩
    · rw [hwhole, Int.natCast_mul]
      cases negative <;> simp only [Bool.false_eq_true, if_false, if_true, Int.neg_mul]
    · cases negative <;> simpa using hsize

end

theorem not_isInteger {x : Binary64} (hnone : x.signedUnits? = none) (n : Int) : ¬ x.IsInteger n := by
  rw [IsInteger, hnone]
  nofun

/-- A text has a point if the number is finite and no large integer. -/
theorem point_mem_text_iff (x : Binary64) :
    '.' ∈ x.text.toList ↔ x.isFinite = true ∧ ¬ ∃ n, x.IsInteger n ∧ Nat.pow 10 16 ≤ n.natAbs := by
  obtain ⟨negative, m, rfl, hfinite⟩ | ⟨hinfinite, -, hpoint, -⟩ := x.finite_cases
  · have hsign : '.' ∉ (if negative then ['-'] else []) := by cases negative <;> decide
    rw [exists_isInteger_iff hfinite, ← Magnitude.point_mem_chars_iff, toList_text_signed hfinite]
    simp [hsign, isFinite, hfinite]
  · exact iff_of_false hpoint (by simp [hinfinite])

/-- A text ends in a point and a zero if the number is a small integer. -/
theorem pointZero_suffix_text_iff (x : Binary64) :
    ['.', '0'] <:+ x.text.toList ↔ ∃ n, x.IsInteger n ∧ n.natAbs < Nat.pow 10 16 := by
  obtain ⟨negative, m, rfl, hfinite⟩ | ⟨-, hnone, hpoint, -⟩ := x.finite_cases
  · refine Iff.trans ?_ (exists_isInteger_iff hfinite (· < Nat.pow 10 16)).symm
    rw [← Magnitude.pointZero_suffix_chars_iff, toList_text_signed hfinite]
    cases negative with
    | false => rfl
    | true => simp [List.suffix_cons_iff]
  · refine iff_of_false (fun hsuffix => hpoint (hsuffix.subset List.mem_cons_self)) ?_
    rintro ⟨n, hn, -⟩
    exact not_isInteger hnone n hn

end Binary64

/-! ## Texts of integers -/

/-- Integers are written in digits, with a minus before them or none. -/
theorem isDigit_or_of_mem_integerText {i : Int64} {c : Char} (hc : c ∈ (integerText i).toList) :
    c.isDigit = true ∨ c = '-' := by
  rw [toList_integerText] at hc
  split at hc
  · exact .inl (Text.Numeral.isDigit_of_mem_digits hc)
  · exact (List.mem_cons.mp hc).symm.imp_left Text.Numeral.isDigit_of_mem_digits

/-- The integer of a text of digits is the number that these stand for. -/
theorem toList_integerText_eq_iff {i : Int64} {negative : Bool} {n : Nat} (hn : 0 < n) :
    (integerText i).toList = (if negative then ['-'] else []) ++ Text.Numeral.digits n ↔
      i.toInt = if negative then -(n : Int) else n := by
  rw [toList_integerText]
  cases negative with
  | false =>
      simp only [Bool.false_eq_true, if_false, List.nil_append]
      split
      next hi => rw [Text.Numeral.digits_inj]; omega
      next hi => exact iff_of_false (digits_ne_minus _ _).symm (by omega)
  | true =>
      simp only [if_true, List.cons_append, List.nil_append]
      split
      next hi => exact iff_of_false (digits_ne_minus _ _) (by omega)
      next hi => rw [List.cons_inj_right, Text.Numeral.digits_inj]; omega

/-- A finite float has the text of an integer if it is a large whole number, unless what is written for it is no
word. -/
theorem exists_integerText_eq_signed_iff {negative : Bool} {m : Binary64.Magnitude} (hfinite : m.isInfinite = false) :
    (∃ i, (Binary64.signed negative m).text = integerText i) ↔
      ∃ n, m.IsWhole n ∧ Nat.pow 10 16 ≤ n ∧ n < signedBound := by
  constructor
  · rintro ⟨i, htext⟩
    have hchars : (integerText i).toList = (if negative then ['-'] else []) ++ m.chars := by
      rw [← htext, Binary64.toList_text_signed hfinite]
    have hpoint : '.' ∉ m.chars := by
      intro hmem
      have hinteger : '.' ∈ (integerText i).toList := hchars ▸ List.mem_append_right _ hmem
      exact absurd (isDigit_or_of_mem_integerText hinteger) (by decide)
    rw [Binary64.Magnitude.point_mem_chars_iff, not_not] at hpoint
    obtain ⟨n, hwhole, hlarge⟩ := hpoint
    obtain ⟨written, hpos, hvalue, hdigits⟩ := Binary64.Magnitude.exists_chars_of_large hwhole hlarge
    rw [hdigits, toList_integerText_eq_iff hpos] at hchars
    refine ⟨n, hwhole, hlarge, ?_⟩
    rcases Binary64.Magnitude.written_lt_or_gt hwhole hvalue with ⟨hn, -⟩ | ⟨-, hbeyond⟩
    · exact hn
    · have hword := fitsWord_toInt i
      rw [FitsWord, hchars] at hword
      split at hword
      all_goals omega
  · rintro ⟨n, hwhole, hlarge, hn⟩
    obtain ⟨written, hpos, hvalue, hdigits⟩ := Binary64.Magnitude.exists_chars_of_large hwhole hlarge
    have hword : FitsWord (if negative then -(written : Int) else written) := by
      rcases Binary64.Magnitude.written_lt_or_gt hwhole hvalue with ⟨-, hbelow⟩ | ⟨hbeyond, -⟩
      · rw [FitsWord]
        split
        all_goals omega
      · exact absurd hn (Nat.not_lt.mpr hbeyond)
    obtain ⟨i, hi⟩ := exists_toInt_eq hword
    refine ⟨i, String.toList_inj.mp ?_⟩
    rw [Binary64.toList_text_signed hfinite, hdigits, (toList_integerText_eq_iff hpos).mpr hi]

/-- The floats with the text of an integer are the large integers that are words. -/
theorem exists_integerText_eq_iff (x : Binary64) : (∃ i, x.text = integerText i) ↔
    ∃ n, x.IsInteger n ∧ Nat.pow 10 16 ≤ n.natAbs ∧ n.natAbs < signedBound := by
  obtain ⟨negative, m, rfl, hfinite⟩ | ⟨-, hnone, -, c, hc, hletter⟩ := x.finite_cases
  · rw [exists_integerText_eq_signed_iff hfinite]
    exact (Binary64.exists_isInteger_iff hfinite fun n => Nat.pow 10 16 ≤ n ∧ n < signedBound).symm
  · refine iff_of_false ?_ ?_
    · rintro ⟨i, htext⟩
      exact hletter (isDigit_or_of_mem_integerText (htext ▸ hc))
    · rintro ⟨n, hn, -⟩
      exact Binary64.not_isInteger hnone n hn

/-! ## Texts of values -/

namespace Value

open DocPath.Yaml (Node)

/-- A float has the same text as a plain one, as an inspected one and as a key. It has a point exactly if it is finite
and no whole number of at least seventeen digits, and ends in a point and a zero exactly if it is a whole number of
fewer digits. So it has the text of an integer exactly if it is a whole number from `10 ^ 16` on and below `2 ^ 63`,
or the negative of one. -/
theorem text_of_float (x : Binary64) :
    (∀ (hosts : Hosts) (earlier : List HostCall),
      (float x).send hosts "to_s" earlier = ⟨[], .ok (.str x.text)⟩ ∧
      (float x).send hosts "inspect" earlier = ⟨[], .ok (.str x.text)⟩) ∧
    (∀ (symbolize : Bool) (node : Node),
      ofNode symbolize (.map [(.float x, node)]) = .hash [(.str x.text, ofNode symbolize node)]) ∧
    ('.' ∈ x.text.toList ↔ x.isFinite = true ∧ ¬ ∃ n, x.IsInteger n ∧ Nat.pow 10 16 ≤ n.natAbs) ∧
    (['.', '0'] <:+ x.text.toList ↔ ∃ n, x.IsInteger n ∧ n.natAbs < Nat.pow 10 16) ∧
    ((∃ i, (float x).text = (int i).text) ↔
      ∃ n, x.IsInteger n ∧ Nat.pow 10 16 ≤ n.natAbs ∧ n.natAbs < signedBound) := by
  refine ⟨fun hosts earlier => ⟨rfl, rfl⟩, fun symbolize node => rfl, ?_, ?_, ?_⟩
  · exact x.point_mem_text_iff
  · exact x.pointZero_suffix_text_iff
  · exact exists_integerText_eq_iff x

/-- The least whole number whose text has no point has the text of an integer. -/
theorem text_of_large_float :
    let x := Binary64.ofBits 0x4341C37937E08000
    x.isFinite = true ∧ x.IsInteger 10000000000000000 ∧ '.' ∉ x.text.toList ∧
      (float x).text = (int 10000000000000000).text := by
  intro x
  have htext : x.text = "10000000000000000" := by decide +kernel
  have hinteger : x.IsInteger 10000000000000000 := by
    unfold Binary64.IsInteger
    decide +kernel
  refine ⟨by decide +kernel, hinteger, ?_, htext⟩
  rw [htext]
  decide

end Value

end DocPath
