import DocPath.Proofs.Binary64.Shortest
import DocPath.Proofs.Text.Numeral

/-!
# Positional text

A decimal whose exponent is not negative is written in digits only, as the whole number that it is. Any other one is
written with a point, behind which all its places stand. So a text with a point that ends in a single zero as its only
place is that of a whole number.
-/

namespace DocPath.Binary64.Decimal

open DocPath.Text

/-- With no place behind the point the text is that of a whole number. -/
theorem positional_of_nonneg {d : Decimal} (hcoefficient : d.coefficient ≠ 0) (hexponent : 0 ≤ d.exponent) :
    d.positional false = Numeral.digits (d.coefficient * Nat.pow 10 d.exponent.toNat) := by
  rw [Numeral.digits_mul_pow (Nat.pos_of_ne_zero hcoefficient)]
  simp [positional, hexponent]

/-- With places behind the point, the digits are cut in two by it, after zeros that fill up the front. -/
theorem exists_positional_eq_of_neg {d : Decimal} (hexponent : d.exponent < 0) :
    ∃ (whole fraction : List Char) (zeros : Nat), d.positional false = whole ++ '.' :: fraction ∧
      whole ++ fraction = List.replicate zeros '0' ++ Numeral.digits d.coefficient ∧
      fraction.length = (-d.exponent).toNat := by
  simp only [positional, if_neg (Int.not_le.mpr hexponent)]
  refine ⟨_, _, _, rfl, List.take_append_drop _ _, ?_⟩
  rw [List.length_drop, List.length_append, List.length_replicate]
  omega

theorem isDigit_of_mem_padded {zeros n : Nat} {c : Char} (hc : c ∈ List.replicate zeros '0' ++ Numeral.digits n) :
    c.isDigit = true := by
  rcases List.mem_append.mp hc with hzero | hdigit
  · rw [List.eq_of_mem_replicate hzero]
    decide
  · exact Numeral.isDigit_of_mem_digits hdigit

theorem point_notMem_digits (n : Nat) : '.' ∉ Numeral.digits n := fun hpoint =>
  absurd (Numeral.isDigit_of_mem_digits hpoint) (by decide)

/-- What stands behind the only point of a text that ends in a point and a zero is that zero. -/
theorem fraction_eq_of_suffix {whole fraction : List Char} (hplaces : fraction ≠ []) (hpoint : '.' ∉ fraction)
    (hsuffix : ['.', '0'] <:+ whole ++ '.' :: fraction) : fraction = ['0'] := by
  rcases List.suffix_or_suffix_of_suffix hsuffix (List.suffix_append whole _) with hshort | hlong
  · rcases List.suffix_cons_iff.mp hshort with heq | hlater
    · exact (List.cons.inj heq).2.symm
    · -- There is no point but the one that the fraction stands behind.
      exact absurd (hlater.subset List.mem_cons_self) hpoint
  · rcases List.suffix_cons_iff.mp hlong with heq | hlater
    · exact (List.cons.inj heq).2
    · have hlength := hlater.length_le
      exact absurd (List.eq_nil_of_length_eq_zero (Nat.le_zero.mp (Nat.le_of_succ_le_succ hlength))) hplaces

/-- Zeros in front do not change what digits stand for. -/
theorem value_padded (zeros n : Nat) :
    Numeral.value (List.replicate zeros '0' ++ Numeral.digits n) = n := by
  rw [Numeral.value_eq_ofDigitChars, Nat.ofDigitChars_append, Nat.ofDigitChars_replicate_zero, Nat.mul_zero,
    ← Numeral.value_eq_ofDigitChars, Numeral.value_digits]

/-- A decimal whose text has a single zero behind the point is a whole number. -/
theorem exists_value_eq_of_suffix {d : Decimal} (hexponent : d.exponent < 0)
    (hsuffix : ['.', '0'] <:+ d.positional false) : ∃ n : Nat, d.value = n := by
  obtain ⟨whole, fraction, zeros, htext, hdigits, hlength⟩ := exists_positional_eq_of_neg hexponent
  have hpoint : '.' ∉ fraction := fun hmem =>
    absurd (isDigit_of_mem_padded (hdigits ▸ List.mem_append_right whole hmem)) (by decide)
  have hplaces : fraction ≠ [] := by
    rintro rfl
    rw [List.length_nil] at hlength
    omega
  rw [htext] at hsuffix
  obtain rfl := fraction_eq_of_suffix hplaces hpoint hsuffix
  obtain ⟨c, e⟩ := d
  obtain rfl : e = -1 := by
    simp only [List.length_singleton] at hlength
    omega
  have hcoefficient : c = 10 * Nat.ofDigitChars 10 whole 0 := by
    rw [← value_padded zeros c, ← hdigits, Numeral.value_eq_ofDigitChars, Nat.ofDigitChars_append]
    rfl
  refine ⟨_, (value_strip ?_).symm.trans (value_of_nonneg (Int.le_refl _))⟩
  rw [hcoefficient]
  exact Nat.mul_mod_right 10 _

end DocPath.Binary64.Decimal
