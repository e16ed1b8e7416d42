import DocPath.Text.Numeral

/-!
# Reading numerals

The value of a row of digits, and when it is read: a row that is not empty is read as its value exactly when
the value is below the bound. The digits of a number are read back as that number, and those of ten times a number
have one more zero at their end.
-/

namespace DocPath.Text.Numeral

theorem value_eq_ofDigitChars (ds : List Char) : value ds = Nat.ofDigitChars 10 ds 0 := by
  rw [value, Nat.ofDigitChars_eq_foldl]
  congr 1
  funext n c
  rw [Nat.mul_comm]

@[simp] theorem value_digits (n : Nat) : value (digits n) = n := by
  rw [value_eq_ofDigitChars, digits, Nat.ofDigitChars_ten_toDigits]

/-- Different numbers have different digits. -/
theorem digits_inj {m n : Nat} : digits m = digits n ↔ m = n := by
  refine ⟨fun heq => ?_, congrArg digits⟩
  rw [← value_digits m, heq, value_digits]

theorem digits_ne_nil (n : Nat) : digits n ≠ [] := Nat.toDigits_ne_nil

/-- A power of ten as a factor appends zeros. -/
theorem digits_mul_pow {n : Nat} (hn : 0 < n) (k : Nat) :
    digits (n * Nat.pow 10 k) = digits n ++ List.replicate k '0' := by
  induction k with
  | zero => simp
  | succ k ih =>
      have hpos : 0 < n * Nat.pow 10 k := Nat.mul_pos hn (Nat.pow_pos (by decide))
      have hshift : n * Nat.pow 10 (k + 1) = 10 * (n * Nat.pow 10 k) + 0 := by
        change n * (Nat.pow 10 k * 10) = 10 * (n * Nat.pow 10 k)
        rw [Nat.mul_comm 10, Nat.mul_assoc]
      have hzero : Nat.toDigits 10 0 = ['0'] := rfl
      rw [hshift, digits, ← Nat.toDigits_append_toDigits (by decide) hpos (by decide), ← digits, ih, hzero,
        List.append_assoc, ← List.replicate_succ']

theorem isDigit_of_mem_digits {n : Nat} {c : Char} (hc : c ∈ digits n) : c.isDigit = true :=
  Nat.isDigit_of_mem_toDigits (by decide) (by decide) hc

/-- More digits do not make a numeral smaller. -/
theorem le_ofDigitChars (ds : List Char) (start : Nat) : start ≤ Nat.ofDigitChars 10 ds start := by
  induction ds generalizing start with
  | nil => simp
  | cons c rest ih =>
      rw [Nat.ofDigitChars_cons]
      exact Nat.le_trans (by omega) (ih _)

/-- Digits are read to their end if the whole numeral is below the bound, although every prefix is
checked. -/
theorem readDigits_eq {bound start : Nat} {ds : List Char} (hstart : start < bound)
    (hdigits : ∀ c ∈ ds, c.isDigit = true) :
    readDigits bound start ds =
      if Nat.ofDigitChars 10 ds start < bound then .ok (Nat.ofDigitChars 10 ds start)
      else .error .tooLarge := by
  induction ds generalizing start with
  | nil => rw [readDigits, Nat.ofDigitChars_nil, if_pos hstart]
  | cons c rest ih =>
      have hc : digit? c = some (c.toNat - '0'.toNat) := by
        rw [digit?, if_pos (hdigits c List.mem_cons_self)]
      have hvalue : 10 * start + (c.toNat - '0'.toNat) = start * 10 + (c.toNat - '0'.toNat) := by
        rw [Nat.mul_comm]
      rw [readDigits, hc, Nat.ofDigitChars_cons, hvalue]
      dsimp only
      split
      next hnext => exact ih hnext (fun c hc => hdigits c (List.mem_cons_of_mem _ hc))
      next hlarge =>
        -- A prefix that is too large stays too large with the digits behind it.
        rw [if_neg]
        have hle := le_ofDigitChars rest (start * 10 + (c.toNat - '0'.toNat))
        omega

/-- A row of digits is read as its value exactly when that is below the bound. -/
theorem read_eq {bound : Nat} {ds : List Char} (hbound : 0 < bound) (hne : ds ≠ [])
    (hdigits : ∀ c ∈ ds, c.isDigit = true) :
    read bound ds = if value ds < bound then .ok (value ds) else .error .tooLarge := by
  obtain ⟨c, rest, rfl⟩ := List.exists_cons_of_ne_nil hne
  have hsign : c ≠ '+' := by
    rintro rfl
    exact absurd (hdigits '+' List.mem_cons_self) (by decide)
  rw [value_eq_ofDigitChars, ← readDigits_eq hbound hdigits]
  unfold read
  split <;> simp_all

/-- A number below the bound is read back from its digits. -/
theorem read_digits {bound n : Nat} (hn : n < bound) : read bound (digits n) = .ok n := by
  rw [read_eq (Nat.zero_lt_of_lt hn) (digits_ne_nil n) (fun c hc => isDigit_of_mem_digits hc),
    value_digits, if_pos hn]

end DocPath.Text.Numeral
