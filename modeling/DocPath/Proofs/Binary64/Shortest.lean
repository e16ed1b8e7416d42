import Mathlib.Algebra.Order.Field.Rat
import Mathlib.Algebra.Order.Field.Power
import Mathlib.Tactic.FieldSimp
import Mathlib.Tactic.Ring
import Mathlib.Tactic.Positivity
import DocPath.Binary64.Decimal
import DocPath.Proofs.Binary64.Spacing

/-!
# Decimals that read back

A decimal stands for a rational number, and taking trailing zeros away changes its spelling only. Whatever decimal is
chosen for a magnitude lies between the midpoints to the neighbours of the magnitude. So for a magnitude that is no
whole number the decimal is none either, and has places behind the point. For whole numbers with more digits than
are ever tried it has none.
-/

namespace DocPath.Binary64

/-! ## Values of decimals -/

namespace Decimal

/-- The rational number that a decimal stands for. -/
def value (d : Decimal) : ℚ := d.coefficient * 10 ^ d.exponent

theorem value_of_nonneg {d : Decimal} (hexponent : 0 ≤ d.exponent) :
    d.value = (d.coefficient * Nat.pow 10 d.exponent.toNat : Nat) := by
  obtain ⟨n, e⟩ := d
  obtain ⟨k, rfl⟩ := Int.eq_ofNat_of_zero_le hexponent
  simp [value]

/-- A last zero taken away only moves the exponent. -/
theorem value_strip {n : Nat} {e : Int} (hzero : n % 10 = 0) : value ⟨n / 10, e + 1⟩ = value ⟨n, e⟩ := by
  have hten : ((10 * (n / 10) : Nat) : ℚ) = n := congrArg _ (Nat.mul_div_cancel' (Nat.dvd_of_mod_eq_zero hzero))
  rw [value, value, ← hten, zpow_add_one₀ (by decide)]
  push_cast
  ring

@[simp] theorem value_stripZeros (fuel : Nat) (d : Decimal) : (d.stripZeros fuel).value = d.value := by
  induction fuel generalizing d with
  | zero => rfl
  | succ fuel ih =>
      rw [stripZeros]
      split
      next hzero => rw [ih, value_strip hzero.2]
      next => rfl

/-- A whole number with places behind the point has a zero at the last one. -/
theorem ten_dvd_of_whole {d : Decimal} {n : Nat} (hexponent : d.exponent < 0) (hwhole : d.value = n) :
    10 ∣ d.coefficient := by
  obtain ⟨c, e⟩ := d
  obtain ⟨k, rfl⟩ : ∃ k : Nat, e = -(k + 1 : Nat) := ⟨(-e - 1).toNat, by simp only at hexponent; omega⟩
  have hcoefficient : (c : ℚ) = (n * 10 ^ (k + 1) : Nat) := by
    rw [value, zpow_neg, zpow_natCast, mul_inv_eq_iff_eq_mul₀ (by positivity)] at hwhole
    rw [hwhole]
    push_cast
    rfl
  rw [Nat.cast_inj] at hcoefficient
  subst hcoefficient
  exact Dvd.dvd.mul_left (dvd_pow_self 10 (Nat.succ_ne_zero k)) n

/-- Zeros are taken away until a whole number has no place behind the point, if there are enough steps. -/
theorem exponent_stripZeros_nonneg {fuel : Nat} {d : Decimal} {n : Nat} (hcoefficient : d.coefficient ≠ 0)
    (hfuel : -d.exponent ≤ fuel) (hwhole : d.value = n) : 0 ≤ (d.stripZeros fuel).exponent := by
  induction fuel generalizing d with
  | zero =>
      rw [stripZeros]
      omega
  | succ fuel ih =>
      rw [stripZeros]
      split
      next hzero =>
        apply ih
        · simp only
          omega
        · simp only
          omega
        · rw [value_strip hzero.2, hwhole]
      next hstop =>
        refine Int.not_lt.mp fun hneg => hstop ⟨hcoefficient, ?_⟩
        exact Nat.mod_eq_zero_of_dvd (ten_dvd_of_whole hneg hwhole)

end Decimal

/-! ## Rounding intervals -/

namespace RoundingInterval

/-- A number, counted in half units, lies in the interval or at one of its ends. -/
def Encloses (interval : RoundingInterval) (x : ℚ) : Prop :=
  interval.lower ≤ x * (2 * unitsPerOne : Nat) ∧ x * (2 * unitsPerOne : Nat) ≤ interval.upper

theorem bounds_of_contains {interval : RoundingInterval} {num den : Nat}
    (hcontains : interval.contains num den = true) :
    interval.lower * den ≤ num ∧ num ≤ interval.upper * den := by
  rw [contains] at hcontains
  split at hcontains
  next => simpa using hcontains
  next =>
    simp only [Bool.and_eq_true, decide_eq_true_eq] at hcontains
    exact ⟨Nat.le_of_lt hcontains.1, Nat.le_of_lt hcontains.2⟩

theorem ten_zpow_mul (place : Int) : (10 : ℚ) ^ place * 10 ^ (-place).toNat = 10 ^ place.toNat := by
  rw [← zpow_natCast, ← zpow_natCast, ← zpow_add₀ (by decide)]
  congr 1
  omega

/-- The comparison of natural numbers that a power of ten on either side makes of one with a decimal. -/
theorem encloses_of_contains {interval : RoundingInterval} {n : Nat} {place : Int}
    (hcontains : interval.contains (n * (Nat.pow 10 place.toNat * (2 * unitsPerOne)))
      (Nat.pow 10 (-place).toNat) = true) :
    interval.Encloses (Decimal.value ⟨n, place⟩) := by
  obtain ⟨hlower, hupper⟩ := bounds_of_contains hcontains
  have hscaled : Decimal.value ⟨n, place⟩ * (2 * unitsPerOne : Nat) * (Nat.pow 10 (-place).toNat : Nat) =
      (n * (Nat.pow 10 place.toNat * (2 * unitsPerOne)) : Nat) := by
    simp only [Decimal.value, Nat.pow_eq, Nat.cast_mul, Nat.cast_pow, Nat.cast_ofNat]
    rw [← ten_zpow_mul place]
    ring
  have hpos : (0 : ℚ) < (Nat.pow 10 (-place).toNat : Nat) := Nat.cast_pos.mpr (Nat.pow_pos (by decide))
  constructor
  · rw [← mul_le_mul_iff_of_pos_right hpos, hscaled]
    exact_mod_cast hlower
  · rw [← mul_le_mul_iff_of_pos_right hpos, hscaled]
    exact_mod_cast hupper

/-- The magnitude itself lies between the midpoints. -/
theorem encloses_of_eq_units {pattern : Nat} {x : ℚ} (hx : x * unitsPerOne = units pattern) :
    (ofPattern pattern).Encloses x := by
  have hbefore := units_strictMono.monotone (Nat.sub_le pattern 1)
  have hafter := units_strictMono.monotone (Nat.le_add_right pattern 1)
  have hdouble : x * (2 * unitsPerOne : Nat) = (2 * units pattern : Nat) := by
    push_cast
    rw [← hx]
    ring
  rw [Encloses, hdouble, ofPattern, Nat.cast_le, Nat.cast_le]
  simp only
  omega

/-- For whole numbers the midpoints are compared in natural numbers. -/
theorem encloses_natCast_iff {pattern n : Nat} : (ofPattern pattern).Encloses n ↔
    units (pattern - 1) + units pattern ≤ 2 * (n * unitsPerOne) ∧
      2 * (n * unitsPerOne) ≤ units pattern + units (pattern + 1) := by
  rw [Encloses, ofPattern, ← Nat.cast_mul, Nat.cast_le, Nat.cast_le, Nat.mul_left_comm]

/-- A whole number is between the midpoints of no magnitude that is none. -/
theorem not_encloses_whole {pattern n : Nat} (hpart : ¬ unitsPerOne ∣ units pattern) :
    ¬ (ofPattern pattern).Encloses n := by
  rw [encloses_natCast_iff]
  have houtside := whole_outside hpart (n := n)
  omega

/-- Above the least magnitude both midpoints are positive, and all between them is. -/
theorem pos_of_encloses {pattern : Nat} {x : ℚ} (hpattern : 0 < pattern) (hx : (ofPattern pattern).Encloses x) :
    0 < x := by
  have hlower : 0 < units (pattern - 1) + units pattern := by
    have hpos := units_pos_iff.mpr hpattern
    omega
  have hscaled : (0 : ℚ) < x * (2 * unitsPerOne : Nat) := (Nat.cast_pos.mpr hlower).trans_le hx.1
  exact pos_of_mul_pos_left hscaled (Nat.cast_nonneg _)

end RoundingInterval

/-! ## The decimal of a magnitude -/

/-- A neighbour is chosen only if it fits. -/
theorem fits_of_choose? (fits : Nat → Bool) {tie : DecimalTie} {middle : Ordering} {below n : Nat}
    (hchoice : tie.choose? middle below (fits below) (fits (below + 1)) = some n) : fits n = true := by
  unfold DecimalTie.choose? at hchoice
  split at hchoice
  next => cases hchoice
  next hbelow _ => rwa [← Option.some.inj hchoice]
  next _ hnext => rwa [← Option.some.inj hchoice]
  next hbelow hnext =>
    have hneighbour : n = below ∨ n = below + 1 := by
      have heven := Nat.mod_two_eq_zero_or_one below
      repeat' split at hchoice
      all_goals
        have hn := Option.some.inj hchoice
        omega
    rcases hneighbour with rfl | rfl
    · exact hbelow
    · exact hnext

/-- A decimal that is found for a place has its last digit there and fits. -/
theorem encloses_of_nearestOnGrid? {tie : DecimalTie} {interval : RoundingInterval} {place : Int} {d : Decimal}
    (hfound : nearestOnGrid? tie interval place = some d) : d.exponent = place ∧ interval.Encloses d.value := by
  unfold nearestOnGrid? at hfound
  extract_lets up down below middle fits at hfound
  obtain ⟨n, hchoice, rfl⟩ := Option.map_eq_some_iff.mp hfound
  exact ⟨rfl, RoundingInterval.encloses_of_contains (fits_of_choose? fits hchoice)⟩

theorem value_mul_pow_five (n k : Nat) : Decimal.value ⟨n * Nat.pow 5 k, -k⟩ * (Nat.pow 2 k : Nat) = n := by
  have hten : (10 : ℚ) ^ k = 5 ^ k * 2 ^ k := by
    rw [← mul_pow]
    norm_num
  simp only [Decimal.value, Nat.pow_eq, Nat.cast_mul, Nat.cast_pow, Nat.cast_ofNat, zpow_neg, zpow_natCast]
  rw [hten]
  field_simp

/-- The exact decimal of a magnitude stands for it. -/
theorem value_exact (pattern : Nat) : (Decimal.exact pattern).value * unitsPerOne = units pattern := by
  have hone : unitsPerOne = Nat.pow 2 1074 := by
    unfold unitsPerOne
    exact Eq.refl _
  have hexact : Decimal.exact pattern = ⟨units pattern * Nat.pow 5 1074, -(1074 : Nat)⟩ := by
    unfold Decimal.exact
    exact Eq.refl _
  generalize 1074 = k at hone hexact
  rw [hone, hexact]
  exact value_mul_pow_five (units pattern) k

/-- Zeros are taken away from a decimal with one of at most seventeen last places that was found to fit, or from the
exact value. -/
theorem shortest_cases (tie : DecimalTie) {pattern : Nat} (hpattern : pattern ≠ 0) :
    ∃ d : Decimal, shortest tie pattern = d.stripZeros 1100 ∧ (d = .exact pattern ∨ ∃ k : Nat, k < 17 ∧
      nearestOnGrid? tie (.ofPattern pattern) (decimalScale (units pattern) unitsPerOne - 1 - k) = some d) := by
  rw [shortest, if_neg hpattern]
  refine ⟨_, rfl, ?_⟩
  cases hfound : (List.range 17).findSome? _ with
  | none => exact .inl rfl
  | some d =>
      obtain ⟨k, hk, hgrid⟩ := List.exists_of_findSome?_eq_some hfound
      exact .inr ⟨k, List.mem_range.mp hk, hgrid⟩

/-- Whatever decimal is written for a magnitude lies between the midpoints to its neighbours. -/
theorem encloses_shortest (tie : DecimalTie) (pattern : Nat) :
    (RoundingInterval.ofPattern pattern).Encloses (shortest tie pattern).value := by
  by_cases hpattern : pattern = 0
  · subst hpattern
    apply RoundingInterval.encloses_of_eq_units
    rw [shortest, if_pos rfl, Decimal.value, units_of_lt (by decide), Nat.cast_zero, zero_mul, zero_mul]
  · obtain ⟨d, hshortest, hd⟩ := shortest_cases tie hpattern
    rw [hshortest, Decimal.value_stripZeros]
    rcases hd with rfl | ⟨k, -, hgrid⟩
    · exact RoundingInterval.encloses_of_eq_units (value_exact pattern)
    · exact (encloses_of_nearestOnGrid? hgrid).2

theorem coefficient_ne_zero {pattern : Nat} {d : Decimal} (hpattern : 0 < pattern)
    (hencloses : (RoundingInterval.ofPattern pattern).Encloses d.value) : d.coefficient ≠ 0 := by
  have hpos := RoundingInterval.pos_of_encloses hpattern hencloses
  intro hzero
  rw [Decimal.value, hzero, Nat.cast_zero, zero_mul] at hpos
  exact lt_irrefl _ hpos

/-- The decimal of a magnitude that is no whole number is none either, and has places behind the point. -/
theorem shortest_of_part (tie : DecimalTie) {pattern : Nat} (hpart : ¬ unitsPerOne ∣ units pattern) :
    (shortest tie pattern).exponent < 0 ∧ ∀ n : Nat, (shortest tie pattern).value ≠ n := by
  have hvalue : ∀ n : Nat, (shortest tie pattern).value ≠ n := by
    intro n hn
    have hencloses := encloses_shortest tie pattern
    rw [hn] at hencloses
    exact RoundingInterval.not_encloses_whole hpart hencloses
  refine ⟨Int.not_le.mp fun hexponent => ?_, hvalue⟩
  exact hvalue _ (Decimal.value_of_nonneg hexponent)

theorem lt_digitCount {n k : Nat} (hk : 0 < k) (hn : Nat.pow 10 k ≤ n) : k < digitCount n := by
  have hpos : 0 < n := Nat.lt_of_lt_of_le (Nat.pow_pos (by decide)) hn
  rw [digitCount, if_neg (Nat.ne_of_gt hpos), ← Nat.not_le, Nat.length_toDigits_le_iff (by decide) hk]
  exact Nat.not_lt.mpr hn

/-- The decimal of a whole number of at least seventeen digits has no place behind the point, since as many digits as
are tried stand in front of it. -/
theorem exponent_shortest_nonneg (tie : DecimalTie) {pattern n : Nat} (hwhole : units pattern = n * unitsPerOne)
    (hlarge : Nat.pow 10 16 ≤ n) : 0 ≤ (shortest tie pattern).exponent := by
  have hn : 0 < n := Nat.lt_of_lt_of_le (Nat.pow_pos (by decide)) hlarge
  have hpattern := pattern_pos_of_whole hwhole hn
  obtain ⟨d, hshortest, hd⟩ := shortest_cases tie (Nat.ne_of_gt hpattern)
  rw [hshortest]
  rcases hd with rfl | ⟨k, hk, hgrid⟩
  · have hencloses := RoundingInterval.encloses_of_eq_units (value_exact pattern)
    have hvalue : (Decimal.exact pattern).value = n := by
      have hone : (unitsPerOne : ℚ) ≠ 0 := Nat.cast_ne_zero.mpr (Nat.ne_of_gt unitsPerOne_pos)
      apply mul_right_cancel₀ hone
      rw [value_exact, hwhole, Nat.cast_mul]
    have hexponent : (Decimal.exact pattern).exponent = -1074 := rfl
    exact Decimal.exponent_stripZeros_nonneg (coefficient_ne_zero hpattern hencloses) (by omega) hvalue
  · obtain ⟨hexponent, hencloses⟩ := encloses_of_nearestOnGrid? hgrid
    have hscale : decimalScale (units pattern) unitsPerOne = digitCount n := by
      rw [decimalScale, if_pos, hwhole, Nat.mul_div_cancel _ unitsPerOne_pos]
      rw [hwhole]
      exact Nat.le_mul_of_pos_left _ hn
    have hdigits := lt_digitCount (by decide) hlarge
    have hnonneg : 0 ≤ d.exponent := by omega
    exact Decimal.exponent_stripZeros_nonneg (coefficient_ne_zero hpattern hencloses) (by omega)
      (Decimal.value_of_nonneg hnonneg)

end DocPath.Binary64
