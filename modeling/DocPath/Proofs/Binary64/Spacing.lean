import Mathlib.Order.Monotone.Basic
import DocPath.Binary64.Basic

/-!
# Gaps between magnitudes

From a magnitude to the next one there is a gap, a power of two of units, which divides both. So greater patterns
stand for greater magnitudes, and where the gap divides one, no whole number lies between the two. A magnitude that
is no whole number has such gaps on both sides. Then the midpoints to its neighbours enclose no whole number.
-/

namespace DocPath.Binary64

/-! ## One pattern after the other -/

/-- How many units lie between the magnitude of a pattern and the next one. -/
def gap (pattern : Nat) : Nat := Nat.pow 2 (pattern / binade - 1)

theorem gap_pos (pattern : Nat) : 0 < gap pattern := Nat.pow_pos (by decide)

/-- Gaps do not shrink, and being powers of two the smaller ones divide the greater. -/
theorem gap_dvd_gap {p q : Nat} (hle : p ≤ q) : gap p ∣ gap q :=
  Nat.pow_dvd_pow 2 (Nat.sub_le_sub_right (Nat.div_le_div_right hle) 1)

theorem gap_of_lt {pattern : Nat} (hsmall : pattern < 2 * binade) : gap pattern = 1 := by
  have hquotient : pattern / binade < 2 := Nat.div_lt_of_lt_mul (by omega)
  have hexponent : pattern / binade - 1 = 0 := by omega
  rw [gap, hexponent]

/-- From the second binade on a magnitude is counted in its own gap. -/
theorem units_of_le {pattern : Nat} (hlarge : binade ≤ pattern) :
    units pattern = (binade + pattern % binade) * gap pattern := by
  rw [units, if_neg (Nat.not_lt.mpr hlarge), gap]

/-- In the first two binades a pattern counts its own units. -/
theorem units_of_lt {pattern : Nat} (hsmall : pattern < 2 * binade) : units pattern = pattern := by
  rcases Nat.lt_or_ge pattern binade with hfirst | hsecond
  · rw [units, if_pos hfirst]
  · rw [units_of_le hsecond, gap_of_lt hsmall]
    simp only [binade] at *
    omega

theorem gap_dvd_units (pattern : Nat) : gap pattern ∣ units pattern := by
  rcases Nat.lt_or_ge pattern binade with hsmall | hlarge
  · rw [gap_of_lt (by omega)]
    exact Nat.one_dvd _
  · rw [units_of_le hlarge]
    exact Nat.dvd_mul_left _ _

/-- Within a binade the remainder counts on. Behind its last pattern the gap doubles, and the count starts anew. -/
theorem binade_step {pattern : Nat} (hlarge : binade ≤ pattern) :
    gap (pattern + 1) = gap pattern ∧ (pattern + 1) % binade = pattern % binade + 1 ∨
      gap (pattern + 1) = 2 * gap pattern ∧ (pattern + 1) % binade = 0 ∧ pattern % binade + 1 = binade := by
  have hexponent : (pattern + 1) / binade - 1 = pattern / binade - 1 ∧
        (pattern + 1) % binade = pattern % binade + 1 ∨
      (pattern + 1) / binade - 1 = pattern / binade - 1 + 1 ∧
        (pattern + 1) % binade = 0 ∧ pattern % binade + 1 = binade := by
    simp only [binade] at *
    omega
  rw [gap, gap]
  rcases hexponent with ⟨hsame, hcount⟩ | ⟨hnext, hcount⟩
  · exact .inl ⟨by rw [hsame], hcount⟩
  · exact .inr ⟨by rw [hnext]; exact Nat.pow_succ', hcount⟩

/-- The next magnitude is one gap further, within a binade and across its end. -/
theorem units_succ (pattern : Nat) : units (pattern + 1) = units pattern + gap pattern := by
  rcases Nat.lt_or_ge (pattern + 1) (2 * binade) with hsmall | hlarge
  · rw [units_of_lt hsmall, units_of_lt (by omega), gap_of_lt (by omega)]
  · have hbinade : binade ≤ pattern := by
      simp only [binade] at *
      omega
    rw [units_of_le hbinade, units_of_le (by omega)]
    rcases binade_step hbinade with ⟨hgap, hcount⟩ | ⟨hgap, hcount, hlast⟩
    · rw [hgap, hcount, ← Nat.add_assoc, Nat.succ_mul]
    · calc (binade + (pattern + 1) % binade) * gap (pattern + 1)
          = binade * (2 * gap pattern) := by rw [hcount, hgap, Nat.add_zero]
        _ = (binade + (pattern % binade + 1)) * gap pattern := by
            rw [hlast, ← Nat.mul_assoc, Nat.mul_two]
        _ = (binade + pattern % binade) * gap pattern + gap pattern := by
            rw [← Nat.add_assoc, Nat.succ_mul]

/-- Patterns and magnitudes are in the same order. -/
theorem units_strictMono : StrictMono units :=
  strictMono_nat_of_lt_succ fun pattern => by
    rw [units_succ]
    exact Nat.lt_add_of_pos_right (gap_pos pattern)

theorem units_pos_iff {pattern : Nat} : 0 < units pattern ↔ 0 < pattern := by
  have hzero : units 0 = 0 := rfl
  calc 0 < units pattern ↔ units 0 < units pattern := by rw [hzero]
    _ ↔ 0 < pattern := units_strictMono.lt_iff_lt

/-! ## Whole numbers -/

/-- One is a power of two of units. Which one does not matter, and naming it lets nothing evaluate it. -/
theorem exists_unitsPerOne_eq : ∃ k, unitsPerOne = Nat.pow 2 k := by
  unfold unitsPerOne
  exact ⟨1074, Eq.refl _⟩

theorem unitsPerOne_pos : 0 < unitsPerOne := by
  obtain ⟨k, hk⟩ := exists_unitsPerOne_eq
  rw [hk]
  exact Nat.pow_pos (by decide)

theorem pattern_pos_of_whole {pattern n : Nat} (hwhole : units pattern = n * unitsPerOne) (hn : 0 < n) :
    0 < pattern := by
  rw [← units_pos_iff, hwhole]
  exact Nat.mul_pos hn unitsPerOne_pos

/-- Of a magnitude that is no whole number, the gap is a part of one. -/
theorem gap_dvd_unitsPerOne {pattern : Nat} (hpart : ¬ unitsPerOne ∣ units pattern) :
    gap pattern ∣ unitsPerOne := by
  obtain ⟨k, hk⟩ := exists_unitsPerOne_eq
  rw [hk] at hpart ⊢
  rcases Nat.le_total (pattern / binade - 1) k with hsmall | hlarge
  · exact Nat.pow_dvd_pow 2 hsmall
  · have hdvd : Nat.pow 2 k ∣ gap pattern := Nat.pow_dvd_pow 2 hlarge
    exact absurd (Nat.dvd_trans hdvd (gap_dvd_units pattern)) hpart

/-- A whole number beyond a magnitude is not before the next one, if the gap is a part of one. -/
theorem units_succ_le {pattern n : Nat} (hgap : gap pattern ∣ unitsPerOne)
    (hlt : units pattern < n * unitsPerOne) : units (pattern + 1) ≤ n * unitsPerOne := by
  have hdistance : gap pattern ∣ n * unitsPerOne - units pattern :=
    Nat.dvd_sub (Nat.dvd_mul_left_of_dvd hgap n) (gap_dvd_units pattern)
  have hle := Nat.le_of_dvd (Nat.sub_pos_of_lt hlt) hdistance
  rw [units_succ]
  omega

/-- No whole number is as near to a magnitude that is none as the midpoints to its neighbours are. -/
theorem whole_outside {pattern n : Nat} (hpart : ¬ unitsPerOne ∣ units pattern) :
    2 * (n * unitsPerOne) < units (pattern - 1) + units pattern ∨
      units pattern + units (pattern + 1) < 2 * (n * unitsPerOne) := by
  have hgap := gap_dvd_unitsPerOne hpart
  rcases Nat.lt_trichotomy (n * unitsPerOne) (units pattern) with hbelow | heq | habove
  · left
    obtain ⟨before, rfl⟩ := Nat.exists_eq_add_one.mpr (units_pos_iff.mp (Nat.zero_lt_of_lt hbelow))
    have hle : n * unitsPerOne ≤ units before := by
      refine Nat.le_of_not_lt fun hlt => ?_
      have hnext := units_succ_le (Nat.dvd_trans (gap_dvd_gap (Nat.le_succ before)) hgap) hlt
      omega
    rw [Nat.add_sub_cancel]
    omega
  · exact absurd (heq ▸ Nat.dvd_mul_left unitsPerOne n) hpart
  · right
    have hnext := units_succ_le hgap habove
    omega

end DocPath.Binary64
