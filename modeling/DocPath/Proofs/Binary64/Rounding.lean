import DocPath.Binary64.Rounding

/-!
# Rounding keeps order

Rounding a quotient to the nearest natural number keeps order, since it never goes past an integer. Rounding to
53 bits keeps order too: within one gap width it is that rounding, and from one width to the next the patterns
go on where those before end. So greater integers never become lesser doubles, though different ones may
become the same.
-/

namespace DocPath.Binary64

/-! ## To the nearest natural number -/

theorem divNearestEven_mul {den : Nat} (hden : 0 < den) (n : Nat) : divNearestEven (n * den) den = n := by
  have hlt : compare (2 * (n * den % den)) den = .lt := by
    rw [Nat.mul_mod_left, Nat.compare_eq_lt]
    omega
  rw [divNearestEven, hlt]
  exact Nat.mul_div_left n hden

/-- It does not go below the quotient, nor beyond the number after it. -/
theorem divNearestEven_bounds (num den : Nat) :
    num / den ≤ divNearestEven num den ∧ divNearestEven num den ≤ num / den + 1 := by
  rw [divNearestEven]
  split <;> omega

/-- Rounding to the nearest number, of two the even one, keeps the order. -/
theorem divNearestEven_mono {num num' den : Nat} (hle : num ≤ num') :
    divNearestEven num den ≤ divNearestEven num' den := by
  have hquotient : num / den ≤ num' / den := Nat.div_le_div_right hle
  rcases Nat.lt_or_eq_of_le hquotient with hlt | heq
  · exact Nat.le_trans (divNearestEven_bounds num den).2 (Nat.le_trans hlt (divNearestEven_bounds num' den).1)
  · -- Of one quotient, the greater remainder goes up at least as far.
    have hremainder : num % den ≤ num' % den := by
      have hnum := Nat.div_add_mod num den
      have hnum' := Nat.div_add_mod num' den
      rw [heq] at hnum
      omega
    simp only [divNearestEven, heq]
    rcases hfirst : compare (2 * (num % den)) den with _ | _ | _ <;>
      rcases hsecond : compare (2 * (num' % den)) den with _ | _ | _ <;>
      simp only [Nat.compare_eq_lt, Nat.compare_eq_eq, Nat.compare_eq_gt] at hfirst hsecond <;>
      simp <;> omega

/-! ## To 53 bits -/

/-- The pattern of the magnitude nearest to a number of units, without regard to the greatest pattern. -/
def roundedPattern (n : Nat) : Nat :=
  (Nat.log2 n - 52) * binade + divNearestEven n (Nat.pow 2 (Nat.log2 n - 52))

/-- A whole number of units only has to be brought to the width of a pattern. -/
theorem roundUnits_one (n : Nat) : roundUnits n 1 = .saturate (roundedPattern n) := by
  simp [roundUnits, roundedPattern]

theorem log2_mono {n n' : Nat} (hle : n ≤ n') : n.log2 ≤ n'.log2 := by
  by_cases hn : n = 0
  · simp [hn]
  · rw [Nat.le_log2 (by omega)]
    exact Nat.le_trans (Nat.log2_self_le hn) hle

/-- A number is below twice the power of two that keeps its first 53 bits. -/
theorem lt_two_binades_mul (n : Nat) : n < 2 * binade * Nat.pow 2 (n.log2 - 52) := by
  have hshape : 2 * binade * Nat.pow 2 (n.log2 - 52) = 2 ^ (53 + (n.log2 - 52)) := by
    rw [Nat.pow_add]
    rfl
  rw [hshape]
  exact Nat.lt_of_lt_of_le Nat.lt_log2_self (Nat.pow_le_pow_right (by decide) (by omega))

theorem binade_mul_le {n : Nat} (hwide : 52 ≤ n.log2) : binade * Nat.pow 2 (n.log2 - 52) ≤ n := by
  have hshape : binade * Nat.pow 2 (n.log2 - 52) = 2 ^ n.log2 := by
    have hsplit : n.log2 = 52 + (n.log2 - 52) := by omega
    conv => rhs; rw [hsplit, Nat.pow_add]
    rfl
  have hn : n ≠ 0 := by
    rintro rfl
    simp at hwide
  rw [hshape]
  exact Nat.log2_self_le hn

/-- Within a binade rounding keeps the order, and every binade ends below the next. -/
theorem roundedPattern_mono {n n' : Nat} (hle : n ≤ n') : roundedPattern n ≤ roundedPattern n' := by
  have hpos : ∀ k, 0 < Nat.pow 2 k := fun k => Nat.pow_pos (by decide)
  have hlog := log2_mono hle
  rw [roundedPattern, roundedPattern]
  by_cases hsame : n.log2 - 52 = n'.log2 - 52
  · rw [hsame]
    exact Nat.add_le_add_left (divNearestEven_mono hle) _
  · -- The lesser number rounds to two binades at most, and the greater one to one at least.
    have hupper : divNearestEven n (Nat.pow 2 (n.log2 - 52)) ≤ 2 * binade := by
      rw [← divNearestEven_mul (hpos (n.log2 - 52)) (2 * binade)]
      exact divNearestEven_mono (Nat.le_of_lt (lt_two_binades_mul n))
    have hlower : binade ≤ divNearestEven n' (Nat.pow 2 (n'.log2 - 52)) := by
      rw [← divNearestEven_mul (hpos (n'.log2 - 52)) binade]
      exact divNearestEven_mono (binade_mul_le (by omega))
    have hwidths := Nat.mul_le_mul_right binade (show n.log2 - 52 + 1 ≤ n'.log2 - 52 by omega)
    rw [Nat.add_mul, Nat.one_mul] at hwidths
    omega

/-! ## Integers as doubles -/

theorem Magnitude.saturate_mono {pattern pattern' : Nat} (hle : pattern ≤ pattern') :
    (saturate pattern).pattern ≤ (saturate pattern').pattern := by
  show min pattern infinityPattern ≤ min pattern' infinityPattern
  omega

/-- The magnitude nearest to a greater number is not smaller. -/
theorem roundUnits_mono {n n' : Nat} (hle : n ≤ n') : (roundUnits n 1).pattern ≤ (roundUnits n' 1).pattern := by
  rw [roundUnits_one, roundUnits_one]
  exact Magnitude.saturate_mono (roundedPattern_mono hle)

/-- The place, in the order of numbers, of the double nearest to a number of units. -/
def unitsRank (n : Int) : Int :=
  if n < 0 then -((roundUnits n.natAbs 1).pattern : Int) else (roundUnits n.natAbs 1).pattern

/-- The place of a rounded number of units is that of its magnitude, on the side of its sign. -/
theorem rank?_ofUnits (n : Int) : (ofUnits false n).rank? = some (unitsRank n) := by
  by_cases hzero : n = 0
  · subst hzero
    rfl
  · simp [ofUnits, rank?, unitsRank, hzero]

/-- On both sides of zero greater numbers have no lower place. -/
theorem unitsRank_mono {n n' : Int} (hle : n ≤ n') : unitsRank n ≤ unitsRank n' := by
  rw [unitsRank, unitsRank]
  split
  · split
    · -- Below zero the lesser number has the greater magnitude.
      have hmagnitude := roundUnits_mono (show n'.natAbs ≤ n.natAbs by omega)
      omega
    · omega
  · have hmagnitude := roundUnits_mono (show n.natAbs ≤ n'.natAbs by omega)
    split
    · omega
    · omega

/-- The place of an integer's double in the order of numbers. -/
def intRank (n : Int) : Int := unitsRank (n * unitsPerOne)

theorem rank?_ofInt (n : Int) : (ofInt n).rank? = some (intRank n) := rank?_ofUnits _

/-- Of two integers, the double of the greater one has no lesser place. -/
theorem intRank_mono {n n' : Int} (hle : n ≤ n') : intRank n ≤ intRank n' :=
  unitsRank_mono (Int.mul_le_mul_of_nonneg_right hle (Int.natCast_nonneg _))

end DocPath.Binary64
