import DocPath.Proofs.Binary64.Rounding
import DocPath.Value.Method.Collection

/-!
# The order of values

Two values can be compared if both are numbers, both strings or both symbols; what stands for no number cannot
even be compared with itself. Among values that can be compared, being before is transitive, because an integer
beside a float counts as the nearest double, and this keeps the order of integers. To be neither before nor
after is not transitive: different integers may both share the place of one float.
-/

namespace DocPath

/-! ## Doubles -/

namespace Binary64

theorem isNaN_ofInt (n : Int) : (ofInt n).isNaN = false := rfl

/-- Doubles can be compared unless one of them stands for no number. -/
theorem order?_isSome_iff (x y : Binary64) : (order? x y).isSome ↔ x.isNaN = false ∧ y.isNaN = false := by
  cases x <;> cases y <;> simp [order?, rank?, isNaN]

theorem order?_swap (x y : Binary64) : order? y x = (order? x y).map Ordering.swap := by
  rw [order?, order?]
  rcases x.rank? with _ | r <;> rcases y.rank? with _ | s <;> simp [← Std.OrientedCmp.eq_swap]

theorem order?_eq_lt_iff (x y : Binary64) :
    order? x y = some .lt ↔ ∃ r s, x.rank? = some r ∧ y.rank? = some s ∧ r < s := by
  rw [order?]
  rcases x.rank? with _ | r <;> rcases y.rank? with _ | s <;> simp [Int.compare_eq_lt]

end Binary64

/-- Values of one kind can be compared with each other. -/
inductive OrderKind where
  | number
  | string
  | symbol
  deriving DecidableEq

namespace Value

/-! ## Which values can be compared -/

/-- The kind that a value is compared in. -/
def orderKind? : Value → Option OrderKind
  | .int _ => some .number
  | .float x => if x.isNaN then none else some .number
  | .str _ => some .string
  | .symbol _ => some .symbol
  | _ => none

/-- There is an answer exactly for two values of one kind. -/
theorem order?_isSome_iff (a b : Value) :
    (order? a b).isSome ↔ ∃ kind, a.orderKind? = some kind ∧ b.orderKind? = some kind := by
  cases a with
  | str s =>
    cases b with
    | str t => exact iff_of_true rfl ⟨.string, rfl, rfl⟩
    | _ => simp [order?, orderKind?]
  | symbol s =>
    cases b with
    | symbol t => exact iff_of_true rfl ⟨.symbol, rfl, rfl⟩
    | _ => simp [order?, orderKind?]
  | _ =>
    cases b <;> simp [order?, orderKind?, Binary64.order?_isSome_iff, Binary64.isNaN_ofInt]

/-- Where there is an answer, both values are of one kind. -/
theorem orderKind?_eq_of_order? {a b : Value} {ordering : Ordering} (horder : order? a b = some ordering) :
    a.orderKind? = b.orderKind? := by
  obtain ⟨kind, ha, hb⟩ := (order?_isSome_iff a b).mp (by simp [horder])
  rw [ha, hb]

theorem order?_swap (a b : Value) : order? b a = (order? a b).map Ordering.swap := by
  cases a with
  | int m =>
    cases b with
    | int n => exact congrArg some Std.OrientedCmp.eq_swap
    | float y => exact Binary64.order?_swap _ _
    | _ => rfl
  | float x =>
    cases b with
    | int n => exact Binary64.order?_swap _ _
    | float y => exact Binary64.order?_swap _ _
    | _ => rfl
  | str s =>
    cases b with
    | str t => exact congrArg some (Std.OrientedCmp.eq_swap : Ord.compare t s = (Ord.compare s t).swap)
    | _ => rfl
  | symbol s =>
    cases b with
    | symbol t => exact congrArg some (Std.OrientedCmp.eq_swap : Ord.compare t s = (Ord.compare s t).swap)
    | _ => rfl
  | _ => cases b <;> rfl

/-! ## What is before what -/

/-- The place of a number in the order of doubles. -/
def rank? : Value → Option Int
  | .int n => some (Binary64.intRank n.toInt)
  | .float x => x.rank?
  | _ => none

/-- An integer beside an integer, a number beside a number by their places, a text beside a text. -/
inductive Before : Value → Value → Prop where
  | int {m n : Int64} (hlt : m.toInt < n.toInt) : Before (.int m) (.int n)
  | rank {a b : Value} {r s : Int} (ha : a.rank? = some r) (hb : b.rank? = some s) (hlt : r < s) :
      Before a b
  | str {s t : String} (hlt : s < t) : Before (.str s) (.str t)
  | symbol {s t : String} (hlt : s < t) : Before (.symbol s) (.symbol t)

/-- Numbers with places in order are in order, also two integers, since to round keeps their order. -/
theorem order?_of_rank_lt {a b : Value} {r s : Int} (ha : a.rank? = some r) (hb : b.rank? = some s)
    (hlt : r < s) : order? a b = some .lt := by
  cases a with
  | int m =>
    cases b with
    | int n =>
      cases ha
      cases hb
      have hnot : ¬ n.toInt ≤ m.toInt := fun hle => Int.not_lt.mpr (Binary64.intRank_mono hle) hlt
      exact congrArg some (Int.compare_eq_lt.mpr (Int.not_le.mp hnot))
    | float y => exact (Binary64.order?_eq_lt_iff _ _).mpr ⟨r, s, (Binary64.rank?_ofInt _).trans ha, hb, hlt⟩
    | _ => cases hb
  | float x =>
    cases b with
    | int n => exact (Binary64.order?_eq_lt_iff _ _).mpr ⟨r, s, ha, (Binary64.rank?_ofInt _).trans hb, hlt⟩
    | float y => exact (Binary64.order?_eq_lt_iff _ _).mpr ⟨r, s, ha, hb, hlt⟩
    | _ => cases hb
  | _ => cases ha

/-- The comparison says less exactly for a value that is before the other. -/
theorem order?_eq_lt_iff (a b : Value) : order? a b = some .lt ↔ Before a b := by
  constructor
  · intro hlt
    unfold order? at hlt
    split at hlt
    next m n => exact .int (Int.compare_eq_lt.mp (Option.some.inj hlt))
    next m y =>
      obtain ⟨r, s, hr, hs, hrs⟩ := (Binary64.order?_eq_lt_iff _ _).mp hlt
      exact .rank ((Binary64.rank?_ofInt _).symm.trans hr) hs hrs
    next x n =>
      obtain ⟨r, s, hr, hs, hrs⟩ := (Binary64.order?_eq_lt_iff _ _).mp hlt
      exact .rank hr ((Binary64.rank?_ofInt _).symm.trans hs) hrs
    next x y =>
      obtain ⟨r, s, hr, hs, hrs⟩ := (Binary64.order?_eq_lt_iff _ _).mp hlt
      exact .rank hr hs hrs
    next s t => exact .str (compareOfLessAndEq_eq_lt.mp (Option.some.inj hlt))
    next s t => exact .symbol (compareOfLessAndEq_eq_lt.mp (Option.some.inj hlt))
    next => cases hlt
  · intro hbefore
    cases hbefore with
    | int hlt => exact congrArg some (Int.compare_eq_lt.mpr hlt)
    | rank ha hb hlt => exact order?_of_rank_lt ha hb hlt
    | str hlt => exact congrArg some (compareOfLessAndEq_eq_lt.mpr hlt)
    | symbol hlt => exact congrArg some (compareOfLessAndEq_eq_lt.mpr hlt)

/-- What is before a value is before all that the value is before, of whatever kinds of numbers the three are. -/
theorem Before.trans {a b c : Value} (hab : Before a b) (hbc : Before b c) : Before a c := by
  cases hab with
  | int hlt =>
    cases hbc with
    | int hlt' => exact .int (Int.lt_trans hlt hlt')
    | rank hb hc hlt' =>
      cases hb
      exact .rank rfl hc (Int.lt_of_le_of_lt (Binary64.intRank_mono (Int.le_of_lt hlt)) hlt')
  | rank ha hb hlt =>
    cases hbc with
    | int hlt' =>
      cases hb
      exact .rank ha rfl (Int.lt_of_lt_of_le hlt (Binary64.intRank_mono (Int.le_of_lt hlt')))
    | rank hb' hc hlt' =>
      rw [hb] at hb'
      cases hb'
      exact .rank ha hc (Int.lt_trans hlt hlt')
    | str | symbol => cases hb
  | str hlt =>
    cases hbc with
    | rank hb => cases hb
    | str hlt' => exact .str (String.lt_trans hlt hlt')
  | symbol hlt =>
    cases hbc with
    | rank hb => cases hb
    | symbol hlt' => exact .symbol (String.lt_trans hlt hlt')

theorem orderKind?_of_rank {a : Value} {r : Int} (ha : a.rank? = some r) : a.orderKind? = some .number := by
  cases a with
  | int n => rfl
  | float x =>
    cases x with
    | nan => cases ha
    | signed negative m => rfl
  | _ => cases ha

/-- A value of the same kind that is no float is after the first or before the second of two values in order. A
float may tie with both. -/
theorem Before.before_or_before {a b c : Value} (hab : Before a b) (hkind : c.orderKind? = a.orderKind?)
    (hfloat : ∀ x, c ≠ .float x) : Before a c ∨ Before c b := by
  cases c with
  | float x => exact absurd rfl (hfloat x)
  | int p =>
    cases hab with
    | @int m n hlt =>
      by_cases hafter : m.toInt < p.toInt
      · exact .inl (.int hafter)
      · exact .inr (.int (by omega))
    | @rank _ _ r s ha hb hlt =>
      by_cases hafter : r < Binary64.intRank p.toInt
      · exact .inl (.rank ha rfl hafter)
      · exact .inr (.rank rfl hb (by omega))
    | str | symbol => cases hkind
  | str u =>
    cases hab with
    | @str s t hlt =>
      by_cases hafter : s < u
      · exact .inl (.str hafter)
      · exact .inr (.str (Std.lt_of_le_of_lt (String.not_lt.mp hafter) hlt))
    | rank ha => cases hkind.trans (orderKind?_of_rank ha)
    | int | symbol => cases hkind
  | symbol u =>
    cases hab with
    | @symbol s t hlt =>
      by_cases hafter : s < u
      · exact .inl (.symbol hafter)
      · exact .inr (.symbol (Std.lt_of_le_of_lt (String.not_lt.mp hafter) hlt))
    | rank ha => cases hkind.trans (orderKind?_of_rank ha)
    | int | str => cases hkind
  | _ =>
    cases hab with
    | rank ha => cases hkind.trans (orderKind?_of_rank ha)
    | _ => cases hkind

/-- A value is only before another of its own kind. -/
theorem Before.orderKind?_eq {a b : Value} (hbefore : Before a b) : a.orderKind? = b.orderKind? :=
  orderKind?_eq_of_order? ((order?_eq_lt_iff a b).mpr hbefore)

/-- Nothing is before itself, since every value has one place at most. -/
theorem Before.irrefl (a : Value) : ¬ Before a a := by
  intro hbefore
  cases hbefore with
  | int hlt => exact Int.lt_irrefl _ hlt
  | rank ha hb hlt =>
    obtain rfl := Option.some.inj (ha.symm.trans hb)
    exact Int.lt_irrefl _ hlt
  | str hlt => exact String.lt_irrefl _ hlt
  | symbol hlt => exact String.lt_irrefl _ hlt

/-- The comparison the other way round: greater is what the other value is before. -/
theorem order?_eq_gt_iff (a b : Value) : order? a b = some .gt ↔ Before b a := by
  rw [← order?_eq_lt_iff, order?_swap a b]
  rcases order? a b with _ | _ | _ | _ <;> simp

/-! ## What is better -/

/-- What is to be preferred: what comes before if the least is wanted, and what comes after if the greatest is. -/
inductive Better : Ordering → Value → Value → Prop where
  | least {a b : Value} (hbefore : Before a b) : Better .lt a b
  | greatest {a b : Value} (hbefore : Before b a) : Better .gt a b

/-- The comparison finds the ordering that is wanted exactly if the first value is better. -/
theorem order?_eq_some_iff {wanted : Ordering} (hwanted : wanted ≠ .eq) (a b : Value) :
    order? a b = some wanted ↔ Better wanted a b := by
  cases wanted with
  | lt =>
    rw [order?_eq_lt_iff]
    exact ⟨.least, fun | .least hbefore => hbefore⟩
  | eq => exact absurd rfl hwanted
  | gt =>
    rw [order?_eq_gt_iff]
    exact ⟨.greatest, fun | .greatest hbefore => hbefore⟩

variable {wanted : Ordering} {a b c : Value}

theorem Better.irrefl (a : Value) : ¬ Better wanted a a := by
  intro hbetter
  cases hbetter with
  | least hbefore => exact Before.irrefl a hbefore
  | greatest hbefore => exact Before.irrefl a hbefore

theorem Better.trans (hab : Better wanted a b) (hbc : Better wanted b c) : Better wanted a c := by
  cases hab with
  | least hbefore =>
    cases hbc with
    | least hbefore' => exact .least (hbefore.trans hbefore')
  | greatest hbefore =>
    cases hbc with
    | greatest hbefore' => exact .greatest (hbefore'.trans hbefore)

/-- A third value that is no float is outdone by the better of two or outdoes the other. -/
theorem Better.better_or_better (hab : Better wanted a b) (hkind : c.orderKind? = a.orderKind?)
    (hfloat : ∀ x, c ≠ .float x) : Better wanted a c ∨ Better wanted c b := by
  cases hab with
  | least hbefore => exact (hbefore.before_or_before hkind hfloat).imp .least .least
  | greatest hbefore =>
    have hother := hbefore.before_or_before (hkind.trans hbefore.orderKind?_eq.symm) hfloat
    exact hother.symm.imp .greatest .greatest

end Value

end DocPath
