import DocPath.Word

/-!
# Which integers are words

An integer is one of 64 bits with a sign exactly if it is in their range, and it is only one of them.
-/

namespace DocPath

/-- An integer in the range of 64 bits with a sign, from `-2 ^ 63` on and below `2 ^ 63`. -/
def FitsWord (n : Int) : Prop := -signedBound ≤ n ∧ n < signedBound

instance (n : Int) : Decidable (FitsWord n) := inferInstanceAs (Decidable (_ ∧ _))

theorem int64?_eq_ite (n : Int) : int64? n = if FitsWord n then some (Int64.ofInt n) else none := rfl

/-- Every word is in the range of words. -/
theorem fitsWord_toInt (n : Int64) : FitsWord n.toInt := ⟨n.le_toInt, n.toInt_lt⟩

/-- A word is found again from the integer that it stands for. -/
theorem int64?_toInt (n : Int64) : int64? n.toInt = some n := by
  rw [int64?_eq_ite, if_pos (fitsWord_toInt n), Int64.ofInt_toInt]

/-- Every integer in the range is that of some word. -/
theorem exists_toInt_eq {n : Int} (hn : FitsWord n) : ∃ word : Int64, word.toInt = n :=
  ⟨Int64.ofInt n, Int64.toInt_ofInt_of_le hn.1 hn.2⟩

theorem int64?_eq_none {n : Int} (hn : ¬ FitsWord n) : int64? n = none := by
  rw [int64?_eq_ite, if_neg hn]

end DocPath
