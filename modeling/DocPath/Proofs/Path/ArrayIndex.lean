import DocPath.Proofs.Path.Composition

/-!
# Indices of every magnitude

What stands at an index of data can be said without a bound on the index: an element, a character, the value of
an integer key, a bit of a number without end. A step that takes an index comes to that for each index of the
signed range. Beyond it the step comes to absence on every value, and no value is asked. For values that have
elements this makes no difference, since none of them has such an index. But a negative number has a bit there,
and a value in which nothing can be looked up does not say so.
-/

namespace DocPath

/-- What stands at an index of data. -/
def Value.atIndex (index : Nat) : Value → Except ReceiverError (Option Value)
  | .int n => .ok (some (.int (Int64.ofInt (n.toInt / Nat.pow 2 index % 2))))
  | .array items => .ok (items[index]?.bind toOption)
  | .str text | .symbol text => .ok (text.toList[index]?.map fun c => .str (String.singleton c))
  | .hash entries => .ok (((int64? index).bind fun i => Entries.get? (.int i) entries).bind toOption)
  | value => .error (.noIndex value.className)

/-- Values that have elements. Those of a sequence have indices of the signed range. -/
def Value.HasElements : Value → Prop
  | .array items => items.length ≤ signedBound
  | .str text | .symbol text => text.toList.length ≤ signedBound
  | .hash _ => True
  | _ => False

theorem Value.toOption_ofOption_eq_bind (outcome : Option Value) :
    (Value.ofOption outcome).toOption = outcome.bind Value.toOption := by
  cases outcome <;> rfl

theorem Value.indexText_int (text : String) (i : Int64) :
    (indexText text (.int i)).map toOption =
      .ok ((itemAt? text.toList i).map fun c => .str (String.singleton c)) := by
  rw [indexText, Except.map, Value.toOption_ofOption_eq_bind]
  cases itemAt? text.toList i <;> rfl

/-- Above its width a number repeats its sign. -/
theorem toInt_ediv_pow_emod_two (n : Int64) {index : Nat} (hwide : 64 ≤ index) :
    n.toInt / Nat.pow 2 index % 2 = if n.toInt < 0 then 1 else 0 := by
  have hlower : -(Nat.pow 2 63 : Int) ≤ n.toInt := n.le_toInt
  have hupper : n.toInt < Nat.pow 2 63 := n.toInt_lt
  have hpow : Nat.pow 2 63 ≤ Nat.pow 2 index := Nat.pow_le_pow_right (by decide) (by omega)
  split
  next hneg => rw [Int.ediv_eq_neg_one_of_neg_of_le hneg (by omega)]; rfl
  next hneg => rw [Int.ediv_eq_zero_of_lt (by omega) (by omega)]; rfl

/-! ## Indices of the signed range -/

section

variable {index : Nat} (hindex : index < signedBound)

include hindex

theorem toInt_ofNat_of_lt_signedBound : (Int64.ofNat index).toInt = index :=
  Int64.toInt_ofNat_of_lt hindex

theorem int64?_natCast : int64? index = some (Int64.ofNat index) := by
  rw [int64?, if_pos (by omega), Int64.ofInt_eq_ofNat]

theorem itemAt?_ofNat {α : Type} (items : List α) :
    itemAt? items (Int64.ofNat index) = items[index]? := by
  have hnonneg : ¬ (index : Int) < 0 := by omega
  simp only [itemAt?, toInt_ofNat_of_lt_signedBound hindex, if_neg hnonneg, Int.toNat_natCast]

/-- The bit of a place in the number itself, not in a word of some width. -/
theorem bitAt_ofNat (n : Int64) :
    bitAt n (Int64.ofNat index) = Int64.ofInt (n.toInt / Nat.pow 2 index % 2) := by
  have hnonneg : ¬ (index : Int) < 0 := by omega
  simp only [bitAt, toInt_ofNat_of_lt_signedBound hindex, if_neg hnonneg, Int.toNat_natCast]
  split
  next hwide =>
    rw [toInt_ediv_pow_emod_two n (by omega)]
    split <;> rfl
  next => rfl

end

/-! ## Indices beyond -/

/-- Whatever has elements has none beyond the bound, which is more than there can be. -/
theorem Value.atIndex_of_hasElements {index : Nat} (hindex : signedBound ≤ index) {value : Value}
    (helements : value.HasElements) : value.atIndex index = .ok none := by
  cases value with
  | array items => rw [atIndex, List.getElem?_eq_none (Nat.le_trans helements hindex)]; rfl
  | str text => rw [atIndex, List.getElem?_eq_none (Nat.le_trans helements hindex)]; rfl
  | symbol text => rw [atIndex, List.getElem?_eq_none (Nat.le_trans helements hindex)]; rfl
  | hash entries => rw [atIndex, int64?, if_neg (by omega)]; rfl
  | _ => cases helements

namespace Path

variable (hosts : Hosts)

/-- Below the bound the receiver is asked. -/
theorem arrayIndex_apply_of_lt {index : UInt64} (hindex : index.toNat < signedBound) {value : Value}
    (hdata : ∀ object, value ≠ .host object) (earlier : List HostCall) :
    (Step.arrayIndex index).apply hosts value earlier = ⟨[], value.atIndex index.toNat⟩ := by
  rw [Step.apply_eq, Step.lookup, if_pos hindex]
  cases value with
  | host object => exact absurd rfl (hdata object)
  | int n => rw [Value.index, Value.atIndex, bitAt_ofNat hindex]; rfl
  | array items =>
      rw [Value.index, Value.atIndex, itemAt?_ofNat hindex, ← Value.toOption_ofOption_eq_bind]
      rfl
  | str text =>
      rw [Value.index, Value.atIndex, ← itemAt?_ofNat hindex, ← Value.indexText_int]
      rfl
  | symbol text =>
      rw [Value.index, Value.atIndex, ← itemAt?_ofNat hindex, ← Value.indexText_int]
      rfl
  | hash entries =>
      rw [Value.index, Value.atIndex, int64?_natCast hindex, Option.bind_some,
        ← Value.toOption_ofOption_eq_bind]
      rfl
  | _ => rfl

/-- From the bound on it is not asked, and there is nothing. -/
theorem arrayIndex_apply_of_le {index : UInt64} (hindex : signedBound ≤ index.toNat) (value : Value)
    (earlier : List HostCall) :
    (Step.arrayIndex index).apply hosts value earlier = ⟨[], .ok none⟩ := by
  rw [Step.apply_eq, Step.lookup, if_neg (by omega)]
  rfl

/-- A step that takes an index of the signed range comes to what stands there, on every value but a host
object. Beyond that range it comes to absence, which is what stands there for values that have elements. So a
mandatory index on an absent value fails exactly in the signed range. -/
theorem arrayIndex_apply (index : UInt64) (earlier : List HostCall) :
    (index.toNat < signedBound → ∀ value : Value, (∀ object, value ≠ .host object) →
      (Step.arrayIndex index).apply hosts value earlier = ⟨[], value.atIndex index.toNat⟩) ∧
    (signedBound ≤ index.toNat → ∀ value : Value,
      (Step.arrayIndex index).apply hosts value earlier = ⟨[], .ok none⟩ ∧
      (value.HasElements → value.atIndex index.toNat = .ok none)) ∧
    ∀ position, (⟨.arrayIndex index, true⟩ : Segment).advance hosts position none earlier =
      if index.toNat < signedBound then
        ⟨[], .error ⟨⟨.arrayIndex index, true⟩, position, .noIndex "NilClass"⟩⟩
      else ⟨[], .ok none⟩ := by
  refine ⟨fun hindex value hdata => arrayIndex_apply_of_lt hosts hindex hdata earlier,
    fun hindex value => ⟨arrayIndex_apply_of_le hosts hindex value earlier,
      Value.atIndex_of_hasElements hindex⟩, ?_⟩
  intro position
  have hnil : ∀ object, Value.nil ≠ .host object := nofun
  rw [Segment.advance, if_pos rfl, Segment.applyAt, Consult.mapError]
  split
  next hindex => rw [arrayIndex_apply_of_lt hosts hindex hnil]; rfl
  next hindex => rw [arrayIndex_apply_of_le hosts (Nat.le_of_not_lt hindex)]; rfl

/-- The sign of a number at an index above its width, and an array that ends before an index beyond. -/
theorem arrayIndex_apply_of_sign :
    let hosts : Hosts :=
      ⟨fun _ _ _ => .ok .nil, fun _ _ _ => .ok .nil, fun _ _ => false, fun _ _ _ => false⟩
    (64 : UInt64).toNat < signedBound ∧ (∀ object, Value.int (-5) ≠ .host object) ∧
      signedBound ≤ (0x8000000000000000 : UInt64).toNat ∧ (Value.array [.nil]).HasElements ∧
      (Step.arrayIndex 64).apply hosts (.int (-5)) [] = ⟨[], .ok (some (.int 1))⟩ ∧
      (Step.arrayIndex 0x8000000000000000).apply hosts (.array [.nil]) [] =
        ⟨[], (Value.array [.nil]).atIndex 0x8000000000000000⟩ := by
  intro hosts
  have hwide : (64 : UInt64).toNat < signedBound := by decide
  have hdata : ∀ object, Value.int (-5) ≠ .host object := by simp
  have hbeyond : signedBound ≤ (0x8000000000000000 : UInt64).toNat := by decide
  have helements : (Value.array [.nil]).HasElements := by simp [Value.HasElements, signedBound]
  obtain ⟨hsign, -, -⟩ := arrayIndex_apply hosts 64 []
  obtain ⟨-, hend, -⟩ := arrayIndex_apply hosts 0x8000000000000000 []
  obtain ⟨happly, hnone⟩ := hend hbeyond (.array [.nil])
  refine ⟨hwide, hdata, hbeyond, helements, hsign hwide (.int (-5)) hdata, ?_⟩
  rw [happly]
  exact congrArg _ (hnone helements).symm

/-- At the first index beyond the signed range, nil does not fail and a negative number has no bit. -/
theorem arrayIndex_apply_ne_atIndex :
    let hosts : Hosts :=
      ⟨fun _ _ _ => .ok .nil, fun _ _ _ => .ok .nil, fun _ _ => false, fun _ _ _ => false⟩
    let index : UInt64 := 0x8000000000000000
    (Step.arrayIndex index).apply hosts .nil [] = ⟨[], .ok none⟩ ∧
      Value.nil.atIndex index.toNat = .error (.noIndex "NilClass") ∧
      (Step.arrayIndex index).apply hosts (.int (-1)) [] = ⟨[], .ok none⟩ ∧
      (Value.int (-1)).atIndex index.toNat = .ok (some (.int 1)) := by
  intro hosts index
  have hbeyond : signedBound ≤ index.toNat := by decide
  refine ⟨arrayIndex_apply_of_le hosts hbeyond .nil [], rfl,
    arrayIndex_apply_of_le hosts hbeyond (.int (-1)) [], ?_⟩
  rw [Value.atIndex, toInt_ediv_pow_emod_two (-1) (by decide)]
  rfl

end Path

end DocPath
