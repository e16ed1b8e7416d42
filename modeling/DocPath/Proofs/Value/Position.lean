import DocPath.Proofs.Value.Dispatch
import DocPath.Proofs.Word
import DocPath.Value.Lookup

/-!
# Positions in sequences

Arrays and texts are looked up by position in the same way: an index from zero on counts from the front, one below
zero from the end. So an index of a text finds what it finds in the array of its characters, and an index finds in
a reversed sequence what its complement, `-1 - index`, finds in the sequence itself. In a sequence whose length is
one of 64 bits with a sign, the place of an index is found without leaving these bits.
-/

namespace DocPath

/-! ## Places -/

/-- Every index has a complement, which counts from the other end. -/
theorem toInt_neg_one_sub (index : Int64) : (-1 - index).toInt = -1 - index.toInt := by
  obtain ⟨hlower, hupper⟩ := fitsWord_toInt index
  simp only [signedBound] at hlower hupper
  have hminus : (-1 : Int64).toInt = -1 := rfl
  rw [Int64.toInt_sub, hminus]
  exact Int.bmod_eq_of_le (by omega) (by omega)

section

variable {α β : Type}

/-- From zero on an index counts from the front. -/
theorem itemAt?_of_nonneg {index : Int64} (hindex : 0 ≤ index.toInt) (items : List α) :
    itemAt? items index = items[index.toInt.toNat]? := by
  have hnonneg : ¬ index.toInt < 0 := by omega
  simp only [itemAt?, if_neg hnonneg]

/-- Below zero it counts from the end, and there may be less than that. -/
theorem itemAt?_of_neg {index : Int64} (hindex : index.toInt < 0) (items : List α) :
    itemAt? items index =
      if items.length + index.toInt < 0 then none else items[(items.length + index.toInt).toNat]? := by
  simp only [itemAt?, if_pos hindex]

theorem itemAt?_map (f : α → β) (items : List α) (index : Int64) :
    itemAt? (items.map f) index = (itemAt? items index).map f := by
  simp only [itemAt?, List.length_map, List.getElem?_map]
  generalize (if index.toInt < 0 then _ else _ : Int) = place
  split <;> rfl

theorem itemAt?_reverse_of_nonneg {index : Int64} (hindex : 0 ≤ index.toInt) (items : List α) :
    itemAt? items.reverse index = itemAt? items (-1 - index) := by
  have hcomplement := toInt_neg_one_sub index
  rw [itemAt?_of_nonneg hindex, itemAt?_of_neg (by omega)]
  split
  next hout => exact List.getElem?_eq_none (by rw [List.length_reverse]; omega)
  next hin => exact List.getElem?_reverse' (by omega)

/-- An index finds in a reversed list what its complement finds in the list. -/
theorem itemAt?_reverse (items : List α) (index : Int64) :
    itemAt? items.reverse index = itemAt? items (-1 - index) := by
  by_cases hindex : 0 ≤ index.toInt
  · exact itemAt?_reverse_of_nonneg hindex items
  · -- The complement is not below zero, and the list is the reverse of its reverse.
    have hcomplement := toInt_neg_one_sub index
    have hnonneg : 0 ≤ (-1 - index).toInt := by omega
    have hreverse := itemAt?_reverse_of_nonneg hnonneg items.reverse
    have hback : -1 - (-1 - index) = index := by
      rw [← Int64.toInt_inj, toInt_neg_one_sub, toInt_neg_one_sub]
      omega
    rw [List.reverse_reverse, hback] at hreverse
    exact hreverse.symm

/-- There is an item at as many indices below zero as from zero on. -/
theorem isSome_itemAt?_iff (items : List α) (index : Int64) :
    (itemAt? items index).isSome = true ↔ -(items.length : Int) ≤ index.toInt ∧ index.toInt < items.length := by
  by_cases hindex : 0 ≤ index.toInt
  · rw [itemAt?_of_nonneg hindex, isSome_getElem?]
    omega
  · rw [itemAt?_of_neg (by omega)]
    split
    next hout => simp only [Option.isSome_none, Bool.false_eq_true, false_iff]; omega
    next hin => rw [isSome_getElem?]; omega

end

/-! ## Places in words -/

/-- The place that an index stands for in a sequence, in integers of 64 bits with a sign; `none` if some integer on
the way is out of their range. -/
def wordPlace? (length : Nat) (index : Int64) : Option Int64 :=
  (int64? length).bind fun length =>
    if index.toInt < 0 then int64? (length.toInt + index.toInt) else some index

section

variable {α : Type}

/-- Takes the item at an index, in words, after a test of its place against both ends. Both an integer out of range
and an access beyond the end are `none`; if there is just no item, it is `some none`. -/
def guardedItem? (items : List α) (index : Int64) : Option (Option α) :=
  (wordPlace? items.length index).bind fun place =>
    if 0 ≤ place.toInt ∧ place.toInt < items.length then items[place.toInt.toNat]?.map some else some none

/-- Takes the item at an index, in words, by passing over those before its place, of which there may be too few. An
integer out of range is `none`; if there is just no item, it is `some none`. -/
def scannedItem? (items : List α) (index : Int64) : Option (Option α) :=
  (wordPlace? items.length index).bind fun place =>
    if place.toInt < 0 then some none else some (items.drop place.toInt.toNat).head?

variable {items : List α} (hlength : items.length < signedBound) (index : Int64)

include hlength

/-- The place is computed without overflow, because a list is shorter than words reach. -/
theorem exists_wordPlace? : ∃ place : Int64, wordPlace? items.length index = some place ∧
    itemAt? items index = if place.toInt < 0 then none else items[place.toInt.toNat]? := by
  obtain ⟨length, hcount⟩ : ∃ length : Int64, length.toInt = items.length := exists_toInt_eq ⟨by omega, by omega⟩
  rw [wordPlace?, ← hcount, int64?_toInt, Option.bind_some]
  split
  next hneg =>
    obtain ⟨hlower, -⟩ := fitsWord_toInt index
    obtain ⟨place, hplace⟩ : ∃ place : Int64, place.toInt = length.toInt + index.toInt :=
      exists_toInt_eq ⟨by omega, by omega⟩
    refine ⟨place, by rw [← hplace, int64?_toInt], ?_⟩
    rw [itemAt?_of_neg hneg, hplace, hcount]
  next hnonneg =>
    refine ⟨index, rfl, ?_⟩
    rw [itemAt?_of_nonneg (by omega), if_neg hnonneg]

/-- An access behind a test of both bounds finds what is there. -/
theorem guardedItem?_eq : guardedItem? items index = some (itemAt? items index) := by
  obtain ⟨place, hplace, hitem⟩ := exists_wordPlace? hlength index
  rw [guardedItem?, hplace, Option.bind_some, hitem]
  split
  next hin =>
    have hplace : place.toInt.toNat < items.length := by omega
    rw [if_neg (by omega), List.getElem?_eq_getElem hplace, Option.map_some]
  next hout =>
    split
    next => rfl
    next hnonneg => rw [List.getElem?_eq_none (by omega)]

theorem scannedItem?_eq : scannedItem? items index = some (itemAt? items index) := by
  obtain ⟨place, hplace, hitem⟩ := exists_wordPlace? hlength index
  rw [scannedItem?, hplace, Option.bind_some, hitem, List.head?_drop]
  split <;> rfl

end

/-! ## Looking positions up -/

namespace Value

/-- Values that are sequences to be reversed. -/
def IsReversible : Value → Prop
  | .array _ | .str _ => True
  | _ => False

/-- A character that was found, as a text of its own. -/
def ofChar (c : Char) : Value := .str (String.singleton c)

section

variable (hosts : Hosts) (index : Int64)

theorem index_array_int (items : List Value) :
    (array items).index hosts (.int index) = pure (ofOption (itemAt? items index)) := rfl

theorem index_str_int (text : String) :
    (str text).index hosts (.int index) = pure (ofOption ((itemAt? text.toList index).map ofChar)) := rfl

theorem index_symbol_int (text : String) :
    (symbol text).index hosts (.int index) = (str text).index hosts (.int index) := rfl

/-- A text is indexed like the array of its characters. -/
theorem index_characters_int (text : String) :
    (array (characters text.toList)).index hosts (.int index) = (str text).index hosts (.int index) := by
  rw [index_array_int, index_str_int, characters, itemAt?_map]
  rfl

/-- In what is reversed an index finds what its complement finds in the original. -/
theorem index_reverse_int {value : Value} (hvalue : value.IsReversible) (earlier : List HostCall) :
    ∃ reversed, value.send hosts "reverse" earlier = ⟨[], .ok reversed⟩ ∧
      reversed.index hosts (.int index) = value.index hosts (.int (-1 - index)) := by
  cases value with
  | array items =>
      have hmethod : ownMethod (array items) "reverse" = (Except.ok (array items.reverse)).map some := rfl
      refine ⟨_, send_of_ownMethod hosts (by simp) hmethod earlier, ?_⟩
      rw [index_array_int, index_array_int, itemAt?_reverse]
  | str text =>
      have hmethod : ownMethod (str text) "reverse" = (Except.ok (ofChars text.toList.reverse)).map some := rfl
      refine ⟨_, send_of_ownMethod hosts (by simp) hmethod earlier, ?_⟩
      rw [ofChars, index_str_int, index_str_int, String.toList_ofList, itemAt?_reverse]
  | _ => cases hvalue

theorem ofOption_map_ofChar_ne_nil_iff (outcome : Option Char) :
    ofOption (outcome.map ofChar) ≠ .nil ↔ outcome.isSome = true := by
  cases outcome <;> simp [ofOption, ofChar]

end

/-- An index of 64 bits finds a place in arrays and texts of 64-bit lengths without an overflow and without an access
beyond the end, although arrays test both ends and texts are passed over from the front. In every text it finds what
it finds in the array of the characters, and in a reversed sequence what its complement finds in the sequence. In a
text it finds something exactly if it lies within the number of characters, from either end. -/
theorem index_by_position (hosts : Hosts) (index : Int64) (earlier : List HostCall) :
    (∀ items : List Value, items.length < signedBound → ∃ item, guardedItem? items index = some item ∧
      (array items).index hosts (.int index) earlier = ⟨[], .ok (ofOption item)⟩) ∧
    (∀ text : String, text.toList.length < signedBound → ∃ c, scannedItem? text.toList index = some c ∧
      (str text).index hosts (.int index) earlier = ⟨[], .ok (ofOption (c.map ofChar))⟩ ∧
      (symbol text).index hosts (.int index) earlier = ⟨[], .ok (ofOption (c.map ofChar))⟩) ∧
    (∀ text : String, ∃ letters, (str text).send hosts "chars" earlier = ⟨[], .ok letters⟩ ∧
      (str text).index hosts (.int index) = letters.index hosts (.int index) ∧
      (symbol text).index hosts (.int index) = letters.index hosts (.int index)) ∧
    ((-1 - index).toInt = -1 - index.toInt ∧ ∀ value : Value, value.IsReversible →
      ∃ reversed, value.send hosts "reverse" earlier = ⟨[], .ok reversed⟩ ∧
        reversed.index hosts (.int index) = value.index hosts (.int (-1 - index))) ∧
    ∀ text : String, text.toList.length < signedBound → ∃ (length : Int64) (found : Value),
      (str text).send hosts "length" earlier = ⟨[], .ok (.int length)⟩ ∧ length.toInt = text.toList.length ∧
      (str text).index hosts (.int index) earlier = ⟨[], .ok found⟩ ∧
      (found ≠ .nil ↔ -length.toInt ≤ index.toInt ∧ index.toInt < length.toInt) := by
  refine ⟨?_, ?_, ?_, ⟨toInt_neg_one_sub index, ?_⟩, ?_⟩
  · exact fun items hlength => ⟨_, guardedItem?_eq hlength index, rfl⟩
  · exact fun text hlength => ⟨_, scannedItem?_eq hlength index, rfl, rfl⟩
  · intro text
    have hmethod : ownMethod (str text) "chars" = (Except.ok (array (characters text.toList))).map some := rfl
    refine ⟨_, send_of_ownMethod hosts (by simp) hmethod earlier, ?_, ?_⟩
    · exact (index_characters_int hosts index text).symm
    · rw [index_symbol_int, index_characters_int]
  · exact fun value hvalue => index_reverse_int hosts index hvalue earlier
  · intro text hlength
    have hmethod : ownMethod (str text) "length" = (Except.ok (ofCount text.toList.length)).map some := rfl
    have hcount : (Int64.ofNat text.toList.length).toInt = text.toList.length := Int64.toInt_ofNat_of_lt hlength
    refine ⟨_, _, send_of_ownMethod hosts (by simp) hmethod earlier, hcount, rfl, ?_⟩
    rw [hcount, ← isSome_itemAt?_iff]
    exact ofOption_map_ofChar_ne_nil_iff _

/-- The least index of all, and one from the end of a text of three characters and four bytes. -/
theorem index_by_position_of_accent :
    let hosts : Hosts := ⟨fun _ _ _ => .ok .nil, fun _ _ _ => .ok .nil, fun _ _ => false, fun _ _ _ => false⟩
    "añb".toList.length < signedBound ∧ (str "añb").IsReversible ∧
      (∃ c, scannedItem? "añb".toList Int64.minValue = some c) ∧
      (∃ reversed, (str "añb").send hosts "reverse" [] = ⟨[], .ok reversed⟩ ∧
        reversed.index hosts (.int (-2)) = (str "añb").index hosts (.int 1)) ∧
      ∃ found, (str "añb").index hosts (.int (-3)) [] = ⟨[], .ok found⟩ ∧ found ≠ .nil := by
  intro hosts
  have hlength : "añb".toList.length < signedBound := by decide
  obtain ⟨-, hscan, -, -, -⟩ := index_by_position hosts Int64.minValue []
  obtain ⟨-, -, -, ⟨-, hreverse⟩, -⟩ := index_by_position hosts (-2) []
  obtain ⟨-, -, -, -, hfound⟩ := index_by_position hosts (-3) []
  obtain ⟨c, hc, -⟩ := hscan "añb" hlength
  obtain ⟨length, found, -, hcount, hindex, hnil⟩ := hfound "añb" hlength
  have hthree : length.toInt = 3 := hcount
  refine ⟨hlength, trivial, ⟨c, hc⟩, hreverse _ trivial, found, hindex, hnil.mpr ?_⟩
  rw [hthree]
  decide

end Value

end DocPath
