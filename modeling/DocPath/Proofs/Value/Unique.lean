import DocPath.Proofs.Occurrence
import DocPath.Proofs.Value.Dispatch
import DocPath.Proofs.Value.Equality

/-!
# Unique items

Each item is compared with those kept before it only. As equality is transitive, this is as good as comparing it
with all items before it, so what is kept is the first of all that are equal. An item that is not equal to itself,
having in it what is not a number, equals no other either and is always kept.
-/

namespace DocPath.Value

/-- Behind the items kept so far come the first ones that equal none of them. -/
theorem uniqueAfter_eq (kept items : List Value) :
    uniqueAfter kept items = kept.reverse ++ (firsts equal items).filter (isFresh equal kept) := by
  induction items generalizing kept with
  | nil => simp [uniqueAfter]
  | cons item rest ih =>
      have htrans : ∀ a b c, equal a b = true → equal b c = true → equal a c = true :=
        fun _ _ _ => equal_trans
      rw [uniqueAfter]
      split
      next hkept => rw [ih, filter_isFresh_firsts_cons_of_seen htrans (by simp [isFresh, hkept])]
      next hnew =>
        rw [ih, filter_isFresh_firsts_cons (by simp [isFresh, hnew]), List.reverse_cons, List.append_assoc,
          List.singleton_append]

/-- The items kept are the first ones of their kind. -/
theorem unique_eq_firsts (items : List Value) : unique items = firsts equal items := by
  rw [unique, uniqueAfter_eq, filter_isFresh_nil, List.reverse_nil, List.nil_append]

/-- To keep the first ones twice is to keep them once, since they are all different. -/
theorem unique_unique (items : List Value) : unique (unique items) = unique items := by
  rw [unique_eq_firsts, unique_eq_firsts, firsts_eq_self (pairwise_firsts items)]

/-- Only a value that equals itself is equal to any other. -/
theorem not_occursIn_nan_of_equal {a b : Value} (ha : a.Everywhere DistinctKeys) (hb : b.Everywhere DistinctKeys)
    (hequal : equal a b = true) : ¬ (float .nan).OccursIn b := by
  rw [not_occursIn_iff, ← equal_self_iff hb]
  exact equal_trans (equal_symm ha hequal) hequal

/-- Hashes in another order are equal, unless something in them is no number. -/
theorem equal_of_reordered {a b : Value} (ha : a.Everywhere DistinctKeys) (hreordered : Reordered a b)
    (hnumbers : ¬ (float .nan).OccursIn a) : equal a b = true := by
  rw [not_occursIn_iff, ← equal_self_iff ha] at hnumbers
  apply equal_symm (hreordered.everywhere Reordered.distinctKeys ha)
  rw [hreordered.equal_left, hnumbers]

/-- The items at certain places are kept, in their order: those that equal no item before them, kept or not. One
that is left out equals one that is kept and stands before it, and this is so for any other order of the entries
of hashes; one with what is not a number in it is never left out. No two of those kept are equal, and all of them
are kept again. -/
theorem send_uniq (hosts : Hosts) {items : List Value} (hitems : ∀ item ∈ items, item.Everywhere DistinctKeys)
    (earlierCalls : List HostCall) :
    ∃ places : List (Fin items.length), places.Pairwise (· < ·) ∧
      (∀ place, place ∈ places ↔ ∀ earlier < place, equal items[earlier] items[place] = false) ∧
      (∀ place ∉ places, ∃ first ∈ places, first < place ∧ equal items[first] items[place] = true) ∧
      (∀ earlier place, earlier < place → Reordered items[earlier] items[place] →
        ¬ (float .nan).OccursIn items[earlier] → place ∉ places) ∧
      (∀ place, (float .nan).OccursIn items[place] → place ∈ places) ∧
      let kept := places.map fun place => items[place]
      (array items).send hosts "uniq" earlierCalls = ⟨[], .ok (array kept)⟩ ∧
      kept.Pairwise (fun a b => equal a b = false ∧ equal b a = false) ∧
      (array kept).send hosts "uniq" earlierCalls = ⟨[], .ok (array kept)⟩ := by
  have hsend : ∀ items : List Value,
      (array items).send hosts "uniq" earlierCalls = ⟨[], .ok (array (unique items))⟩ := by
    intro items
    have hmethod : ownMethod (array items) "uniq" = (Except.ok (array (unique items))).map some := rfl
    exact send_of_ownMethod hosts (by simp) hmethod earlierCalls
  have htrans : ∀ a b c, equal a b = true → equal b c = true → equal a c = true := fun _ _ _ => equal_trans
  have hplace : ∀ place : Fin items.length, items[place].Everywhere DistinctKeys := fun place =>
    hitems _ (List.getElem_mem place.isLt)
  refine ⟨firstPlaces equal items, (List.pairwise_lt_finRange _).filter _, fun place => mem_firstPlaces,
    fun place => exists_firstPlace htrans, ?_, ?_, ?_, ?_, ?_⟩
  · intro earlier place hlt hreordered hnumbers hfirst
    have hequal := equal_of_reordered (hplace earlier) hreordered hnumbers
    exact Bool.false_ne_true ((mem_firstPlaces.mp hfirst earlier hlt).symm.trans hequal)
  · intro place hnan
    refine mem_firstPlaces.mpr fun earlier _ => Bool.eq_false_iff.mpr fun hequal => ?_
    exact not_occursIn_nan_of_equal (hplace earlier) (hplace place) hequal hnan
  · rw [hsend, unique_eq_firsts]
    rfl
  · apply (pairwise_firsts items).imp_of_mem
    intro a b ha hb hdiffer
    have hmem : firsts equal items ⊆ items := (firsts_sublist items).subset
    exact ⟨hdiffer, (equal_comm (hitems b (hmem hb)) (hitems a (hmem ha))).trans hdiffer⟩
  · change (array (firsts equal items)).send hosts "uniq" earlierCalls = _
    rw [hsend, ← unique_eq_firsts, unique_unique, unique_eq_firsts]
    rfl

/-- Two orders of one hash, of which the second is left out, and what is not a number twice. -/
theorem send_uniq_of_two_orders :
    let hosts : Hosts := ⟨fun _ _ _ => .ok .nil, fun _ _ _ => .ok .nil, fun _ _ => false, fun _ _ _ => false⟩
    let items := [hash [(.symbol "p", .nil), (.int 1, .bool true)], array [float .nan],
      hash [(.int 1, .bool true), (.symbol "p", .nil)], array [float .nan]]
    (∀ item ∈ items, item.Everywhere DistinctKeys) ∧
      ∃ places : List (Fin items.length), (0 : Fin 4) ∈ places ∧ (2 : Fin 4) ∉ places ∧ (3 : Fin 4) ∈ places ∧
        (array items).send hosts "uniq" [] = ⟨[], .ok (array (places.map fun place => items[place]))⟩ := by
  intro hosts items
  have hitems : ∀ item ∈ items, item.Everywhere DistinctKeys := by simp [items, DistinctKeys]
  obtain ⟨places, -, hmem, -, horder, hnan, hsend, -⟩ := send_uniq hosts hitems []
  refine ⟨hitems, places, (hmem 0).mpr (by simp), horder 0 2 (by decide) ?_ ?_, hnan 3 ?_, hsend⟩
  · exact .entries (.swap _ _ _)
  · rw [not_occursIn_iff]
    simp [items]
  · exact .inside (List.mem_singleton_self _) .here

end DocPath.Value
