import DocPath.Proofs.Value.Dispatch
import DocPath.Proofs.Value.Order

/-!
# The least and the greatest item

The extremes of an array are found in one scan, which compares each item with the best one before it. It goes
through exactly if there is nothing to compare, or all items are of one kind. Then no item is to be preferred to
the last of the best ones, since being before is transitive. Whether it is the first such item depends on more:
without floats it is, but a float that ties with integers on either side of the best one may come earlier.
-/

namespace DocPath.Value

/-- All items are of one kind, or there is nothing to compare. -/
def Orderable (items : List Value) : Prop :=
  items.length ≤ 1 ∨ ∃ kind, ∀ item ∈ items, item.orderKind? = some kind

/-- It does not depend on the order of the items whether they can be compared. -/
theorem Orderable.perm {items items' : List Value} (hperm : items.Perm items') (horderable : Orderable items) :
    Orderable items' := by
  rcases horderable with hlength | ⟨kind, hkind⟩
  · exact .inl (hperm.length_eq ▸ hlength)
  · exact .inr ⟨kind, fun item hitem => hkind item (hperm.mem_iff.mpr hitem)⟩

/-- One of the items, to which none is to be preferred. Where no item is a float, as among integers, strings or
symbols alone, it is the first of these, since it is to be preferred to all before it. -/
structure IsExtreme (wanted : Ordering) (items : List Value) (best : Value) : Prop where
  mem : best ∈ items
  sameKind : ∀ item ∈ items, item.orderKind? = best.orderKind?
  unbeaten : ∀ item ∈ items, ¬ Better wanted item best
  first : (∀ x, .float x ∉ items) →
    ∃ before after, items = before ++ best :: after ∧ ∀ item ∈ before, Better wanted best item

/-! ## One step of the scan -/

/-- One item: it cannot be compared with the best one so far, or it takes its place if it compares as wanted. -/
theorem extremeFrom_cons (wanted : Ordering) (best item : Value) (rest : List Value) :
    (order? item best = none ∧ ∃ e, extremeFrom wanted best (item :: rest) = .error e) ∨
    ∃ ordering, order? item best = some ordering ∧
      extremeFrom wanted best (item :: rest) =
        extremeFrom wanted (if ordering = wanted then item else best) rest := by
  rw [extremeFrom, compare]
  rcases order? item best with _ | ordering
  · exact .inl ⟨rfl, _, rfl⟩
  · exact .inr ⟨ordering, rfl, rfl⟩

section

variable {wanted : Ordering} {seen : List Value} {best item : Value}

theorem isExtreme_singleton (item : Value) : IsExtreme wanted [item] item where
  mem := List.mem_singleton_self item
  sameKind := by simp
  unbeaten := by simpa using Better.irrefl item
  first := fun _ => ⟨[], [], rfl, by simp⟩

/-- An item that is better than the best one so far takes its place: none outdoes it, and it outdoes all that are
no floats. -/
theorem IsExtreme.append_better (hbest : IsExtreme wanted seen best) (hbetter : Better wanted item best)
    (hkind : item.orderKind? = best.orderKind?) : IsExtreme wanted (seen ++ [item]) item where
  mem := by simp
  sameKind := by
    rw [List.forall_mem_append, List.forall_mem_singleton]
    refine ⟨fun other hseen => ?_, rfl⟩
    rw [hbest.sameKind other hseen, hkind]
  unbeaten := by
    rw [List.forall_mem_append, List.forall_mem_singleton]
    refine ⟨fun other hseen hbeats => ?_, Better.irrefl item⟩
    exact hbest.unbeaten other hseen (hbeats.trans hbetter)
  first := by
    intro hfloat
    refine ⟨seen, [], rfl, fun other hseen => ?_⟩
    -- The new item is better than an earlier one, or that one better than the old best, which it is not.
    have hsame : other.orderKind? = item.orderKind? := by
      rw [hbest.sameKind other hseen, hkind]
    have hother : ∀ x, other ≠ .float x := fun x heq => hfloat x (by simp [← heq, hseen])
    exact (hbetter.better_or_better hsame hother).resolve_right (hbest.unbeaten other hseen)

/-- An item of the same kind that is not better leaves the best one in its place. -/
theorem IsExtreme.append_other (hbest : IsExtreme wanted seen best) (hother : ¬ Better wanted item best)
    (hkind : item.orderKind? = best.orderKind?) : IsExtreme wanted (seen ++ [item]) best where
  mem := List.mem_append_left _ hbest.mem
  sameKind := by
    rw [List.forall_mem_append, List.forall_mem_singleton]
    exact ⟨hbest.sameKind, hkind⟩
  unbeaten := by
    rw [List.forall_mem_append, List.forall_mem_singleton]
    exact ⟨hbest.unbeaten, hother⟩
  first := by
    intro hfloat
    obtain ⟨before, after, hsplit, hbefore⟩ := hbest.first fun x hx => hfloat x (by simp [hx])
    exact ⟨before, after ++ [item], by simp [hsplit], hbefore⟩

/-! ## The whole scan -/

/-- The best item so far is an extreme of the items seen so far. -/
theorem isExtreme_of_extremeFrom (hwanted : wanted ≠ .eq) {items : List Value} {result : Value}
    (hbest : IsExtreme wanted seen best) (hresult : extremeFrom wanted best items = .ok result) :
    IsExtreme wanted (seen ++ items) result := by
  induction items generalizing seen best with
  | nil =>
    cases hresult
    rwa [List.append_nil]
  | cons item rest ih =>
    rcases extremeFrom_cons wanted best item rest with ⟨_, e, herror⟩ | ⟨ordering, horder, hstep⟩
    · cases herror.symm.trans hresult
    · have hkind := orderKind?_eq_of_order? horder
      have hbetter : Better wanted item best ↔ ordering = wanted := by
        rw [← order?_eq_some_iff hwanted, horder, Option.some.injEq]
      rw [hstep] at hresult
      rw [List.append_cons]
      split at hresult
      next heq => exact ih (hbest.append_better (hbetter.mpr heq) hkind) hresult
      next hother => exact ih (hbest.append_other (mt hbetter.mp hother) hkind) hresult

end

/-- From a best item of some kind on, the scan goes through if all later items are of this kind. -/
theorem extremeFrom_isOk_iff_of_kind {best : Value} {kind : OrderKind} (hbest : best.orderKind? = some kind)
    (wanted : Ordering) (items : List Value) :
    (∃ result, extremeFrom wanted best items = .ok result) ↔ ∀ item ∈ items, item.orderKind? = some kind := by
  induction items generalizing best with
  | nil => simp [extremeFrom]
  | cons item rest ih =>
    rcases extremeFrom_cons wanted best item rest with ⟨hnone, e, herror⟩ | ⟨ordering, horder, hstep⟩
    · have hkind : item.orderKind? ≠ some kind := by
        intro hkind
        have hsome := (order?_isSome_iff item best).mpr ⟨kind, hkind, hbest⟩
        simp [hnone] at hsome
      simp [herror, hkind]
    · have hkind : item.orderKind? = some kind := (orderKind?_eq_of_order? horder).trans hbest
      rw [hstep, ih (by split <;> assumption)]
      simp [hkind]

theorem extremeFrom_isOk_iff (wanted : Ordering) (best : Value) (items : List Value) :
    (∃ result, extremeFrom wanted best items = .ok result) ↔ Orderable (best :: items) := by
  cases items with
  | nil => simp [extremeFrom, Orderable]
  | cons item rest =>
    cases hbest : best.orderKind? with
    | none =>
      rcases extremeFrom_cons wanted best item rest with ⟨_, e, herror⟩ | ⟨ordering, horder, _⟩
      · simp [herror, Orderable, hbest]
      · obtain ⟨kind, _, hkind⟩ := (order?_isSome_iff item best).mp (by simp [horder])
        cases hbest.symm.trans hkind
    | some kind =>
      rw [extremeFrom_isOk_iff_of_kind hbest]
      simp [Orderable, hbest]

/-- There is an extreme exactly if the items can be compared with each other, whichever is wanted. -/
theorem extreme_isOk_iff (wanted : Ordering) (items : List Value) :
    (∃ best, extreme wanted items = .ok best) ↔ Orderable items := by
  cases items with
  | nil => simp [extreme, Orderable]
  | cons item rest => exact extremeFrom_isOk_iff wanted item rest

theorem extreme_isError_iff (wanted : Ordering) (items : List Value) :
    (∃ e, extreme wanted items = .error e) ↔ ¬ Orderable items := by
  rw [← extreme_isOk_iff wanted]
  cases extreme wanted items <;> simp

/-- What the scan finds is an extreme of the items, if there are any. -/
theorem isExtreme_of_extreme {wanted : Ordering} (hwanted : wanted ≠ .eq) {items : List Value} {best : Value}
    (hitems : items ≠ []) (hbest : extreme wanted items = .ok best) : IsExtreme wanted items best := by
  cases items with
  | nil => exact absurd rfl hitems
  | cons item rest => exact isExtreme_of_extremeFrom hwanted (isExtreme_singleton item) hbest

/-! ## The methods -/

variable (hosts : Hosts)

/-- Both methods fail on the same arrays, in whatever order the items stand. Where they do not, they yield nil if
there is no item, and otherwise one to which none is to be preferred. -/
theorem send_extreme (items : List Value) (earlier : List HostCall) :
    let answer (method : String) (items : List Value) := ((array items).send hosts method earlier).result
    ((∃ e, answer "min" items = .error e) ↔ ∃ e, answer "max" items = .error e) ∧
    ∀ method wanted, (method = "min" ∧ wanted = .lt) ∨ (method = "max" ∧ wanted = .gt) →
      ((∃ best, answer method items = .ok best) ↔ Orderable items) ∧
      (∀ items', items.Perm items' →
        ((∃ best, answer method items = .ok best) ↔ ∃ best, answer method items' = .ok best)) ∧
      ∀ best, answer method items = .ok best →
        (items = [] → best = .nil) ∧ (items ≠ [] → IsExtreme wanted items best) := by
  intro answer
  have hmin : ∀ items, answer "min" items = extreme .lt items :=
    fun items => send_array_of_map_some hosts rfl earlier
  have hmax : ∀ items, answer "max" items = extreme .gt items :=
    fun items => send_array_of_map_some hosts rfl earlier
  refine ⟨?_, fun method wanted hmethod => ?_⟩
  · rw [hmin, hmax, extreme_isError_iff, extreme_isError_iff]
  · have hwanted : wanted ≠ .eq := by
      rcases hmethod with ⟨-, rfl⟩ | ⟨-, rfl⟩
      · nofun
      · nofun
    have hanswer : ∀ items, answer method items = extreme wanted items := by
      rcases hmethod with ⟨rfl, rfl⟩ | ⟨rfl, rfl⟩
      · exact hmin
      · exact hmax
    simp only [hanswer, extreme_isOk_iff]
    refine ⟨trivial, fun items' hperm => ⟨.perm hperm, .perm hperm.symm⟩, fun best hbest => ⟨?_, ?_⟩⟩
    · rintro rfl
      cases hbest
      rfl
    · exact fun hitems => isExtreme_of_extreme hwanted hitems hbest

/-- Two integers beside a float that both tie with. The lesser one is found, although the float comes before it
and is not to be outdone either. -/
theorem send_extreme_of_tie :
    let hosts : Hosts := ⟨fun _ _ _ => .ok .nil, fun _ _ _ => .ok .nil, fun _ _ => false, fun _ _ _ => false⟩
    let least : Int64 := 9007199254740992
    let tied : Value := float (.ofInt least.toInt)
    let items : List Value := [int (least + 1), tied, int least]
    ((array items).send hosts "min" []).result = .ok (int least) ∧ IsExtreme .lt items (int least) ∧
      (∃ best, ((array [int least, tied, int (least + 1)]).send hosts "min" []).result = .ok best) ∧
      order? (int (least + 1)) tied = some .eq ∧ order? (int least) tied = some .eq := by
  intro hosts least tied items
  have hgreater : order? (int (least + 1)) tied = some .eq := by decide +kernel
  have hleast : order? (int least) tied = some .eq := by decide +kernel
  have htied : order? tied (int (least + 1)) = some .eq := by decide +kernel
  have hless : order? (int least) (int (least + 1)) = some .lt := by decide +kernel
  have hextreme : extreme .lt items = .ok (int least) := by
    simp [extreme, extremeFrom, compare, items, htied, hless]
  have hresult : ((array items).send hosts "min" []).result = .ok (int least) :=
    (send_array_of_map_some hosts rfl []).trans hextreme
  obtain ⟨-, hperm, hbest⟩ := (send_extreme hosts items []).2 "min" .lt (.inl ⟨rfl, rfl⟩)
  have hreverse : items.Perm [int least, tied, int (least + 1)] := (List.reverse_perm items).symm
  exact ⟨hresult, (hbest _ hresult).2 (by simp [items]), (hperm _ hreverse).mp ⟨_, hresult⟩, hgreater, hleast⟩

end DocPath.Value
