import Mathlib.Algebra.BigOperators.Group.List.Basic
import Mathlib.Algebra.Ring.Int.Defs
import DocPath.Proofs.Occurrence
import DocPath.Proofs.Value.Dispatch
import DocPath.Proofs.Word

/-!
# Sums

A sum is added up from the left. As long as there are integers only, the total is exact and every total on the
way has to be a word, even if the items to come would bring it back into range. From the first float on the total
is a float, which takes all numbers. What is no number stops the sum wherever it stands, so of two faults the
leftmost is the one that shows.
-/

namespace DocPath.Value

/-- Integers and floats. -/
def IsNumber : Value → Prop
  | .int _ | .float _ => True
  | _ => False

/-- The exact total of some integers. -/
def exactSum (ns : List Int64) : Int := (ns.map Int64.toInt).sum

theorem exactSum_append_singleton (ns : List Int64) (n : Int64) :
    exactSum (ns ++ [n]) = exactSum ns + n.toInt := by
  simp [exactSum]

/-- The items before an item, the item, and why a sum cannot go past it: with only integers before it, it is one
that takes the exact total out of range, or it is no number. -/
inductive StopsSum : List Value → Value → ReceiverError → Prop where
  | overflow (ns : List Int64) (n : Int64) (hrange : ¬ FitsWord (exactSum (ns ++ [n]))) :
    StopsSum (ns.map .int) (.int n) (.type "integer overflow")
  | coercion (before : List Value) {item : Value} (hitem : ¬ item.IsNumber) :
    StopsSum before item (.type (item.className ++ " can't be coerced into Integer"))

/-- None of the items stops a sum. -/
def AddsUp (items : List Value) : Prop :=
  ∀ before item after e, items = before ++ item :: after → ¬ StopsSum before item e

/-- The leftmost item that stops the sum, and why. -/
def FirstStop (items : List Value) (e : ReceiverError) : Prop :=
  ∃ before item after, items = before ++ item :: after ∧ AddsUp before ∧ StopsSum before item e

theorem addsUp_nil : AddsUp [] := by
  intro before item after e hsplit
  simp at hsplit

/-- One more item adds up if all before it do and it does not stop the sum. -/
theorem AddsUp.append_singleton {items : List Value} {item : Value} (hitems : AddsUp items)
    (hitem : ∀ e, ¬ StopsSum items item e) : AddsUp (items ++ [item]) := by
  intro before other after e hsplit
  rcases split_append_singleton hsplit with ⟨rfl, rfl, -⟩ | ⟨rest, rfl, rfl⟩
  · exact hitem e
  · exact hitems before other rest e rfl

/-- An item stops a sum in one way only: it is no number, or the sum of integers overflows there. -/
theorem StopsSum.unique {before : List Value} {item : Value} {e e' : ReceiverError} (h : StopsSum before item e)
    (h' : StopsSum before item e') : e = e' := by
  cases h with
  | overflow ns n hrange =>
      generalize hbefore : ns.map Value.int = before at h'
      cases h' with
      | overflow => rfl
      | coercion _ hitem => exact absurd trivial hitem
  | coercion before hitem =>
      cases h' with
      | overflow => exact absurd trivial hitem
      | coercion => rfl

/-- The first item that stops a sum is one item, so there is one error. -/
theorem FirstStop.unique {items : List Value} {e e' : ReceiverError} (h : FirstStop items e)
    (h' : FirstStop items e') : e = e' := by
  obtain ⟨before, item, after, rfl, hbefore, hstop⟩ := h
  obtain ⟨before', item', after', hsplit, hbefore', hstop'⟩ := h'
  -- If one split stood before the other, its item would stop what adds up before the other.
  rcases List.append_eq_append_iff.mp hsplit with ⟨more, rfl, hmore⟩ | ⟨more, rfl, hmore⟩
  · cases more with
    | nil =>
        obtain ⟨rfl, rfl⟩ := List.cons.inj hmore
        rw [List.append_nil] at hstop'
        exact hstop.unique hstop'
    | cons first more =>
        obtain ⟨rfl, -⟩ := List.cons.inj hmore
        exact absurd hstop (hbefore' _ _ _ _ rfl)
  · cases more with
    | nil =>
        obtain ⟨rfl, rfl⟩ := List.cons.inj hmore
        rw [List.append_nil] at hstop
        exact hstop.unique hstop'
    | cons first more =>
        obtain ⟨rfl, -⟩ := List.cons.inj hmore
        exact absurd hstop' (hbefore _ _ _ _ rfl)

/-! ## One item -/

/-- What a total has to do with the items that were added up: it is exact if all of them are integers, and a float
if one of them is. -/
inductive IsTotal (items : List Value) : Value → Prop where
  | int {ns : List Int64} {total : Int64} (hitems : items = ns.map .int) (htotal : total.toInt = exactSum ns) :
    IsTotal items (.int total)
  | float {x : Binary64} (total : Binary64) (hmem : .float x ∈ items) : IsTotal items (.float total)

theorem int_injective : Function.Injective Value.int := fun _ _ => Value.int.inj

theorem map_int_inj {ns ns' : List Int64} : ns.map Value.int = ns'.map Value.int ↔ ns = ns' :=
  List.map_inj_right int_injective

theorem StopsSum.not_fitsWord {ns : List Int64} {n : Int64} {e : ReceiverError}
    (h : StopsSum (ns.map .int) (.int n) e) : ¬ FitsWord (exactSum (ns ++ [n])) := by
  generalize hbefore : ns.map Value.int = before at h
  cases h with
  | overflow ns' _ hrange =>
      obtain rfl := map_int_inj.mp hbefore
      exact hrange
  | coercion _ hitem => exact absurd trivial hitem

/-- A total is a word if it is in their range, and otherwise the sum ends in an overflow. -/
theorem ofInt_cases (n : Int) :
    (∃ word : Int64, word.toInt = n ∧ ofInt n = .ok (.int word)) ∨
      ¬ FitsWord n ∧ ofInt n = .error (.type "integer overflow") := by
  by_cases hn : FitsWord n
  · obtain ⟨word, rfl⟩ := exists_toInt_eq hn
    exact .inl ⟨word, rfl, by rw [ofInt, int64?_toInt]⟩
  · exact .inr ⟨hn, by rw [ofInt, int64?_eq_none hn]; rfl⟩

/-- A number stops no sum in which there is a float, since from there on the total is a float. -/
theorem not_stopsSum_of_float {before : List Value} {item : Value} {x : Binary64} (hmem : .float x ∈ before ++ [item])
    (hitem : item.IsNumber) (e : ReceiverError) : ¬ StopsSum before item e := by
  intro hstop
  cases hstop with
  | overflow ns n hrange => simp at hmem
  | coercion _ hno => exact hno hitem

/-- One item: it is added to the total of those seen, or it stops the sum, with the error that says why. -/
theorem addTo_cases {seen : List Value} {total : Value} (htotal : IsTotal seen total) (item : Value) :
    (∃ next, addTo total item = .ok next ∧ IsTotal (seen ++ [item]) next ∧ ∀ e, ¬ StopsSum seen item e) ∨
      ∃ e, addTo total item = .error e ∧ StopsSum seen item e := by
  cases item with
  | int n =>
      cases htotal with
      | @int ns total hseen hexact =>
          subst hseen
          rcases ofInt_cases (total.toInt + n.toInt) with ⟨word, hword, hadd⟩ | ⟨hrange, hadd⟩
          · have hsum : word.toInt = exactSum (ns ++ [n]) := by
              rw [hword, exactSum_append_singleton, hexact]
            refine .inl ⟨.int word, hadd, .int (by simp) hsum, fun e hstop => hstop.not_fitsWord ?_⟩
            exact hsum ▸ fitsWord_toInt word
          · refine .inr ⟨_, hadd, .overflow ns n ?_⟩
            rwa [exactSum_append_singleton, ← hexact]
      | @float x total hmem =>
          exact .inl ⟨_, rfl, .float _ (List.mem_append_left _ hmem),
            not_stopsSum_of_float (List.mem_append_left _ hmem) trivial⟩
  | float y =>
      have hmem : .float y ∈ seen ++ [.float y] := by simp
      refine .inl ?_
      cases htotal with
      | int => exact ⟨_, rfl, .float _ hmem, not_stopsSum_of_float hmem trivial⟩
      | float => exact ⟨_, rfl, .float _ hmem, not_stopsSum_of_float hmem trivial⟩
  | _ => cases htotal <;> exact .inr ⟨_, rfl, .coercion seen id⟩

/-! ## All items -/

/-- The run over the items: all add up, or the first that does not has stopped it. -/
theorem sumFrom_cases {seen : List Value} {total : Value} (hseen : AddsUp seen) (htotal : IsTotal seen total)
    (items : List Value) :
    (∃ result, sumFrom total items = .ok result ∧ AddsUp (seen ++ items) ∧ IsTotal (seen ++ items) result) ∨
      ∃ e, sumFrom total items = .error e ∧ FirstStop (seen ++ items) e := by
  induction items generalizing seen total with
  | nil =>
      rw [List.append_nil]
      exact .inl ⟨total, rfl, hseen, htotal⟩
  | cons item rest ih =>
      rcases addTo_cases htotal item with ⟨next, hadd, hnext, hclear⟩ | ⟨e, hadd, hstop⟩
      · rw [sumFrom, hadd, List.append_cons]
        exact ih (hseen.append_singleton hclear) hnext
      · refine .inr ⟨e, ?_, seen, item, rest, rfl, hseen, hstop⟩
        rw [sumFrom, hadd]

theorem sum_cases (items : List Value) :
    (∃ result, sum items = .ok result ∧ AddsUp items ∧ IsTotal items result) ∨
      ∃ e, sum items = .error e ∧ FirstStop items e :=
  sumFrom_cases addsUp_nil (.int (List.map_nil).symm rfl) items

theorem FirstStop.not_addsUp {items : List Value} {e : ReceiverError} (h : FirstStop items e) : ¬ AddsUp items := by
  obtain ⟨before, item, after, hsplit, -, hstop⟩ := h
  exact fun hitems => hitems before item after e hsplit hstop

/-- A sum fails with the error of the first item that stops it. -/
theorem sum_eq_error_iff (items : List Value) (e : ReceiverError) : sum items = .error e ↔ FirstStop items e := by
  rcases sum_cases items with ⟨result, hsum, hitems, -⟩ | ⟨e', hsum, hstop⟩
  · exact iff_of_false (by simp [hsum]) fun h => h.not_addsUp hitems
  · rw [hsum, Except.error.injEq]
    exact ⟨fun heq => heq ▸ hstop, hstop.unique⟩

/-- Items add up if all are numbers and every front of integers has a total in range. -/
theorem addsUp_iff (items : List Value) :
    AddsUp items ↔ (∀ item ∈ items, item.IsNumber) ∧
      ∀ ns : List Int64, ns.map .int <+: items → FitsWord (exactSum ns) := by
  constructor
  · intro hitems
    constructor
    · intro item hmem
      obtain ⟨before, after, hsplit⟩ := List.append_of_mem hmem
      by_contra hno
      exact hitems before item after _ hsplit (.coercion before hno)
    · rintro ns ⟨after, hsplit⟩
      by_contra hrange
      rcases List.eq_nil_or_concat ns with rfl | ⟨before, n, hns⟩
      · exact hrange (by decide)
      · obtain rfl : ns = before ++ [n] := by simpa using hns
        refine hitems (before.map .int) (.int n) after _ ?_ (.overflow before n hrange)
        simp [← hsplit]
  · rintro ⟨hnumbers, hfronts⟩ before item after e rfl hstop
    cases hstop with
    | overflow ns n hrange => exact hrange (hfronts (ns ++ [n]) ⟨after, by simp⟩)
    | coercion _ hno => exact hno (hnumbers item (by simp))

theorem exists_sum_eq_error_iff (items : List Value) : (∃ e, sum items = .error e) ↔ ¬ AddsUp items := by
  rcases sum_cases items with ⟨result, hsum, hitems, -⟩ | ⟨e, hsum, hstop⟩
  · simp [hsum, hitems]
  · simp [hsum, hstop.not_addsUp]

/-- A sum is an integer if all items are, and all the sums in between are words. -/
theorem sum_eq_int_iff (items : List Value) (n : Int64) :
    sum items = .ok (.int n) ↔ ∃ ns : List Int64, items = ns.map .int ∧
      (∀ front, front <+: ns → FitsWord (exactSum front)) ∧ n.toInt = exactSum ns := by
  rcases sum_cases items with ⟨result, hsum, hitems, htotal⟩ | ⟨e, hsum, hstop⟩
  · rw [hsum, Except.ok.injEq]
    have hfronts := ((addsUp_iff items).mp hitems).2
    cases htotal with
    | @int ns total hns hexact =>
        subst hns
        simp only [Value.int.injEq, map_int_inj]
        constructor
        · rintro rfl
          exact ⟨ns, rfl, fun front hfront => hfronts front (hfront.map _), hexact⟩
        · rintro ⟨_, rfl, -, hn⟩
          exact Int64.toInt_inj.mp (hexact.trans hn.symm)
    | @float x total hmem =>
        simp only [reduceCtorEq, false_iff]
        rintro ⟨ns, rfl, -⟩
        simp at hmem
  · rw [hsum]
    simp only [reduceCtorEq, false_iff]
    rintro ⟨ns, rfl, hfronts, -⟩
    apply hstop.not_addsUp
    refine (addsUp_iff _).mpr ⟨by simp [IsNumber], fun front hfront => hfronts front ?_⟩
    exact (List.prefix_map_iff_of_injective int_injective).mp hfront

/-- In another order of the items an integer sum stays the same or overflows in between. -/
theorem sum_perm {items items' : List Value} (hperm : items.Perm items') {n : Int64}
    (hsum : sum items = .ok (.int n)) : sum items' = .ok (.int n) ∨ ∃ e, sum items' = .error e := by
  obtain ⟨ns, rfl, -, hn⟩ := (sum_eq_int_iff items n).mp hsum
  rcases sum_cases items' with ⟨result, hsum', -, htotal⟩ | ⟨e, hsum', -⟩
  · refine .inl ?_
    rw [hsum']
    cases htotal with
    | @int ns' total hns' hexact =>
        subst hns'
        have hperm' : ns.Perm ns' := (List.map_perm_map_iff int_injective).mp hperm
        have heq : total.toInt = n.toInt := by
          rw [hexact, hn]
          exact (hperm'.map Int64.toInt).sum_eq.symm
        rw [Int64.toInt_inj.mp heq]
    | @float x total hmem =>
        have hmem' := hperm.mem_iff.mpr hmem
        simp at hmem'
  · exact .inr ⟨e, hsum'⟩

/-- A sum is an integer exactly for integers of which every front has a total in range, and then it is the exact
one, so in another order there is the same sum or none. It fails exactly if something is no number or a front of
integers has a total out of range, with the error of the leftmost item at fault. Otherwise it is a float, and so
is one of the items. -/
theorem send_sum (hosts : Hosts) (items : List Value) (earlier : List HostCall) :
    let answer (items : List Value) := ((array items).send hosts "sum" earlier).result
    (∀ n, answer items = .ok (int n) ↔ ∃ ns : List Int64, items = ns.map .int ∧
      (∀ front, front <+: ns → FitsWord (exactSum front)) ∧ n.toInt = exactSum ns) ∧
    answer [] = .ok (int 0) ∧
    (∀ n items', answer items = .ok (int n) → items.Perm items' →
      answer items' = .ok (int n) ∨ ∃ e, answer items' = .error e) ∧
    ((∃ e, answer items = .error e) ↔ (∃ item ∈ items, ¬ item.IsNumber) ∨
      ∃ front : List Int64, front.map .int <+: items ∧ ¬ FitsWord (exactSum front)) ∧
    (∀ e, answer items = .error e ↔ FirstStop items e) ∧
    ((∃ n, answer items = .ok (int n)) ∨ (∃ e, answer items = .error e) ∨
      (∃ x, .float x ∈ items) ∧ ∃ total, answer items = .ok (float total)) := by
  intro answer
  have hanswer : ∀ items, answer items = sum items := fun items =>
    send_array_of_map_some hosts rfl earlier
  simp only [hanswer]
  refine ⟨sum_eq_int_iff items, rfl, fun n items' hsum hperm => sum_perm hperm hsum, ?_, sum_eq_error_iff items, ?_⟩
  · rw [exists_sum_eq_error_iff, addsUp_iff, not_and_or]
    simp only [not_forall, exists_prop]
  · rcases sum_cases items with ⟨result, hsum, -, htotal⟩ | ⟨e, hsum, -⟩
    · cases htotal with
      | int => exact .inl ⟨_, hsum⟩
      | float total hmem => exact .inr (.inr ⟨⟨_, hmem⟩, total, hsum⟩)
    · exact .inr (.inl ⟨e, hsum⟩)

-- The total on the way is out of range, although the last one would not be.
example : sum [.int Int64.maxValue, .int 1, .int (-1), .nil] = .error (.type "integer overflow") := by
  rfl

end DocPath.Value
