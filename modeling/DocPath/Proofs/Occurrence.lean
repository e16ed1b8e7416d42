import Mathlib.Data.List.Induction
import Mathlib.Data.List.Nodup

/-!
# First and last occurrences

The items of a list that are the same as none before them, for any notion of sameness, and the items that are
the last with their label. Where sameness is transitive, an item need only be compared with the first ones: it is
the same as an earlier item exactly if it is the same as one of these.
-/

namespace DocPath

variable {α β γ : Type}

/-- The places of the items that are the same as no earlier one, whether or not that one is among them. -/
def firstPlaces (same : α → α → Bool) (items : List α) : List (Fin items.length) :=
  (List.finRange items.length).filter fun place =>
    ∀ earlier < place, same items[earlier] items[place] = false

/-- The items that are the same as no earlier one, in their order. -/
def firsts (same : α → α → Bool) (items : List α) : List α :=
  (firstPlaces same items).map fun place => items[place]

section

variable {same : α → α → Bool}

/-- A place is a first one if the item there is the same as none before it. -/
theorem mem_firstPlaces {items : List α} {place : Fin items.length} :
    place ∈ firstPlaces same items ↔ ∀ earlier < place, same items[earlier] items[place] = false := by
  simp [firstPlaces]

@[simp] theorem firsts_nil : firsts same [] = [] := rfl

theorem firsts_cons (first : α) (rest : List α) :
    firsts same (first :: rest) = first :: (firsts same rest).filter fun item => !same first item := by
  have hlater : ∀ place : Fin rest.length,
      (∀ earlier < place.succ, same (first :: rest)[earlier] rest[place] = false) ↔
        same first rest[place] = false ∧ ∀ earlier < place, same rest[earlier] rest[place] = false := by
    intro place
    rw [Fin.forall_fin_succ]
    simp
  simp only [firsts, firstPlaces, List.length_cons, List.finRange_succ]
  rw [List.filter_cons_of_pos (by simp), List.map_cons, List.filter_map, List.map_map, List.filter_map,
    List.filter_filter]
  congr 2
  apply List.filter_congr
  intro place _
  rw [Bool.eq_iff_iff]
  simpa using hlater place

/-- The items kept stand in the order that they had. -/
theorem firsts_sublist (items : List α) : (firsts same items).Sublist items := by
  induction items with
  | nil => exact .slnil
  | cons first rest ih =>
      rw [firsts_cons]
      exact (List.filter_sublist.trans ih).cons_cons first

/-- No item is the same as one before it. -/
theorem pairwise_firsts (items : List α) :
    (firsts same items).Pairwise fun earlier later => same earlier later = false := by
  induction items with
  | nil => exact .nil
  | cons first rest ih =>
      rw [firsts_cons]
      refine List.pairwise_cons.mpr ⟨?_, ih.filter _⟩
      intro later hlater
      simpa using (List.mem_filter.mp hlater).2

/-- Of items that are all different none is lost. -/
theorem firsts_eq_self {items : List α}
    (hdistinct : items.Pairwise fun earlier later => same earlier later = false) :
    firsts same items = items := by
  induction items with
  | nil => rfl
  | cons first rest ih =>
      obtain ⟨hfirst, hrest⟩ := List.pairwise_cons.mp hdistinct
      rw [firsts_cons, ih hrest, List.filter_eq_self.mpr (by simpa using hfirst)]

theorem firsts_map (f : β → α) (items : List β) :
    firsts same (items.map f) = (firsts (fun a b => same (f a) (f b)) items).map f := by
  induction items with
  | nil => rfl
  | cons first rest ih =>
      rw [List.map_cons, firsts_cons, firsts_cons, ih, List.map_cons, List.filter_map]
      rfl

/-- Whether an item is the same as none of those seen before. -/
def isFresh (same : α → α → Bool) (seen : List α) (item : α) : Bool := !seen.any (same · item)

theorem filter_isFresh_nil (items : List α) : items.filter (isFresh same []) = items := by
  simp [isFresh]

theorem isFresh_append_singleton (seen : List α) (item : α) :
    isFresh same (seen ++ [item]) = isFresh same (item :: seen) := by
  funext other
  simp [isFresh, Bool.and_comm]

/-- To go on behind a fresh item is to count it among the items seen. -/
theorem filter_isFresh_firsts_cons {seen : List α} {first : α} (hfresh : isFresh same seen first = true)
    (rest : List α) :
    (firsts same (first :: rest)).filter (isFresh same seen) =
      first :: (firsts same rest).filter (isFresh same (first :: seen)) := by
  rw [firsts_cons, List.filter_cons_of_pos hfresh, List.filter_filter]
  congr 2
  funext item
  simp [isFresh, Bool.and_comm]

variable (htrans : ∀ a b c, same a b = true → same b c = true → same a c = true)

include htrans

/-- What is the same as an item that is not fresh is not fresh either. -/
theorem filter_isFresh_firsts_cons_of_seen {seen : List α} {first : α}
    (hseen : isFresh same seen first = false) (rest : List α) :
    (firsts same (first :: rest)).filter (isFresh same seen) = (firsts same rest).filter (isFresh same seen) := by
  obtain ⟨known, hknown, hfirst⟩ : ∃ known ∈ seen, same known first = true := by simpa [isFresh] using hseen
  rw [firsts_cons, List.filter_cons_of_neg (by simp [hseen]), List.filter_filter]
  apply List.filter_congr
  intro item _
  rw [Bool.and_eq_left_iff_imp]
  intro hfresh
  have hother : same known item = false := by
    simp only [isFresh, Bool.not_eq_true', List.any_eq_false, Bool.not_eq_true] at hfresh
    exact hfresh known hknown
  cases hitem : same first item with
  | false => rfl
  | true => exact absurd (htrans known first item hfirst hitem) (by simp [hother])

/-- An item that is left out is the same as one that stands before it and is not. -/
theorem exists_firstPlace {items : List α} {place : Fin items.length} (hplace : place ∉ firstPlaces same items) :
    ∃ earlier ∈ firstPlaces same items, earlier < place ∧ same items[earlier] items[place] = true := by
  obtain ⟨earlier, hlt, hsame⟩ : ∃ earlier < place, same items[earlier] items[place] = true := by
    simpa [mem_firstPlaces] using hplace
  by_cases hearlier : earlier ∈ firstPlaces same items
  · exact ⟨earlier, hearlier, hlt, hsame⟩
  · obtain ⟨first, hfirst, hbefore, hsame'⟩ := exists_firstPlace hearlier
    exact ⟨first, hfirst, Fin.lt_trans hbefore hlt, htrans _ _ _ hsame' hsame⟩
termination_by place.val
decreasing_by exact hlt

end

/-! ## Last occurrences -/

/-- Where a list that ends in an item may be split: before this item, or earlier. -/
theorem split_append_singleton {items before after : List α} {new item : α}
    (hsplit : items ++ [new] = before ++ item :: after) :
    (items = before ∧ new = item ∧ after = []) ∨
      ∃ rest, after = rest ++ [new] ∧ items = before ++ item :: rest := by
  rcases List.eq_nil_or_concat after with rfl | ⟨rest, last, hafter⟩
  · obtain ⟨rfl, hnew⟩ := List.append_inj' hsplit rfl
    exact .inl ⟨rfl, List.singleton_inj.mp hnew, rfl⟩
  · obtain rfl : after = rest ++ [last] := by simpa using hafter
    rw [← List.cons_append, ← List.append_assoc] at hsplit
    obtain ⟨rfl, hnew⟩ := List.append_inj' hsplit rfl
    exact .inr ⟨rest, by rw [List.singleton_inj.mp hnew], rfl⟩

/-- An item of the list with no later one of the same label. -/
def IsLastBy (label : α → β) (items : List α) (item : α) : Prop :=
  ∃ before after, items = before ++ item :: after ∧ ∀ later ∈ after, label later ≠ label item

section

variable {label : α → β} {items : List α} {item : α}

theorem IsLastBy.mem (hlast : IsLastBy label items item) : item ∈ items := by
  obtain ⟨before, after, rfl, -⟩ := hlast
  simp

theorem not_isLastBy_nil : ¬ IsLastBy label [] item := fun hlast => List.not_mem_nil hlast.mem

/-- An item put behind is the last with its label, and hides those before it with the same. -/
theorem isLastBy_append_singleton {new : α} :
    IsLastBy label (items ++ [new]) item ↔ item = new ∨ label item ≠ label new ∧ IsLastBy label items item := by
  constructor
  · rintro ⟨before, after, hsplit, hlater⟩
    rcases split_append_singleton hsplit with ⟨-, rfl, -⟩ | ⟨rest, rfl, rfl⟩
    · exact .inl rfl
    · refine .inr ⟨(hlater new (by simp)).symm, before, rest, rfl, ?_⟩
      exact fun later hrest => hlater later (List.mem_append_left _ hrest)
  · rintro (rfl | ⟨hne, before, after, rfl, hlater⟩)
    · exact ⟨items, [], rfl, List.forall_mem_nil _⟩
    · refine ⟨before, after ++ [new], by simp, ?_⟩
      exact List.forall_mem_append.mpr ⟨hlater, List.forall_mem_singleton.mpr hne.symm⟩

theorem exists_isLastBy (hmem : item ∈ items) : ∃ last, IsLastBy label items last ∧ label last = label item := by
  induction items using List.reverseRecOn with
  | nil => exact absurd hmem List.not_mem_nil
  | append_singleton before new ih =>
      by_cases hlabel : label new = label item
      · exact ⟨new, isLastBy_append_singleton.mpr (.inl rfl), hlabel⟩
      · have hbefore : item ∈ before := by
          rcases List.mem_append.mp hmem with hbefore | hnew
          · exact hbefore
          · exact absurd (congrArg label (List.mem_singleton.mp hnew)).symm hlabel
        obtain ⟨last, hlast, hsame⟩ := ih hbefore
        have hne : label last ≠ label new := fun heq => hlabel (heq.symm.trans hsame)
        exact ⟨last, isLastBy_append_singleton.mpr (.inr ⟨hne, hlast⟩), hsame⟩

theorem isLastBy_map {f : γ → α} {items : List γ} :
    IsLastBy label (items.map f) item ↔ ∃ origin, IsLastBy (label ∘ f) items origin ∧ item = f origin := by
  constructor
  · rintro ⟨before, after, hsplit, hlater⟩
    obtain ⟨before', others, rfl, rfl, hothers⟩ := List.map_eq_append_iff.mp hsplit
    obtain ⟨origin, after', rfl, rfl, rfl⟩ := List.map_eq_cons_iff.mp hothers
    exact ⟨origin, ⟨before', after', rfl, fun later hmem => hlater _ (List.mem_map_of_mem hmem)⟩, rfl⟩
  · rintro ⟨origin, ⟨before, after, rfl, hlater⟩, rfl⟩
    exact ⟨before.map f, after.map f, by simp, List.forall_mem_map.mpr hlater⟩

/-- A label may be renamed, as long as different labels stay different. -/
theorem isLastBy_comp {f : β → γ} (hf : Function.Injective f) :
    IsLastBy (f ∘ label) items item ↔ IsLastBy label items item := by
  simp [IsLastBy, hf.ne_iff]

theorem isLastBy_congr {label' : α → γ} (hlabel : ∀ a b, label a = label b ↔ label' a = label' b) :
    IsLastBy label items item ↔ IsLastBy label' items item := by
  simp [IsLastBy, hlabel]

/-- If no label is repeated, every item is the last with its own. -/
theorem isLastBy_iff_mem (hdistinct : (items.map label).Nodup) : IsLastBy label items item ↔ item ∈ items := by
  refine ⟨IsLastBy.mem, fun hmem => ?_⟩
  obtain ⟨before, after, rfl⟩ := List.append_of_mem hmem
  refine ⟨before, after, rfl, fun later hlater heq => ?_⟩
  rw [List.map_append, List.map_cons] at hdistinct
  have hafter := (List.nodup_cons.mp (List.nodup_append.mp hdistinct).2.1).1
  exact hafter (heq ▸ List.mem_map_of_mem hlater)

section

variable {f : α → γ} {label : γ → β} {results : List γ}
  (hresults : ∀ result, result ∈ results ↔ ∃ item, IsLastBy (label ∘ f) items item ∧ result = f item)

include hresults

/-- Results that come from the last item of each label have all labels of the items. -/
theorem mem_map_label_iff {name : β} : name ∈ results.map label ↔ name ∈ items.map (label ∘ f) := by
  simp only [List.mem_map, hresults]
  constructor
  · rintro ⟨_, ⟨item, hlast, rfl⟩, rfl⟩
    exact ⟨item, hlast.mem, rfl⟩
  · rintro ⟨item, hitem, rfl⟩
    obtain ⟨last, hlast, hsame⟩ : ∃ last, IsLastBy (label ∘ f) items last ∧ (label ∘ f) last = (label ∘ f) item :=
      exists_isLastBy hitem
    exact ⟨f last, ⟨last, hlast, rfl⟩, hsame⟩

/-- If they have each label once, no item is missing exactly if no two items share a label. -/
theorem perm_map_iff_nodup (hdistinct : (results.map label).Nodup) :
    results.Perm (items.map f) ↔ (items.map (label ∘ f)).Nodup := by
  rw [← List.map_map]
  constructor
  · exact fun hperm => (hperm.map label).nodup_iff.mp hdistinct
  · intro hnodup
    apply (List.perm_ext_iff_of_nodup hdistinct.of_map hnodup.of_map).mpr
    intro result
    rw [List.map_map] at hnodup
    simp only [hresults, isLastBy_iff_mem hnodup, List.mem_map, eq_comm]

end

end

end DocPath
