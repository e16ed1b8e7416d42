import Mathlib.Data.List.Forall2
import Mathlib.Data.List.Perm.Subperm
import DocPath.Entries
import DocPath.Proofs.Occurrence

/-!
# Dictionaries by insertion

What an insertion does to the value of each key, and what a dictionary has of the list it is made of: its keys at
their first places, each with its last value.
-/

namespace DocPath.Entries

/-- Distinct keys that all stand in a list of no more entries are the keys of that list. -/
theorem perm_keys_of_subset {κ α β : Type} {entries : List (κ × α)} {target : List (κ × β)}
    (hdistinct : (entries.map Prod.fst).Nodup) (hlength : entries.length = target.length)
    (hkeys : ∀ entry ∈ entries, entry.1 ∈ target.map Prod.fst) :
    (entries.map Prod.fst).Perm (target.map Prod.fst) := by
  have hsubset : entries.map Prod.fst ⊆ target.map Prod.fst := List.forall_mem_map.mpr hkeys
  apply (List.subperm_of_subset hdistinct hsubset).perm_of_length_le
  simp [hlength]

section

variable {κ α : Type} [BEq κ]

theorem insert_eq_append {key : κ} {entries : List (κ × α)} (hnew : get? key entries = none)
    (value : α) : insert key value entries = entries ++ [(key, value)] := by
  induction entries with
  | nil => rfl
  | cons entry rest ih =>
      rw [get?] at hnew
      split at hnew
      next => simp at hnew
      next hother => rw [insert, if_neg hother, ih hnew, List.cons_append]

theorem get?_eq_none_of_forall {key : κ} {entries : List (κ × α)}
    (hother : ∀ entry ∈ entries, ¬ (entry.1 == key) = true) : get? key entries = none := by
  induction entries with
  | nil => rfl
  | cons entry rest ih =>
      obtain ⟨hentry, hrest⟩ := List.forall_mem_cons.mp hother
      rw [get?, if_neg hentry, ih hrest]

/-- Entries with new keys are put behind in their order. -/
theorem insertAll_eq_append {entries more : List (κ × α)}
    (hdistinct : (entries ++ more).Pairwise fun earlier later => ¬ (earlier.1 == later.1) = true) :
    insertAll entries more = entries ++ more := by
  induction more generalizing entries with
  | nil => exact (List.append_nil entries).symm
  | cons entry rest ih =>
      have hnew : get? entry.1 entries = none := get?_eq_none_of_forall fun earlier hmem =>
        (List.pairwise_append.mp hdistinct).2.2 earlier hmem entry List.mem_cons_self
      rw [List.append_cons] at hdistinct
      calc
        insertAll entries (entry :: rest) = insertAll (insert entry.1 entry.2 entries) rest := rfl
        _ = insertAll (entries ++ [entry]) rest := by rw [insert_eq_append hnew]
        _ = entries ++ [entry] ++ rest := ih hdistinct
        _ = entries ++ entry :: rest := (List.append_cons _ _ _).symm

/-- A list that repeats no key is its own dictionary. -/
theorem ofList_eq_self {entries : List (κ × α)}
    (hdistinct : entries.Pairwise fun earlier later => ¬ (earlier.1 == later.1) = true) :
    ofList entries = entries :=
  insertAll_eq_append hdistinct

theorem forall_mem_insert {p : κ → Prop} {q : α → Prop} {key : κ} {value : α}
    {entries : List (κ × α)} (hkey : p key) (hvalue : q value)
    (hentries : ∀ entry ∈ entries, p entry.1 ∧ q entry.2) :
    ∀ entry ∈ insert key value entries, p entry.1 ∧ q entry.2 := by
  induction entries with
  | nil => exact List.forall_mem_singleton.mpr ⟨hkey, hvalue⟩
  | cons first rest ih =>
      obtain ⟨hfirst, hrest⟩ := List.forall_mem_cons.mp hentries
      rw [insert]
      split
      next => exact List.forall_mem_cons.mpr ⟨⟨hfirst.1, hvalue⟩, hrest⟩
      next => exact List.forall_mem_cons.mpr ⟨hfirst, ih hrest⟩

/-- Every key and every value of a dictionary comes from the list, though not always from one entry of it. -/
theorem forall_mem_ofList (p : κ → Prop) (q : α → Prop) {entries : List (κ × α)}
    (hentries : ∀ entry ∈ entries, p entry.1 ∧ q entry.2) :
    ∀ entry ∈ ofList entries, p entry.1 ∧ q entry.2 := by
  let Holds (dictionary : List (κ × α)) : Prop := ∀ entry ∈ dictionary, p entry.1 ∧ q entry.2
  refine List.foldlRecOn (motive := Holds) entries _ (List.forall_mem_nil _) ?_
  intro dictionary hdictionary entry hmem
  exact forall_mem_insert (hentries entry hmem).1 (hentries entry hmem).2 hdictionary

theorem forall_of_get?_eq_none {key : κ} {entries : List (κ × α)}
    (hnew : get? key entries = none) : ∀ entry ∈ entries, ¬ (entry.1 == key) = true := by
  induction entries with
  | nil => exact List.forall_mem_nil _
  | cons entry rest ih =>
      rw [get?] at hnew
      split at hnew
      next => simp at hnew
      next hother => exact List.forall_mem_cons.mpr ⟨hother, ih hnew⟩

/-- A key that is there keeps its place when its value is set. -/
theorem keys_insert_of_get? {key : κ} {old : α} {entries : List (κ × α)}
    (hget : get? key entries = some old) (value : α) :
    (insert key value entries).map Prod.fst = entries.map Prod.fst := by
  induction entries with
  | nil => simp [get?] at hget
  | cons entry rest ih =>
      rw [get?] at hget
      rw [insert]
      split at hget
      next hkey => rw [if_pos hkey, List.map_cons, List.map_cons]
      next hother => rw [if_neg hother, List.map_cons, List.map_cons, ih hget]

/-- Setting a value never repeats a key. -/
theorem pairwise_keys_insert {entries : List (κ × α)}
    (hdistinct : (entries.map Prod.fst).Pairwise fun earlier later => ¬ (earlier == later) = true)
    (key : κ) (value : α) :
    ((insert key value entries).map Prod.fst).Pairwise
      fun earlier later => ¬ (earlier == later) = true := by
  cases hget : get? key entries with
  | some old => rwa [keys_insert_of_get? hget]
  | none =>
      rw [insert_eq_append hget, List.map_append, List.pairwise_append]
      refine ⟨hdistinct, List.pairwise_singleton _ _, ?_⟩
      simpa using forall_of_get?_eq_none hget

/-- A dictionary repeats no key. -/
theorem pairwise_keys_ofList (entries : List (κ × α)) :
    ((ofList entries).map Prod.fst).Pairwise fun earlier later => ¬ (earlier == later) = true := by
  let Distinct (dictionary : List (κ × α)) : Prop :=
    (dictionary.map Prod.fst).Pairwise fun earlier later => ¬ (earlier == later) = true
  refine List.foldlRecOn (motive := Distinct) entries _ List.Pairwise.nil ?_
  intro dictionary hdictionary entry _
  exact pairwise_keys_insert hdictionary entry.1 entry.2

/-- Keys may be mapped before or after a value is set, if the map merges no key with the one set. -/
theorem map_insert {κ' α' : Type} [BEq κ'] {f : κ → κ'} (g : α → α') {key : κ}
    {entries : List (κ × α)} (hkeys : ∀ entry ∈ entries, (f entry.1 == f key) = (entry.1 == key))
    (value : α) :
    (insert key value entries).map (Prod.map f g) =
      insert (f key) (g value) (entries.map (Prod.map f g)) := by
  induction entries with
  | nil => rfl
  | cons entry rest ih =>
      obtain ⟨hentry, hrest⟩ := List.forall_mem_cons.mp hkeys
      rw [List.map_cons, Prod.map, insert, insert, hentry]
      split
      · rfl
      · rw [List.map_cons, ih hrest, Prod.map]

section

variable {κ' α' : Type} [BEq κ'] {f : κ → κ'} (g : α → α') {p : κ → Prop}
  (hkeys : ∀ key other, p key → p other → (f key == f other) = (key == other))

include hkeys

theorem map_insertAll {entries more : List (κ × α)} (hentries : ∀ entry ∈ entries, p entry.1)
    (hmore : ∀ entry ∈ more, p entry.1) :
    (insertAll entries more).map (Prod.map f g) =
      insertAll (entries.map (Prod.map f g)) (more.map (Prod.map f g)) := by
  induction more generalizing entries with
  | nil => rfl
  | cons entry rest ih =>
      obtain ⟨hentry, hrest⟩ := List.forall_mem_cons.mp hmore
      have hinserted : ∀ other ∈ insert entry.1 entry.2 entries, p other.1 ∧ True :=
        forall_mem_insert (q := fun _ => True) hentry trivial fun other hother =>
          ⟨hentries other hother, trivial⟩
      have hstep := map_insert g (fun other hother => hkeys _ _ (hentries other hother) hentry) entry.2
      calc
        (insertAll entries (entry :: rest)).map (Prod.map f g)
          = (insertAll (insert entry.1 entry.2 entries) rest).map (Prod.map f g) := rfl
        _ = insertAll ((insert entry.1 entry.2 entries).map (Prod.map f g))
              (rest.map (Prod.map f g)) := ih (fun other hother => (hinserted other hother).1) hrest
        _ = insertAll (entries.map (Prod.map f g)) ((entry :: rest).map (Prod.map f g)) := by
              rw [hstep]; rfl

/-- Keys that are told apart as before under other names make the same dictionary. -/
theorem map_ofList {entries : List (κ × α)} (hentries : ∀ entry ∈ entries, p entry.1) :
    (ofList entries).map (Prod.map f g) = ofList (entries.map (Prod.map f g)) :=
  map_insertAll g hkeys (List.forall_mem_nil _) hentries

end

theorem length_insert_le (key : κ) (value : α) (entries : List (κ × α)) :
    (insert key value entries).length ≤ entries.length + 1 := by
  induction entries with
  | nil => simp [insert]
  | cons entry rest ih =>
      rw [insert]
      split
      next => simp
      next => simpa using ih

/-- Where the entries at each place have one key and related values, so has what is found. -/
theorem get?_rel {β : Type} {r : α → β → Prop} {entries : List (κ × α)}
    {others : List (κ × β)}
    (hentries : List.Forall₂ (fun entry other => entry.1 = other.1 ∧ r entry.2 other.2) entries others)
    (key : κ) : Option.Rel r (get? key entries) (get? key others) := by
  induction hentries with
  | nil => exact .none
  | cons hentry hrest ih =>
      rw [get?, get?, hentry.1]
      split
      · exact .some hentry.2
      · exact ih

theorem isFresh_keys (key : κ) (entries : List (κ × α)) :
    isFresh (· == ·) (entries.map Prod.fst) key = (get? key entries).isNone := by
  induction entries with
  | nil => rfl
  | cons entry rest ih =>
      rw [get?]
      split
      next hkey => simp [isFresh, hkey]
      next hother =>
        rw [← ih]
        simp [isFresh, hother]

theorem ofList_append_singleton (entries : List (κ × α)) (new : κ × α) :
    ofList (entries ++ [new]) = insert new.1 new.2 (ofList entries) := by
  rw [ofList, insertAll, List.foldl_append]
  rfl

end

variable {κ α : Type} [BEq κ] [LawfulBEq κ]

theorem get?_insert_self (key : κ) (value : α) (entries : List (κ × α)) :
    get? key (insert key value entries) = some value := by
  induction entries with
  | nil => simp [insert, get?]
  | cons entry rest ih =>
      rw [insert]
      split
      next hkey => rw [get?, if_pos hkey]
      next hother => rw [get?, if_neg hother, ih]

theorem get?_insert_of_ne {key other : κ} (hother : other ≠ key) (value : α)
    (entries : List (κ × α)) : get? other (insert key value entries) = get? other entries := by
  induction entries with
  | nil => simp [insert, get?, hother.symm]
  | cons entry rest ih =>
      rw [insert]
      split
      next hkey =>
        -- Both sides pass over the entry of `key`, whose value alone has changed.
        have hskip : ¬(entry.1 == other) = true := fun h =>
          hother ((eq_of_beq h).symm.trans (eq_of_beq hkey))
        rw [get?, if_neg hskip, get?, if_neg hskip]
      next => rw [get?, get?, ih]

theorem mem_of_get? {key : κ} {value : α} {entries : List (κ × α)}
    (hget : get? key entries = some value) : (key, value) ∈ entries := by
  induction entries with
  | nil => cases hget
  | cons entry rest ih =>
      rw [get?] at hget
      split at hget
      next hkey =>
        have hentry : entry = (key, value) := Prod.ext (eq_of_beq hkey) (Option.some.inj hget)
        exact hentry ▸ List.mem_cons_self
      next => exact List.mem_cons_of_mem _ (ih hget)

theorem mem_keys_of_get? {key : κ} {value : α} {entries : List (κ × α)}
    (hget : get? key entries = some value) : key ∈ entries.map Prod.fst :=
  List.mem_map_of_mem (mem_of_get? hget)

theorem eq_or_mem_of_mem_insert {key : κ} {value : α} {entries : List (κ × α)} {entry : κ × α}
    (hmem : entry ∈ insert key value entries) : entry = (key, value) ∨ entry ∈ entries := by
  induction entries with
  | nil => exact Or.inl (List.mem_singleton.mp hmem)
  | cons first rest ih =>
      rw [insert] at hmem
      split at hmem
      next hkey =>
        rcases List.mem_cons.mp hmem with rfl | hlater
        · exact Or.inl (Prod.ext (eq_of_beq hkey) rfl)
        · exact Or.inr (List.mem_cons_of_mem _ hlater)
      next =>
        rcases List.mem_cons.mp hmem with rfl | hlater
        · exact Or.inr List.mem_cons_self
        · exact (ih hlater).imp_right (List.mem_cons_of_mem _)

/-- Insertions repeat no key. -/
theorem nodup_keys_insert {entries : List (κ × α)} (hdistinct : (entries.map Prod.fst).Nodup)
    (key : κ) (value : α) : ((insert key value entries).map Prod.fst).Nodup := by
  have hdiffer := hdistinct.imp fun hne hbeq => hne (eq_of_beq hbeq)
  apply (pairwise_keys_insert hdiffer key value).imp
  intro earlier later hdiffer heq
  exact hdiffer (beq_of_eq heq)

theorem get?_eq_none_iff {key : κ} {entries : List (κ × α)} :
    get? key entries = none ↔ key ∉ entries.map Prod.fst := by
  induction entries with
  | nil => simp [get?]
  | cons entry rest ih =>
      rw [get?, List.map_cons, List.mem_cons, not_or]
      split
      next hkey => simp [eq_of_beq hkey]
      next hother =>
        have hne : key ≠ entry.1 := fun h => hother (beq_of_eq h.symm)
        simp [ih, hne]

theorem ofList_eq_self_of_nodup {entries : List (κ × α)}
    (hdistinct : (entries.map Prod.fst).Nodup) : ofList entries = entries := by
  apply ofList_eq_self
  exact (List.pairwise_map.mp hdistinct).imp fun hne hbeq => hne (eq_of_beq hbeq)

/-- Where no key is repeated, every entry is the one found for its key. -/
theorem get?_of_mem {entries : List (κ × α)} (hdistinct : (entries.map Prod.fst).Nodup)
    {entry : κ × α} (hmem : entry ∈ entries) : get? entry.1 entries = some entry.2 := by
  induction entries with
  | nil => cases hmem
  | cons first rest ih =>
      obtain ⟨hfirst, hrest⟩ := List.nodup_cons.mp hdistinct
      rcases List.mem_cons.mp hmem with rfl | hlater
      · rw [get?, if_pos (beq_self_eq_true _)]
      · have hne : first.1 ≠ entry.1 := fun h => hfirst (h ▸ List.mem_map_of_mem hlater)
        rw [get?, if_neg (fun h => hne (eq_of_beq h))]
        exact ih hrest hlater

/-- In whatever order entries stand, each key finds the same. -/
theorem get?_perm {entries others : List (κ × α)}
    (hperm : entries.Perm others) (hdistinct : (entries.map Prod.fst).Nodup) (key : κ) :
    get? key entries = get? key others := by
  cases hget : get? key entries with
  | none =>
      symm
      rw [get?_eq_none_iff, ← (hperm.map Prod.fst).mem_iff, ← get?_eq_none_iff]
      exact hget
  | some value =>
      have hmem : (key, value) ∈ others := hperm.mem_iff.mp (mem_of_get? hget)
      exact (get?_of_mem ((hperm.map Prod.fst).nodup_iff.mp hdistinct) hmem).symm

/-- Besides the entry that is set there are those of the other keys. -/
theorem mem_insert_iff {entries : List (κ × α)} (hdistinct : (entries.map Prod.fst).Nodup) {key : κ} {value : α}
    {entry : κ × α} :
    entry ∈ insert key value entries ↔ entry = (key, value) ∨ entry.1 ≠ key ∧ entry ∈ entries := by
  constructor
  · intro hmem
    by_cases hkey : entry.1 = key
    · have hget := get?_of_mem (nodup_keys_insert hdistinct key value) hmem
      rw [hkey, get?_insert_self] at hget
      exact .inl (Prod.ext hkey (Option.some.inj hget).symm)
    · refine .inr ⟨hkey, (eq_or_mem_of_mem_insert hmem).resolve_left ?_⟩
      exact fun heq => hkey (congrArg Prod.fst heq)
  · rintro (rfl | ⟨hkey, hmem⟩)
    · exact mem_of_get? (get?_insert_self key value entries)
    · apply mem_of_get?
      rw [get?_insert_of_ne hkey]
      exact get?_of_mem hdistinct hmem

/-- Building up entries from a list leaves no key repeated. -/
theorem nodup_keys_ofList (entries : List (κ × α)) : ((ofList entries).map Prod.fst).Nodup :=
  (pairwise_keys_ofList entries).imp fun hdiffer heq => hdiffer (beq_of_eq heq)

/-- Of all entries with one key the last is kept. -/
theorem mem_ofList_iff {entries : List (κ × α)} {entry : κ × α} :
    entry ∈ ofList entries ↔ IsLastBy Prod.fst entries entry := by
  induction entries using List.reverseRecOn with
  | nil => exact iff_of_false List.not_mem_nil not_isLastBy_nil
  | append_singleton entries new ih =>
      rw [ofList_append_singleton, mem_insert_iff (nodup_keys_ofList entries), isLastBy_append_singleton, ih]

/-- Keys stand where they first occur, behind those that were there. -/
theorem keys_insertAll (entries more : List (κ × α)) :
    (insertAll entries more).map Prod.fst = entries.map Prod.fst ++
      (firsts (· == ·) (more.map Prod.fst)).filter (isFresh (· == ·) (entries.map Prod.fst)) := by
  induction more generalizing entries with
  | nil => simp [insertAll]
  | cons entry rest ih =>
      have hstep : insertAll entries (entry :: rest) = insertAll (insert entry.1 entry.2 entries) rest := rfl
      rw [hstep, ih, List.map_cons]
      cases hget : get? entry.1 entries with
      | some old =>
          have hseen : isFresh (· == ·) (entries.map Prod.fst) entry.1 = false := by
            rw [isFresh_keys, hget, Option.isNone_some]
          have htrans : ∀ a b c : κ, (a == b) = true → (b == c) = true → (a == c) = true := by
            intro a b c hab hbc
            rwa [eq_of_beq hab]
          rw [keys_insert_of_get? hget, filter_isFresh_firsts_cons_of_seen htrans hseen]
      | none =>
          have hfresh : isFresh (· == ·) (entries.map Prod.fst) entry.1 = true := by
            rw [isFresh_keys, hget, Option.isNone_none]
          rw [insert_eq_append hget, filter_isFresh_firsts_cons hfresh, List.map_append, List.map_singleton,
            isFresh_append_singleton, List.append_assoc, List.singleton_append]

/-- Keys stand in the order in which they first occur. -/
theorem keys_ofList (entries : List (κ × α)) :
    (ofList entries).map Prod.fst = firsts (· == ·) (entries.map Prod.fst) := by
  rw [ofList, keys_insertAll, List.map_nil, List.nil_append, filter_isFresh_nil]

end DocPath.Entries
