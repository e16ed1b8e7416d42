import DocPath.Proofs.Entries
import DocPath.Proofs.Value.Depth
import DocPath.Value.Equality

/-!
# Equality is a partial equivalence

Equality of values is symmetric and transitive, and a value equals itself exactly when no float in it is not
a number. Comparing hashes looks one way only, from the entries of the first to those of the second, so
symmetry counts keys: distinct ones that are all found in a list of no more entries are all of its keys.

The order in which hashes have their entries makes no difference, at whatever depth.
-/

namespace DocPath

theorem forall₂_comp {α β γ : Type} {r : α → β → Prop} {s : β → γ → Prop} {t : α → γ → Prop}
    (hcomp : ∀ a b c, r a b → s b c → t a c) {as : List α} {bs : List β} {cs : List γ}
    (hab : List.Forall₂ r as bs) (hbc : List.Forall₂ s bs cs) : List.Forall₂ t as cs := by
  induction hab generalizing cs with
  | nil =>
      cases hbc with
      | nil => exact .nil
  | cons hhead htail ih =>
      cases hbc with
      | cons hhead' htail' => exact .cons (hcomp _ _ _ hhead hhead') (ih htail')

namespace Binary64

/-- Doubles are equal if they have the same place, as the two zeros have. -/
theorem equal_iff {x y : Binary64} :
    equal x y = true ↔ ∃ rank, x.rank? = some rank ∧ y.rank? = some rank := by
  rw [equal, order?]
  cases x.rank? with
  | none => simp
  | some a =>
      cases y.rank? with
      | none => simp
      | some b => simp [@eq_comm _ b]

theorem equal_symm {x y : Binary64} (hequal : equal x y = true) : equal y x = true := by
  obtain ⟨rank, hx, hy⟩ := equal_iff.mp hequal
  exact equal_iff.mpr ⟨rank, hy, hx⟩

theorem equal_trans {x y z : Binary64} (hxy : equal x y = true) (hyz : equal y z = true) :
    equal x z = true := by
  obtain ⟨rank, hx, hy⟩ := equal_iff.mp hxy
  obtain ⟨rank', hy', hz⟩ := equal_iff.mp hyz
  obtain rfl : rank = rank' := Option.some.inj (hy.symm.trans hy')
  exact equal_iff.mpr ⟨rank, hx, hz⟩

/-- Only what is no number differs from itself. -/
theorem equal_self_iff {x : Binary64} : equal x x = true ↔ x ≠ .nan := by
  cases x <;> simp [equal_iff, rank?]

end Binary64

namespace Value

@[simp] theorem equal_float (x y : Binary64) : equal (float x) (float y) = Binary64.equal x y := rfl

@[simp] theorem equal_array (items others : List Value) :
    equal (array items) (array others) = equalItems items others := rfl

@[simp] theorem equal_hash (entries others : List (Key × Value)) :
    equal (hash entries) (hash others) =
      (entries.length == others.length && entriesIn entries others) := rfl

@[simp] theorem equal_host (object other : HostObject) :
    equal (host object) (host other) = (object.identity == other.identity) := rfl

@[simp] theorem equalItems_cons (item other : Value) (items others : List Value) :
    equalItems (item :: items) (other :: others) = (equal item other && equalItems items others) := rfl

@[simp] theorem entriesIn_cons (entry : Key × Value) (entries target : List (Key × Value)) :
    entriesIn (entry :: entries) target =
      ((match Entries.get? entry.1 target with
        | some b => equal entry.2 b
        | none => false) && entriesIn entries target) := rfl

/-- Items are compared one by one, and both lists have to end together. -/
theorem equalItems_iff {items others : List Value} :
    equalItems items others = true ↔ List.Forall₂ (fun a b => equal a b = true) items others := by
  induction items generalizing others with
  | nil => cases others <;> simp [equalItems]
  | cons item rest ih => cases others <;> simp [equalItems, ih]

/-- Every entry has an equal one of its key in the target. -/
theorem entriesIn_iff {entries target : List (Key × Value)} :
    entriesIn entries target = true ↔
      ∀ entry ∈ entries, ∃ b, Entries.get? entry.1 target = some b ∧ equal entry.2 b = true := by
  induction entries with
  | nil => simp [entriesIn]
  | cons entry rest ih =>
      rw [entriesIn_cons, Bool.and_eq_true, ih, List.forall_mem_cons]
      cases Entries.get? entry.1 target <;> simp

theorem equal_array_iff {items others : List Value} :
    equal (array items) (array others) = true ↔
      List.Forall₂ (fun a b => equal a b = true) items others := by
  rw [equal_array, equalItems_iff]

/-- Hashes of one size are equal if each entry of the first has an equal one in the second. -/
theorem equal_hash_iff {entries others : List (Key × Value)} :
    equal (hash entries) (hash others) = true ↔ entries.length = others.length ∧
      ∀ entry ∈ entries, ∃ b, Entries.get? entry.1 others = some b ∧ equal entry.2 b = true := by
  rw [equal_hash, Bool.and_eq_true, beq_iff_eq, entriesIn_iff]

/-! ### What is equal is of one kind -/

theorem exists_float_of_equal {x : Binary64} {b : Value} (hequal : equal (float x) b = true) :
    ∃ y, b = float y ∧ Binary64.equal x y = true := by
  cases b with
  | float y => exact ⟨y, rfl, hequal⟩
  | _ => cases hequal

theorem exists_array_of_equal {items : List Value} {b : Value}
    (hequal : equal (array items) b = true) :
    ∃ others, b = array others ∧ List.Forall₂ (fun a b => equal a b = true) items others := by
  cases b with
  | array others => exact ⟨others, rfl, equal_array_iff.mp hequal⟩
  | _ => cases hequal

theorem exists_hash_of_equal {entries : List (Key × Value)} {b : Value}
    (hequal : equal (hash entries) b = true) :
    ∃ others, b = hash others ∧ equal (hash entries) (hash others) = true := by
  cases b with
  | hash others => exact ⟨others, rfl, hequal⟩
  | _ => cases hequal

theorem exists_host_of_equal {object : HostObject} {b : Value} (hequal : equal (host object) b = true) :
    ∃ other, b = host other ∧ object.identity = other.identity := by
  cases b with
  | host other => exact ⟨other, rfl, eq_of_beq hequal⟩
  | _ => cases hequal

/-- The kinds of values that equal themselves and nothing else. -/
def IsAtom : Value → Prop
  | .float _ | .array _ | .hash _ | .host _ => False
  | .nil | .bool _ | .int _ | .str _ | .symbol _ => True

theorem equal_self_of_isAtom {a : Value} (hatom : a.IsAtom) : equal a a = true := by
  cases a with
  | nil => rfl
  | bool b => exact beq_self_eq_true b
  | int n => exact beq_self_eq_true n
  | str text => exact beq_self_eq_true text
  | symbol name => exact beq_self_eq_true name
  | _ => cases hatom

/-- Atoms are equal only to themselves. -/
theorem eq_of_equal {a b : Value} (hatom : a.IsAtom) (hequal : equal a b = true) : a = b := by
  cases a with
  | nil =>
      cases b with
      | nil => rfl
      | _ => cases hequal
  | bool x =>
      cases b with
      | bool y => exact congrArg bool (eq_of_beq hequal)
      | _ => cases hequal
  | int n =>
      cases b with
      | int m => exact congrArg int (eq_of_beq hequal)
      | _ => cases hequal
  | str text =>
      cases b with
      | str text' => exact congrArg str (eq_of_beq hequal)
      | _ => cases hequal
  | symbol name =>
      cases b with
      | symbol name' => exact congrArg symbol (eq_of_beq hequal)
      | _ => cases hequal
  | _ => cases hatom

/-- Equal hashes have the same keys, if those of the first are distinct. -/
theorem perm_keys_of_equal {entries others : List (Key × Value)}
    (hdistinct : (entries.map Prod.fst).Nodup)
    (hequal : equal (hash entries) (hash others) = true) :
    (entries.map Prod.fst).Perm (others.map Prod.fst) := by
  obtain ⟨hlength, hentries⟩ := equal_hash_iff.mp hequal
  apply Entries.perm_keys_of_subset hdistinct hlength
  intro entry hentry
  obtain ⟨b, hget, -⟩ := hentries entry hentry
  exact Entries.mem_keys_of_get? hget

/-- Equality is symmetric where no key is repeated, since then entries can be counted. -/
theorem equal_symm {a b : Value} (ha : a.Everywhere DistinctKeys) (hequal : equal a b = true) :
    equal b a = true := by
  induction a generalizing b with
  | array items ih =>
      obtain ⟨others, rfl, hitems⟩ := exists_array_of_equal hequal
      rw [everywhere_array] at ha
      have hsymm : ∀ item ∈ items, ∀ b, equal item b = true → equal b item = true :=
        fun item hitem b => ih item hitem (ha.2 item hitem)
      rw [equal_array_iff]
      apply List.Forall₂.flip
      apply ((List.forall₂_and_left _ _).mpr ⟨hsymm, hitems⟩).imp
      intro item other hboth
      exact hboth.1 other hboth.2
  | hash entries ih =>
      obtain ⟨others, rfl, hequal⟩ := exists_hash_of_equal hequal
      rw [everywhere_hash] at ha
      have hkeys := perm_keys_of_equal ha.1 hequal
      rw [equal_hash_iff] at hequal ⊢
      refine ⟨hequal.1.symm, ?_⟩
      intro other hother
      -- The key of each entry is one of the first hash, which finds this very entry.
      obtain ⟨entry, hentry, hkey⟩ :=
        List.mem_map.mp (hkeys.mem_iff.mpr (List.mem_map_of_mem hother))
      obtain ⟨b, hget, hvalue⟩ := hequal.2 entry hentry
      have hfound : Entries.get? other.1 others = some other.2 :=
        Entries.get?_of_mem (hkeys.nodup_iff.mp ha.1) hother
      obtain rfl : b = other.2 := by simpa [hkey, hfound] using hget.symm
      refine ⟨entry.2, ?_, ih entry hentry (ha.2 entry hentry) hvalue⟩
      rw [← hkey]
      exact Entries.get?_of_mem ha.1 hentry
  | float x =>
      obtain ⟨y, rfl, hnumbers⟩ := exists_float_of_equal hequal
      exact Binary64.equal_symm hnumbers
  | host object =>
      obtain ⟨other, rfl, hsame⟩ := exists_host_of_equal hequal
      rw [equal_host, beq_iff_eq]
      exact hsame.symm
  | _ =>
      obtain rfl := eq_of_equal (by trivial) hequal
      exact hequal

/-- Equality is transitive, whatever the keys. -/
theorem equal_trans {a b c : Value} (hab : equal a b = true) (hbc : equal b c = true) :
    equal a c = true := by
  induction a generalizing b c with
  | array items ih =>
      obtain ⟨others, rfl, hitems⟩ := exists_array_of_equal hab
      obtain ⟨thirds, rfl, hothers⟩ := exists_array_of_equal hbc
      have htrans : ∀ item ∈ items, ∀ b c, equal item b = true → equal b c = true →
          equal item c = true := fun item hitem b c => ih item hitem
      rw [equal_array_iff]
      refine forall₂_comp ?_ ((List.forall₂_and_left _ _).mpr ⟨htrans, hitems⟩) hothers
      intro item other third hboth hnext
      exact hboth.1 other third hboth.2 hnext
  | hash entries ih =>
      obtain ⟨others, rfl, hab⟩ := exists_hash_of_equal hab
      obtain ⟨thirds, rfl, hbc⟩ := exists_hash_of_equal hbc
      rw [equal_hash_iff] at hab hbc ⊢
      refine ⟨hab.1.trans hbc.1, ?_⟩
      intro entry hentry
      obtain ⟨b, hfirst, hvalue⟩ := hab.2 entry hentry
      obtain ⟨c, hsecond, hvalue'⟩ := hbc.2 _ (Entries.mem_of_get? hfirst)
      exact ⟨c, hsecond, ih entry hentry hvalue hvalue'⟩
  | float x =>
      obtain ⟨y, rfl, hxy⟩ := exists_float_of_equal hab
      obtain ⟨z, rfl, hyz⟩ := exists_float_of_equal hbc
      exact Binary64.equal_trans hxy hyz
  | host object =>
      obtain ⟨other, rfl, hfirst⟩ := exists_host_of_equal hab
      obtain ⟨third, rfl, hsecond⟩ := exists_host_of_equal hbc
      rw [equal_host, beq_iff_eq]
      exact hfirst.trans hsecond
  | _ =>
      obtain rfl := eq_of_equal (by trivial) hab
      exact hbc

/-- A value equals itself unless something in it is not a number. -/
theorem equal_self_iff {a : Value} (ha : a.Everywhere DistinctKeys) :
    equal a a = true ↔ a.Everywhere (· ≠ .float .nan) := by
  induction a with
  | array items ih =>
      rw [everywhere_array] at ha ⊢
      rw [equal_array_iff, List.forall₂_same]
      simp only [ne_eq, reduceCtorEq, not_false_eq_true, true_and]
      exact forall₂_congr fun item hitem => ih item hitem (ha.2 item hitem)
  | hash entries ih =>
      rw [everywhere_hash] at ha ⊢
      rw [equal_hash_iff]
      simp only [ne_eq, reduceCtorEq, not_false_eq_true, true_and]
      apply forall₂_congr
      intro entry hentry
      simp [Entries.get?_of_mem ha.1 hentry, ih entry hentry (ha.2 entry hentry)]
  | float x => simp [Binary64.equal_self_iff]
  | host object => simp
  | _ => exact iff_of_true (equal_self_of_isAtom (by trivial)) (by simp)

/-! ## The order of entries -/

/-- The same value but for the order in which hashes in it have their entries. -/
inductive Reordered : Value → Value → Prop where
  | refl (value : Value) : Reordered value value
  | trans {a b c : Value} (first : Reordered a b) (second : Reordered b c) : Reordered a c
  | entries {entries others : List (Key × Value)} (hperm : entries.Perm others) :
    Reordered (.hash entries) (.hash others)
  | item {a b : Value} (before after : List Value) (inner : Reordered a b) :
    Reordered (.array (before ++ a :: after)) (.array (before ++ b :: after))
  | entry {a b : Value} (before after : List (Key × Value)) (key : Key) (inner : Reordered a b) :
    Reordered (.hash (before ++ (key, a) :: after)) (.hash (before ++ (key, b) :: after))

theorem Reordered.distinctKeys {a b : Value} (hreordered : Reordered a b) (ha : a.DistinctKeys) :
    b.DistinctKeys := by
  induction hreordered with
  | refl value => exact ha
  | trans first second ih ih' => exact ih' (ih ha)
  | entries hperm => exact (hperm.map Prod.fst).nodup_iff.mp ha
  | item before after inner ih => trivial
  | entry before after key inner ih => simpa [DistinctKeys] using ha

/-- What reordering keeps of each value it keeps at every depth. -/
theorem Reordered.everywhere {p : Value → Prop} (hkept : ∀ {a b}, Reordered a b → p a → p b)
    {a b : Value} (hreordered : Reordered a b) (ha : a.Everywhere p) : b.Everywhere p := by
  induction hreordered with
  | refl value => exact ha
  | trans first second ih ih' => exact ih' (ih ha)
  | entries hperm =>
      rw [everywhere_hash] at ha ⊢
      refine ⟨hkept (.entries hperm) ha.1, ?_⟩
      intro entry hentry
      exact ha.2 entry (hperm.mem_iff.mpr hentry)
  | item before after inner ih =>
      simp only [everywhere_array, List.forall_mem_append, List.forall_mem_cons] at ha ⊢
      exact ⟨hkept (.item before after inner) ha.1, ha.2.1, ih ha.2.2.1, ha.2.2.2⟩
  | entry before after key inner ih =>
      simp only [everywhere_hash, List.forall_mem_append, List.forall_mem_cons] at ha ⊢
      exact ⟨hkept (.entry before after key inner) ha.1, ha.2.1, ih ha.2.2.1, ha.2.2.2⟩

/-- An item may be replaced by one that is equal to the same values. -/
theorem equalItems_congr {a b : Value} (hsame : ∀ c, equal a c = equal b c)
    (before after others : List Value) :
    equalItems (before ++ a :: after) others = equalItems (before ++ b :: after) others := by
  induction before generalizing others with
  | nil =>
      cases others with
      | nil => rfl
      | cons other others => simp [hsame]
  | cons item rest ih =>
      cases others with
      | nil => rfl
      | cons other others => simp [ih]

theorem entriesIn_congr {a b : Value} (hsame : ∀ c, equal a c = equal b c) (key : Key)
    (before after target : List (Key × Value)) :
    entriesIn (before ++ (key, a) :: after) target =
      entriesIn (before ++ (key, b) :: after) target := by
  induction before with
  | nil => simp [hsame]
  | cons entry rest ih => simp [ih]

/-- The order of entries does not matter to whether they are all found. -/
theorem entriesIn_perm {entries others target : List (Key × Value)}
    (hperm : entries.Perm others) : entriesIn entries target = entriesIn others target := by
  rw [Bool.eq_iff_iff, entriesIn_iff, entriesIn_iff]
  simp only [hperm.mem_iff]

/-- What a value equals does not depend on the order of entries in it. -/
theorem Reordered.equal_left {a b : Value} (hreordered : Reordered a b) (c : Value) :
    equal b c = equal a c := by
  induction hreordered generalizing c with
  | refl value => rfl
  | trans first second ih ih' => exact (ih' c).trans (ih c)
  | entries hperm =>
      cases c with
      | hash others => rw [equal_hash, equal_hash, entriesIn_perm hperm, hperm.length_eq]
      | _ => rfl
  | item before after inner ih =>
      cases c with
      | array others => rw [equal_array, equal_array, equalItems_congr ih]
      | _ => rfl
  | entry before after key inner ih =>
      cases c with
      | hash others => simp only [equal_hash, entriesIn_congr ih, List.length_append, List.length_cons]
      | _ => rfl

theorem equal_comm {a b : Value} (ha : a.Everywhere DistinctKeys) (hb : b.Everywhere DistinctKeys) :
    equal a b = equal b a := by
  rw [Bool.eq_iff_iff]
  exact ⟨equal_symm ha, equal_symm hb⟩

/-- Equality of values with distinct keys is symmetric and transitive; a value equals itself exactly when
nothing in it is a float that is not a number; the order of entries at any depth does not count; and host
objects are equal when they are the same object. -/
theorem equal_partial_equivalence {a b : Value} (ha : a.Everywhere DistinctKeys)
    (hb : b.Everywhere DistinctKeys) :
    (equal a b = true → equal b a = true) ∧
    (∀ c, equal a b = true → equal b c = true → equal a c = true) ∧
    (equal a a = true ↔ ¬ (float .nan).OccursIn a) ∧
    (∀ a', Reordered a a' → equal a' b = equal a b ∧ equal b a' = equal b a ∧
      (¬ (float .nan).OccursIn a → equal a' a = true ∧ equal a a' = true)) ∧
    ∀ object other : HostObject,
      equal (host object) (host other) = true ↔ object.identity = other.identity := by
  refine ⟨equal_symm ha, fun c => equal_trans, ?_, ?_, ?_⟩
  · rw [not_occursIn_iff]
    exact equal_self_iff ha
  · intro a' hreordered
    have ha' := hreordered.everywhere Reordered.distinctKeys ha
    refine ⟨hreordered.equal_left b, ?_, ?_⟩
    · rw [equal_comm hb ha', hreordered.equal_left, equal_comm ha hb]
    · intro hnumbers
      have hself : equal a' a = true := by
        rw [hreordered.equal_left, equal_self_iff ha, ← not_occursIn_iff]
        exact hnumbers
      exact ⟨hself, equal_symm ha' hself⟩
  · intro object other
    rw [equal_host, beq_iff_eq]

/-- Two orders of a hash inside an array, beside the two zeros. -/
theorem equal_partial_equivalence_of_two_orders :
    let inner := hash [(.symbol "p", .nil), (.str "p", .bool true)]
    let inner' := hash [(.str "p", .bool true), (.symbol "p", .nil)]
    let a := hash [(.int 3, array [inner]), (.str "x", .float .positiveZero)]
    let a' := hash [(.int 3, array [inner']), (.str "x", .float .positiveZero)]
    let b := hash [(.str "x", .float (.signed true .zero)), (.int 3, array [inner'])]
    a.Everywhere DistinctKeys ∧ b.Everywhere DistinctKeys ∧ Reordered a a' ∧
      ¬ (float .nan).OccursIn a ∧ equal a b = true ∧
      equal b a = true ∧ equal a' b = true ∧ equal a' a = true := by
  intro inner inner' a a' b
  have ha : a.Everywhere DistinctKeys := by simp [a, inner, DistinctKeys]
  have hb : b.Everywhere DistinctKeys := by simp [b, inner', DistinctKeys]
  have hreordered : Reordered a a' :=
    .entry [] [(.str "x", .float .positiveZero)] (.int 3) (.item [] [] (.entries (.swap _ _ _)))
  have hnumbers : ¬ (float .nan).OccursIn a := by
    rw [not_occursIn_iff]
    simp [a, inner, Binary64.positiveZero]
  have hab : equal a b = true := by decide
  obtain ⟨hsymm, -, -, horder, -⟩ := equal_partial_equivalence ha hb
  obtain ⟨hleft, -, hself⟩ := horder a' hreordered
  exact ⟨ha, hb, hreordered, hnumbers, hab, hsymm hab, hleft.trans hab, (hself hnumbers).1⟩

end Value

end DocPath
