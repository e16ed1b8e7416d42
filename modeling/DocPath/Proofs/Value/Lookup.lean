import DocPath.Proofs.Value.Consult
import DocPath.Proofs.Value.Equality
import DocPath.Value.Lookup

/-!
# Lookups in related values

Two values are alike when they are of one kind and what a key finds in one is related to what it finds in the
other. A relation that only holds between values that are alike is kept by every lookup. Equality is such a
relation, and so is being the same but for the order of entries, on values without host objects.
-/

namespace DocPath

theorem isSome_eq_of_rel {α β : Type} {r : α → β → Prop} {a : Option α} {b : Option β}
    (hrel : Option.Rel r a b) : a.isSome = b.isSome := by
  cases hrel <;> rfl

/-- Lists whose items are related have related items at every place, or both have none. -/
theorem forall₂_getElem? {α β : Type} {r : α → β → Prop} {items : List α} {others : List β}
    (hitems : List.Forall₂ r items others) (i : Nat) : Option.Rel r items[i]? others[i]? := by
  induction hitems generalizing i with
  | nil => exact .none
  | cons hitem hrest ih =>
      cases i with
      | zero => exact .some hitem
      | succ i => exact ih i

theorem rel_imp {α β : Type} {r s : α → β → Prop} (himp : ∀ a b, r a b → s a b) {a : Option α}
    {b : Option β} (hrel : Option.Rel r a b) : Option.Rel s a b := by
  cases hrel with
  | none => exact .none
  | some hab => exact .some (himp _ _ hab)

theorem rel_comp {α β γ : Type} {r : α → β → Prop} {s : β → γ → Prop} {t : α → γ → Prop}
    (hcomp : ∀ a b c, r a b → s b c → t a c) {a : Option α} {b : Option β} {c : Option γ}
    (hab : Option.Rel r a b) (hbc : Option.Rel s b c) : Option.Rel t a c := by
  cases hab with
  | none =>
      cases hbc with
      | none => exact .none
  | some hab =>
      cases hbc with
      | some hbc => exact .some (hcomp _ _ _ hab hbc)

theorem itemAt?_rel {α β : Type} {r : α → β → Prop} {items : List α} {others : List β}
    (hitems : List.Forall₂ r items others) (index : Int64) :
    Option.Rel r (itemAt? items index) (itemAt? others index) := by
  simp only [itemAt?, hitems.length_eq]
  generalize (if index.toInt < 0 then _ else _ : Int) = place
  split
  · exact .none
  · exact forall₂_getElem? hitems _

namespace Value

/-- Values of one kind, of which the items at each place or the values of each key are in relation. -/
inductive Alike (r : Value → Value → Prop) : Value → Value → Prop where
  | atom {a : Value} (hatom : a.IsAtom) : Alike r a a
  | float (x y : Binary64) : Alike r (.float x) (.float y)
  | array {items others : List Value} (hitems : List.Forall₂ r items others) :
    Alike r (.array items) (.array others)
  | hash {entries others : List (Key × Value)}
    (hentries : ∀ key, Option.Rel r (Entries.get? key entries) (Entries.get? key others)) :
    Alike r (.hash entries) (.hash others)

/-- A relation that holds only between values that are alike under it, and between each atom and itself. -/
structure LookupRelation (r : Value → Value → Prop) : Prop where
  alike : ∀ {a b : Value}, r a b → Alike r a b
  atom : ∀ {a : Value}, a.IsAtom → r a a

/-! ## Looking keys up -/

section

variable (hosts : Hosts)

/-- What is found in a text is again a text, or nothing. -/
theorem isAtom_of_indexText {text : String} {key : Key} {value : Value}
    (hindex : indexText text key = .ok value) : value.IsAtom := by
  cases key with
  | str needle =>
      rw [indexText, Except.ok.injEq] at hindex
      rw [← hindex]
      split <;> trivial
  | symbol name => cases hindex
  | int i =>
      rw [indexText, Except.ok.injEq] at hindex
      rw [← hindex]
      cases itemAt? text.toList i <;> trivial

/-- No host object is needed for a key of an atom, and what is found is an atom again. -/
theorem exists_index_eq_of_isAtom {a : Value} (hatom : a.IsAtom) (key : Key) :
    ∃ result, a.index hosts key = .ofExcept result ∧ ∀ value, result = .ok value → value.IsAtom := by
  cases a with
  | nil => exact ⟨_, rfl, nofun⟩
  | bool b => exact ⟨_, rfl, nofun⟩
  | int n =>
      cases key with
      | int bit => exact ⟨.ok _, rfl, by rintro value ⟨⟩; trivial⟩
      | _ => exact ⟨_, rfl, nofun⟩
  | str text => exact ⟨_, rfl, fun value => isAtom_of_indexText⟩
  | symbol name => exact ⟨_, rfl, fun value => isAtom_of_indexText⟩
  | _ => cases hatom

namespace LookupRelation

variable {r : Value → Value → Prop} {a b : Value}

theorem ofOption (hr : LookupRelation r) {outcome outcome' : Option Value}
    (hrel : Option.Rel r outcome outcome') : r (.ofOption outcome) (.ofOption outcome') := by
  cases hrel with
  | none => exact hr.atom trivial
  | some hab => exact hab

/-- Related values are related as outcomes: if one is absent, so is the other. -/
theorem toOption (hr : LookupRelation r) (hab : r a b) : Option.Rel r a.toOption b.toOption := by
  cases hr.alike hab with
  | atom hatom =>
      cases a with
      | nil => exact .none
      | _ => exact .some hab
  | float x y => exact .some hab
  | array hitems => exact .some hab
  | hash hentries => exact .some hab

/-- Related values both can tell which keys they have, or neither can. -/
theorem hasPresence_eq (hr : LookupRelation r) (hab : r a b) (earlier : List HostCall) :
    a.hasPresence hosts earlier = b.hasPresence hosts earlier := by
  cases hr.alike hab <;> rfl

theorem hasKey_eq (hr : LookupRelation r) (hab : r a b) (key : Key) :
    a.hasKey hosts key = b.hasKey hosts key := by
  cases hr.alike hab with
  | hash hentries =>
      rw [hasKey, hasKey, Entries.contains, Entries.contains, isSome_eq_of_rel (hentries key)]
  | _ => rfl

/-- What a key finds in related values is related. -/
theorem index_agree (hr : LookupRelation r) (hab : r a b) (key : Key) :
    Consult.Agree r (a.index hosts key) (b.index hosts key) := by
  cases hr.alike hab with
  | atom hatom =>
      obtain ⟨result, hindex, hresult⟩ := exists_index_eq_of_isAtom hosts hatom key
      rw [hindex]
      exact Consult.agree_ofExcept fun value hvalue => hr.atom (hresult value hvalue)
  | float x y => exact Consult.agree_ofExcept nofun
  | array hitems =>
      cases key with
      | int i => exact Consult.agree_pure (hr.ofOption (itemAt?_rel hitems i))
      | _ => exact Consult.agree_ofExcept nofun
  | hash hentries => exact Consult.agree_pure (hr.ofOption (hentries key))

end LookupRelation

end

/-! ## Equality and reordering -/

theorem Alike.trans {r : Value → Value → Prop} (htrans : ∀ a b c, r a b → r b c → r a c)
    {a b c : Value} (first : Alike r a b) (second : Alike r b c) : Alike r a c := by
  cases first with
  | atom hatom => exact second
  | float x y =>
      cases second with
      | atom hatom => cases hatom
      | float y z => exact .float x z
  | array hitems =>
      cases second with
      | atom hatom => cases hatom
      | array hothers => exact .array (forall₂_comp htrans hitems hothers)
  | hash hentries =>
      cases second with
      | atom hatom => cases hatom
      | hash hothers =>
          exact .hash fun key => rel_comp htrans (hentries key) (hothers key)

/-- A value as documents have it: no host object, and a hash repeats no key. -/
def IsData (value : Value) : Prop := value.DistinctKeys ∧ ∀ object, value ≠ .host object

theorem isData_of_isAtom {a : Value} (hatom : a.IsAtom) : a.Everywhere IsData := by
  cases a with
  | nil => simp [IsData, DistinctKeys]
  | bool b => simp [IsData, DistinctKeys]
  | int n => simp [IsData, DistinctKeys]
  | str text => simp [IsData, DistinctKeys]
  | symbol name => simp [IsData, DistinctKeys]
  | _ => cases hatom

theorem isData_of_get? {entries : List (Key × Value)} (hdata : (hash entries).Everywhere IsData)
    {key : Key} {value : Value} (hget : Entries.get? key entries = some value) :
    value.Everywhere IsData :=
  (everywhere_hash.mp hdata).2 _ (Entries.mem_of_get? hget)

/-- A hash that is data is looked up with the same result if every value in it is related to itself. -/
theorem get?_rel_self {r : Value → Value → Prop} {entries : List (Key × Value)}
    (hdata : (hash entries).Everywhere IsData)
    (hself : ∀ {value : Value}, value.Everywhere IsData → r value value) (key : Key) :
    Option.Rel r (Entries.get? key entries) (Entries.get? key entries) := by
  cases hget : Entries.get? key entries with
  | none => exact .none
  | some value => exact .some (hself (isData_of_get? hdata hget))

/-- Data is like itself if all of it is related to itself. -/
theorem alike_self {r : Value → Value → Prop} {a : Value} (hdata : a.Everywhere IsData)
    (hself : ∀ {value : Value}, value.Everywhere IsData → r value value) : Alike r a a := by
  cases a with
  | array items =>
      rw [everywhere_array] at hdata
      exact .array (List.forall₂_same.mpr fun item hitem => hself (hdata.2 item hitem))
  | hash entries => exact .hash (get?_rel_self hdata hself)
  | float x => exact .float x x
  | host object => exact absurd rfl ((everywhere_iff.mp hdata).1.2 object)
  | _ => exact .atom (by trivial)

/-- Equality of data is one of the relations that lookups respect. -/
theorem lookupRelation_equal :
    LookupRelation fun a b => a.Everywhere IsData ∧ equal a b = true where
  atom hatom := ⟨isData_of_isAtom hatom, equal_self_of_isAtom hatom⟩
  alike := by
    rintro a b ⟨hdata, hequal⟩
    cases a with
    | array items =>
        obtain ⟨others, rfl, hitems⟩ := exists_array_of_equal hequal
        rw [everywhere_array] at hdata
        exact .array ((List.forall₂_and_left _ _).mpr ⟨hdata.2, hitems⟩)
    | hash entries =>
        obtain ⟨others, rfl, hequal⟩ := exists_hash_of_equal hequal
        have hkeys := perm_keys_of_equal (everywhere_hash.mp hdata).1.1 hequal
        refine .hash fun key => ?_
        cases hget : Entries.get? key entries with
        | none =>
            have hmissing : Entries.get? key others = none := by
              rw [Entries.get?_eq_none_iff, ← hkeys.mem_iff, ← Entries.get?_eq_none_iff]
              exact hget
            rw [hmissing]
            exact .none
        | some value =>
            obtain ⟨other, hget', hvalue⟩ := (equal_hash_iff.mp hequal).2 _ (Entries.mem_of_get? hget)
            rw [hget']
            exact .some ⟨isData_of_get? hdata hget, hvalue⟩
    | float x =>
        obtain ⟨y, rfl, -⟩ := exists_float_of_equal hequal
        exact .float x y
    | host object => exact absurd rfl ((everywhere_iff.mp hdata).1.2 object)
    | _ =>
        obtain rfl := eq_of_equal (by trivial) hequal
        exact .atom (by trivial)

/-- Another order of entries leaves data without hosts and without repeated keys. -/
theorem Reordered.isData {a b : Value} (hreordered : Reordered a b) (ha : a.IsData) : b.IsData := by
  refine ⟨hreordered.distinctKeys ha.1, ?_⟩
  obtain ⟨-, hhost⟩ := ha
  induction hreordered with
  | refl value => exact hhost
  | trans first second ih ih' => exact ih' (ih hhost)
  | _ => nofun

theorem lookupRelation_reordered :
    LookupRelation fun a b => a.Everywhere IsData ∧ Reordered a b where
  atom hatom := ⟨isData_of_isAtom hatom, .refl _⟩
  alike := by
    rintro a b ⟨hdata, hreordered⟩
    induction hreordered with
    | refl value => exact alike_self hdata fun hvalue => ⟨hvalue, .refl _⟩
    | trans first second ih ih' =>
        refine (ih hdata).trans ?_ (ih' (first.everywhere Reordered.isData hdata))
        rintro a b c ⟨ha, hab⟩ ⟨-, hbc⟩
        exact ⟨ha, hab.trans hbc⟩
    | entries hperm =>
        have hkeys := (everywhere_hash.mp hdata).1.1
        refine .hash fun key => ?_
        rw [← Entries.get?_perm hperm hkeys]
        exact get?_rel_self hdata (fun hvalue => ⟨hvalue, .refl _⟩) key
    | item before after inner ih =>
        obtain ⟨-, hitems⟩ := everywhere_array.mp hdata
        obtain ⟨hbefore, hrest⟩ := List.forall_mem_append.mp hitems
        obtain ⟨hitem, hafter⟩ := List.forall_mem_cons.mp hrest
        apply Alike.array
        apply List.rel_append
        · exact List.forall₂_same.mpr fun item hmem => ⟨hbefore item hmem, .refl item⟩
        · refine .cons ⟨hitem, inner⟩ ?_
          exact List.forall₂_same.mpr fun item hmem => ⟨hafter item hmem, .refl item⟩
    | entry before after key inner ih =>
        obtain ⟨-, hentries⟩ := everywhere_hash.mp hdata
        obtain ⟨hbefore, hrest⟩ := List.forall_mem_append.mp hentries
        obtain ⟨hentry, hafter⟩ := List.forall_mem_cons.mp hrest
        refine .hash fun key => Entries.get?_rel ?_ key
        apply List.rel_append
        · exact List.forall₂_same.mpr fun entry hmem => ⟨rfl, hbefore entry hmem, .refl _⟩
        · refine .cons ⟨rfl, hentry, inner⟩ ?_
          exact List.forall₂_same.mpr fun entry hmem => ⟨rfl, hafter entry hmem, .refl _⟩

end Value

end DocPath
