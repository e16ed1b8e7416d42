import DocPath.Value.Basic

/-!
# Values at every depth

A value is reached from another one through the items of arrays and the values of hashes. What holds at every
depth of a value holds of the value and at every depth of its children.
-/

namespace DocPath.Value

/-- Induction on a value: on the items of an array and on the values in a hash. -/
@[elab_as_elim, induction_eliminator]
theorem induction {motive : Value → Prop} (nil : motive .nil) (bool : ∀ b, motive (.bool b))
    (int : ∀ n, motive (.int n)) (float : ∀ x, motive (.float x)) (str : ∀ text, motive (.str text))
    (symbol : ∀ name, motive (.symbol name))
    (array : ∀ items, (∀ item ∈ items, motive item) → motive (.array items))
    (hash : ∀ entries, (∀ entry ∈ entries, motive entry.2) → motive (.hash entries))
    (host : ∀ object, motive (.host object)) : ∀ value, motive value
  | .nil => nil
  | .bool b => bool b
  | .int n => int n
  | .float x => float x
  | .str text => str text
  | .symbol name => symbol name
  | .array items => array items fun item _ =>
      induction nil bool int float str symbol array hash host item
  | .hash entries => hash entries fun entry _ =>
      induction nil bool int float str symbol array hash host entry.2
  | .host object => host object
termination_by value => sizeOf value
decreasing_by
  · have hitem : sizeOf item < sizeOf items := List.sizeOf_lt_of_mem ‹item ∈ items›
    simp only [Value.array.sizeOf_spec]
    omega
  · have hentry : sizeOf entry < sizeOf entries := List.sizeOf_lt_of_mem ‹entry ∈ entries›
    have hvalue : sizeOf entry.2 < sizeOf entry := by
      obtain ⟨key, value⟩ := entry
      simp only [Prod.mk.sizeOf_spec]
      omega
    simp only [Value.hash.sizeOf_spec]
    omega

/-- The items of an array and the values in a hash; other values have no children. -/
@[simp, reducible] def children : Value → List Value
  | .array items => items
  | .hash entries => entries.map Prod.snd
  | .nil | .bool _ | .int _ | .float _ | .str _ | .symbol _ | .host _ => []

/-- A value occurs in itself and in whatever has it at some depth. -/
inductive OccursIn (inner : Value) : Value → Prop where
  | here : OccursIn inner inner
  | inside {outer child : Value} (hchild : child ∈ outer.children) (hinner : OccursIn inner child) :
    OccursIn inner outer

/-- A property of a value and of all that occurs in it. -/
def Everywhere (p : Value → Prop) (value : Value) : Prop := ∀ inner, inner.OccursIn value → p inner

/-- A property holds everywhere in a value if it holds of the value and everywhere in its children. -/
theorem everywhere_iff {p : Value → Prop} {value : Value} :
    value.Everywhere p ↔ p value ∧ ∀ child ∈ value.children, child.Everywhere p := by
  constructor
  · intro h
    exact ⟨h value .here, fun child hchild inner hinner => h inner (.inside hchild hinner)⟩
  · rintro ⟨hself, hchildren⟩ inner hinner
    cases hinner with
    | here => exact hself
    | inside hchild hinner => exact hchildren _ hchild inner hinner

@[simp] theorem everywhere_array {p : Value → Prop} {items : List Value} :
    (array items).Everywhere p ↔ p (array items) ∧ ∀ item ∈ items, item.Everywhere p :=
  everywhere_iff

@[simp] theorem everywhere_hash {p : Value → Prop} {entries : List (Key × Value)} :
    (hash entries).Everywhere p ↔ p (hash entries) ∧ ∀ entry ∈ entries, entry.2.Everywhere p := by
  rw [everywhere_iff, children, List.forall_mem_map]

@[simp] theorem everywhere_of_children_eq_nil {p : Value → Prop} {value : Value}
    (hleaf : value.children = []) : value.Everywhere p ↔ p value := by
  rw [everywhere_iff, hleaf]
  exact and_iff_left (List.forall_mem_nil _)

/-- A value does not occur in another if everything in that differs from it. -/
theorem not_occursIn_iff {inner outer : Value} :
    ¬ inner.OccursIn outer ↔ outer.Everywhere (· ≠ inner) := by
  constructor
  · rintro hnot other hother rfl
    exact hnot hother
  · intro hne hoccurs
    exact hne inner hoccurs rfl

/-- A hash whose keys are pairwise distinct, or a value of another kind. -/
def DistinctKeys : Value → Prop
  | .hash entries => (entries.map Prod.fst).Nodup
  | _ => True

end DocPath.Value
