import Mathlib.Data.List.Forall2
import DocPath.Proofs.Path.ArrayIndex
import DocPath.Proofs.Path.RoundTrip
import DocPath.Proofs.Value.Depth
import DocPath.Proofs.Value.Dispatch

/-!
# Leaves of nested arrays

A row of indices leads through nested arrays to a leaf, a value that is no array; nothing else is entered. A flat
list has the leaves in the lexicographic order of their rows, each of them at its place. The path of the indices
leads to the same leaf, with absence for nil. As a flat list has no array in it, flattening it again changes nothing.
-/

namespace DocPath.Value

/-! ## Leaves and their rows -/

/-- A row of indices leads from a value to a leaf, with arrays on the way and no array at the end. -/
inductive LeafAt : Value → List Nat → Value → Prop where
  | here {leaf : Value} (hleaf : leaf.isArray = false) : LeafAt leaf [] leaf
  | inside {items : List Value} {i : Nat} {item leaf : Value} {row : List Nat} (hitem : items[i]? = some item)
    (hrow : LeafAt item row leaf) : LeafAt (.array items) (i :: row) leaf

mutual

/-- The rows of the leaves of a value, where leaves of an array are listed item by item. -/
def leafRows : Value → List (List Nat)
  | .array items => leafRowsFrom 0 items
  | _ => [[]]

/-- The rows of the leaves of items, of which the first has the given index. -/
def leafRowsFrom (first : Nat) : List Value → List (List Nat)
  | [] => []
  | item :: rest => (leafRows item).map (first :: ·) ++ leafRowsFrom (first + 1) rest

end

theorem leaves_eq_singleton {leaf : Value} (hleaf : leaf.isArray = false) : leaves leaf = [leaf] := by
  cases leaf with
  | array items => cases hleaf
  | _ => rfl

theorem leafRows_eq_singleton {leaf : Value} (hleaf : leaf.isArray = false) : leafRows leaf = [[]] := by
  cases leaf with
  | array items => cases hleaf
  | _ => rfl

theorem LeafAt.isArray_eq_false {value leaf : Value} {row : List Nat} (hrow : LeafAt value row leaf) :
    leaf.isArray = false := by
  induction hrow with
  | here hleaf => exact hleaf
  | inside _ _ ih => exact ih

theorem LeafAt.row_ne_nil {items : List Value} {leaf : Value} {row : List Nat} (hrow : LeafAt (array items) row leaf) :
    row ≠ [] := by
  cases hrow with
  | here hleaf => cases hleaf
  | inside => exact List.cons_ne_nil _ _

/-- The ways into the items, of which the first has the given place, lead to the leaves of the items, in order. -/
theorem forall₂_leafRowsFrom (before : List Value) {rest : List Value}
    (hrest : ∀ item ∈ rest, List.Forall₂ (LeafAt item) (leafRows item) (leaves item)) :
    List.Forall₂ (LeafAt (.array (before ++ rest))) (leafRowsFrom before.length rest) (flatten rest) := by
  induction rest generalizing before with
  | nil => exact .nil
  | cons item rest ih =>
      obtain ⟨hitem, hrest⟩ := List.forall_mem_cons.mp hrest
      have hplace : (before ++ item :: rest)[before.length]? = some item := by simp
      have hlater := ih (before ++ [item]) hrest
      rw [List.append_assoc, List.singleton_append, List.length_append, List.length_singleton] at hlater
      refine List.rel_append ?_ hlater
      rw [List.forall₂_map_left_iff]
      exact hitem.imp fun _ _ hrow => .inside hplace hrow

/-- The leaves of a value are at the ends of its rows. -/
theorem forall₂_leafRows (value : Value) : List.Forall₂ (LeafAt value) (leafRows value) (leaves value) := by
  induction value with
  | array items ih => exact forall₂_leafRowsFrom [] ih
  | _ => exact .cons (.here rfl) .nil

theorem mem_leafRowsFrom {items : List Value} {i : Nat} {item : Value} {row : List Nat} (hitem : items[i]? = some item)
    (hrow : row ∈ leafRows item) (first : Nat) : (first + i) :: row ∈ leafRowsFrom first items := by
  induction items generalizing first i with
  | nil => cases hitem
  | cons head rest ih =>
      cases i with
      | zero =>
          obtain rfl := Option.some.inj hitem
          exact List.mem_append_left _ (List.mem_map_of_mem hrow)
      | succ i =>
          have hlater := ih hitem (first + 1)
          rw [Nat.add_assoc, Nat.add_comm 1] at hlater
          exact List.mem_append_right _ hlater

/-- All ways to leaves are listed. -/
theorem mem_leafRows_iff {value : Value} {row : List Nat} : row ∈ leafRows value ↔ ∃ leaf, LeafAt value row leaf := by
  constructor
  · intro hmem
    obtain ⟨place, hplace, rfl⟩ := List.getElem_of_mem hmem
    have hrows := forall₂_leafRows value
    exact ⟨_, hrows.get hplace (hrows.length_eq ▸ hplace)⟩
  · rintro ⟨leaf, hrow⟩
    induction hrow with
    | here hleaf => exact leafRows_eq_singleton hleaf ▸ List.mem_singleton_self _
    | inside hitem _ ih =>
        have hplace := mem_leafRowsFrom hitem ih 0
        rwa [Nat.zero_add] at hplace

theorem exists_le_of_mem_leafRowsFrom {first : Nat} {items : List Value} {row : List Nat}
    (hrow : row ∈ leafRowsFrom first items) : ∃ i rest, row = i :: rest ∧ first ≤ i := by
  induction items generalizing first with
  | nil => cases hrow
  | cons item rest ih =>
      rcases List.mem_append.mp hrow with hitem | hlater
      · obtain ⟨behind, -, rfl⟩ := List.mem_map.mp hitem
        exact ⟨first, behind, rfl, Nat.le_refl _⟩
      · obtain ⟨i, behind, rfl, hle⟩ := ih hlater
        exact ⟨i, behind, rfl, Nat.le_of_succ_le hle⟩

/-- The ways into items are in order, since those into one are and the places of the items grow. -/
theorem pairwise_leafRowsFrom {items : List Value}
    (hitems : ∀ item ∈ items, (leafRows item).Pairwise (List.Lex (· < ·))) (first : Nat) :
    (leafRowsFrom first items).Pairwise (List.Lex (· < ·)) := by
  induction items generalizing first with
  | nil => exact .nil
  | cons item rest ih =>
      obtain ⟨hitem, hrest⟩ := List.forall_mem_cons.mp hitems
      refine List.pairwise_append.mpr ⟨?_, ih hrest (first + 1), ?_⟩
      · exact List.pairwise_map.mpr (hitem.imp fun hlt => .cons hlt)
      · intro row hrow later hlater
        obtain ⟨behind, -, rfl⟩ := List.mem_map.mp hrow
        obtain ⟨i, behind', rfl, hle⟩ := exists_le_of_mem_leafRowsFrom hlater
        exact .rel hle

/-- The rows are in strict lexicographic order, so no row is there twice. -/
theorem pairwise_leafRows (value : Value) : (leafRows value).Pairwise (List.Lex (· < ·)) := by
  induction value with
  | array items ih => exact pairwise_leafRowsFrom ih 0
  | _ => exact List.pairwise_singleton _ _

/-! ## Flat lists -/

/-- No array is left in a flat list. -/
theorem isArray_eq_false_of_mem_flatten {items : List Value} {leaf : Value} (hleaf : leaf ∈ flatten items) :
    leaf.isArray = false := by
  obtain ⟨place, hplace, rfl⟩ := List.getElem_of_mem hleaf
  have hrows : List.Forall₂ _ _ (flatten items) := forall₂_leafRows (array items)
  exact (hrows.get (hrows.length_eq ▸ hplace) hplace).isArray_eq_false

theorem flatten_eq_self {items : List Value} (hitems : ∀ item ∈ items, item.isArray = false) :
    flatten items = items := by
  induction items with
  | nil => rfl
  | cons item rest ih =>
      obtain ⟨hitem, hrest⟩ := List.forall_mem_cons.mp hitems
      rw [flatten, leaves_eq_singleton hitem, ih hrest, List.singleton_append]

end DocPath.Value

namespace DocPath.Path

open Value (LeafAt flatten leafRows)

/-! ## Paths of indices -/

/-- The segment that takes one index. -/
def indexSegment (i : Nat) : Segment := ⟨.arrayIndex (UInt64.ofNat i), false⟩

/-- The text of a path of indices, with each of them in brackets. -/
def indexExpression (row : List Nat) : String := String.join (row.map fun i => "[" ++ toString i ++ "]")

section

variable {i : Nat} (hi : i < signedBound)

include hi

theorem toNat_ofNat_of_lt_signedBound : (UInt64.ofNat i).toNat = i :=
  UInt64.toNat_ofNat_of_lt' (Nat.lt_trans hi (by decide))

theorem indexSegment_render : (indexSegment i).render = "[" ++ toString i ++ "]" := by
  simp [Segment.render, indexSegment, toNat_ofNat_of_lt_signedBound hi]

/-- An item of an array is what its index comes to. -/
theorem advance_indexSegment (hosts : Hosts) {items : List Value} {item : Value} (hitem : items[i]? = some item)
    (position : Nat) (earlier : List HostCall) :
    (indexSegment i).advance hosts position (some (.array items)) earlier = ⟨[], .ok item.toOption⟩ := by
  have hword := toNat_ofNat_of_lt_signedBound hi
  have hdata : ∀ object, Value.array items ≠ .host object := by simp
  have happly := arrayIndex_apply_of_lt hosts (hword.symm ▸ hi) hdata earlier
  rw [hword, Value.atIndex, hitem] at happly
  rw [Segment.advance, Segment.applyAt, Consult.mapError, indexSegment, happly]
  rfl

end

/-- The expression of a way is compiled to it. -/
theorem parse_indexExpression {row : List Nat} (hrow : ∀ i ∈ row, i < signedBound) :
    Path.parse (indexExpression row) = .ok ⟨row.map indexSegment⟩ := by
  have htext : indexExpression row = Path.render ⟨row.map indexSegment⟩ := by
    apply String.toList_injective
    rw [toList_render, indexExpression, List.flatMap_map, String.toList_join, List.flatMap_map]
    exact List.flatMap_congr fun i hi => congrArg String.toList (indexSegment_render (hrow i hi)).symm
  rw [htext]
  refine parse_render_of_expressible fun segment hsegment => ?_
  obtain ⟨i, -, rfl⟩ := List.mem_map.mp hsegment
  trivial

/-- A row of indices comes to the leaf at its end, wherever in a path it starts. -/
theorem evaluateFrom_indexSegments (hosts : Hosts) {value leaf : Value} {row : List Nat} (hleaf : LeafAt value row leaf)
    (hrow : ∀ i ∈ row, i < signedBound) (position : Nat) (earlier : List HostCall) :
    evaluateFrom hosts position value.toOption (row.map indexSegment) earlier = ⟨[], .ok leaf.toOption⟩ := by
  induction hleaf generalizing position with
  | here => rfl
  | @inside items i item leaf row hitem hleaf ih =>
      obtain ⟨hi, hrow⟩ := List.forall_mem_cons.mp hrow
      have hadvance := advance_indexSegment hi hosts hitem position earlier
      have hpresent : (Value.array items).toOption = some (.array items) := rfl
      rw [List.map_cons, evaluateFrom, hpresent, Consult.bind_apply_of_ok hadvance, List.append_nil, ih hrow]
      rfl

/-- The path of the way to a leaf leads there, without a call. -/
theorem apply_indexSegments (hosts : Hosts) {value leaf : Value} {row : List Nat} (hleaf : LeafAt value row leaf)
    (hrow : ∀ i ∈ row, i < signedBound) (earlier : List HostCall) :
    ∃ path, Path.parse (indexExpression row) = .ok path ∧
      path.apply hosts value earlier = ⟨[], .ok leaf.toOption⟩ :=
  ⟨⟨row.map indexSegment⟩, parse_indexExpression hrow, evaluateFrom_indexSegments hosts hleaf hrow 0 earlier⟩

/-- A flat list has the leaves of an array in the lexicographic order of their rows, each once; every row takes at
least one index. The leaves are no arrays, so flattening again changes nothing. The path of a row comes to its leaf,
with absence for nil; this needs indices of the signed range, as all in memory are. -/
theorem send_flatten (hosts : Hosts) (items : List Value) (earlier : List HostCall) :
    ∃ (rows : List (List Nat)) (flat : List Value),
      (Value.array items).send hosts "flatten" earlier = ⟨[], .ok (.array flat)⟩ ∧
      List.Forall₂ (LeafAt (.array items)) rows flat ∧
      rows.Pairwise (List.Lex (· < ·)) ∧
      (∀ row, row ∈ rows ↔ row ≠ [] ∧ ∃ leaf, LeafAt (.array items) row leaf) ∧
      (∀ row leaf, LeafAt (.array items) row leaf → (∀ i ∈ row, i < signedBound) →
        ∃ path, Path.parse (indexExpression row) = .ok path ∧
          path.apply hosts (.array items) earlier = ⟨[], .ok leaf.toOption⟩) ∧
      (∀ leaf ∈ flat, leaf.isArray = false) ∧
      (Value.array flat).send hosts "flatten" earlier = ⟨[], .ok (.array flat)⟩ := by
  have hsend : ∀ items, (Value.array items).send hosts "flatten" earlier = ⟨[], .ok (.array (flatten items))⟩ :=
    fun items => Value.send_of_ownMethod hosts (by simp) rfl earlier
  have hleaves : ∀ leaf ∈ flatten items, leaf.isArray = false :=
    fun _ hleaf => Value.isArray_eq_false_of_mem_flatten hleaf
  refine ⟨leafRows (.array items), flatten items, hsend items, Value.forall₂_leafRows (.array items),
    Value.pairwise_leafRows (.array items), fun row => ?_, ?_, hleaves, ?_⟩
  · rw [Value.mem_leafRows_iff]
    exact ⟨fun ⟨leaf, hleaf⟩ => ⟨hleaf.row_ne_nil, leaf, hleaf⟩, And.right⟩
  · exact fun row leaf hleaf hrow => apply_indexSegments hosts hleaf hrow earlier
  · rw [hsend, Value.flatten_eq_self hleaves]

/-- A hash at depth three, behind nil and an array without leaves. -/
theorem send_flatten_of_hash :
    let hosts : Hosts := ⟨fun _ _ _ => .ok .nil, fun _ _ _ => .ok .nil, fun _ _ => false, fun _ _ _ => false⟩
    let whole : Value := .hash [(.str "list", .array [.nil])]
    let items : List Value := [.nil, .array [], .array [.int 1, .array [whole]]]
    (∀ i ∈ [2, 1, 0], i < signedBound) ∧ LeafAt (.array items) [2, 1, 0] whole ∧
      (∃ path, Path.parse "[2][1][0]" = .ok path ∧ path.apply hosts (.array items) [] = ⟨[], .ok (some whole)⟩) ∧
      ∃ flat, (Value.array items).send hosts "flatten" [] = ⟨[], .ok (.array flat)⟩ ∧
        (Value.array flat).send hosts "flatten" [] = ⟨[], .ok (.array flat)⟩ := by
  intro hosts whole items
  have hrow : ∀ i ∈ [2, 1, 0], i < signedBound := by decide
  have hleaf : LeafAt (.array items) [2, 1, 0] whole := .inside rfl (.inside rfl (.inside rfl (.here rfl)))
  obtain ⟨_, flat, hflat, -, -, -, hpaths, -, hagain⟩ := send_flatten hosts items []
  exact ⟨hrow, hleaf, hpaths [2, 1, 0] whole hleaf hrow, flat, hflat, hagain⟩

end DocPath.Path
