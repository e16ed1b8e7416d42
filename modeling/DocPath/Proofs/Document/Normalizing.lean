import Mathlib.Data.List.Nodup
import DocPath.Proofs.Document.Reloading

/-!
# Nodes that loading and rendering leave as they are

Loading drops tags, takes large integers for floats and brings all keys down to strings and integers. A node
with none of these is plain, and rendering gives it back, whether or not symbols are wanted: a symbol is
spelled as it was read, and keys that differ stay apart. Rendering yields nothing but plain nodes, so what
loading and rendering make of a node stays as it is when this is done again.
-/

namespace DocPath

open DocPath.Yaml (Node)

namespace Yaml.Node

/-- The keys of plain mappings: strings, and integers of 64 bits with a sign. -/
inductive IsPlainKey : Node → Prop where
  | str (text : String) : IsPlainKey (.str text)
  | int (n : Int64) : IsPlainKey (.int n.toInt)

/-- A node without tags and without integers beyond the signed range, of which all mappings have plain keys,
each only once. -/
inductive Plain : Node → Prop where
  | null : Plain .null
  | bool (b : Bool) : Plain (.bool b)
  | int (n : Int64) : Plain (.int n.toInt)
  | float (x : Binary64) : Plain (.float x)
  | str (text : String) : Plain (.str text)
  | seq {items : List Node} (hitems : ∀ item ∈ items, Plain item) : Plain (.seq items)
  | map {entries : List (Node × Node)} (hdistinct : (entries.map Prod.fst).Nodup)
    (hkeys : ∀ entry ∈ entries, IsPlainKey entry.1) (hvalues : ∀ entry ∈ entries, Plain entry.2) :
    Plain (.map entries)

/-- What a node becomes by being loaded and rendered. -/
def normalize (symbolize : Bool) (node : Node) : Node := (Value.ofNode symbolize node).toNode

theorem IsPlainKey.eq_of_beq {key other : Node} (hkey : key.IsPlainKey)
    (hbeq : (key == other) = true) : key = other := by
  change equal key other = true at hbeq
  cases hkey <;> cases other <;> simp_all [equal]

theorem IsPlainKey.beq_self {key : Node} (hkey : key.IsPlainKey) : (key == key) = true := by
  change equal key key = true
  cases hkey <;> simp [equal]

/-- A mapping with plain keys is one that repeats no key. -/
theorem nodup_keys_iff {entries : List (Node × Node)}
    (hkeys : ∀ entry ∈ entries, entry.1.IsPlainKey) :
    (entries.map Prod.fst).Nodup ↔
      (entries.map Prod.fst).Pairwise fun earlier later => ¬ (earlier == later) = true := by
  have hplain : ∀ key ∈ entries.map Prod.fst, key.IsPlainKey := List.forall_mem_map.mpr hkeys
  constructor
  · intro hnodup
    apply hnodup.imp_of_mem
    intro key other hkey _ hne hbeq
    exact hne ((hplain key hkey).eq_of_beq hbeq)
  · intro hpairwise
    apply hpairwise.imp_of_mem
    rintro key _ hkey _ hdiffer rfl
    exact hdiffer (hplain key hkey).beq_self

theorem ofList_eq_self_of_plain {entries : List (Node × Node)}
    (hdistinct : (entries.map Prod.fst).Nodup) (hkeys : ∀ entry ∈ entries, entry.1.IsPlainKey) :
    Entries.ofList entries = entries :=
  Entries.ofList_eq_self (List.pairwise_map.mp ((nodup_keys_iff hkeys).mp hdistinct))

end Yaml.Node

/-! ## Plain nodes are rendered as they were -/

/-- Whether or not symbols are wanted, a text is loaded as a key, taken as a value, of that spelling. -/
theorem Value.exists_key_ofText (symbolize : Bool) (text : String) :
    ∃ key : Key, ofText symbolize text = key.toValue ∧ key.toNode = .str text := by
  cases symbolize with
  | true =>
      obtain ⟨key, hload, -, hnode⟩ := Key.exists_ofText_eq text
      exact ⟨key, hload, hnode⟩
  | false => exact ⟨.str text, rfl, rfl⟩

theorem Key.toNode_toValue (key : Key) : key.toValue.toNode = key.toNode := by
  cases key <;> rfl

/-- A plain key comes back as it was, whichever of strings are taken for symbols. -/
theorem Key.toNode_ofNodeValue {node : Node} (hplain : node.IsPlainKey) (symbolize : Bool) :
    (ofNodeValue node (Value.ofNode symbolize node)).toNode = node := by
  cases hplain with
  | str text =>
      obtain ⟨key, hload, hnode⟩ := Value.exists_key_ofText symbolize text
      rw [Value.ofNode, hload, ofNodeValue_toValue, hnode]
  | int n => rw [Value.ofNode, Value.ofInteger_toInt]; rfl

namespace Value

/-- A plain node comes back as it was. -/
theorem toNode_ofNode {node : Node} (hplain : node.Plain) (symbolize : Bool) :
    (ofNode symbolize node).toNode = node := by
  induction hplain with
  | null => rfl
  | bool b => rfl
  | int n => rw [ofNode, ofInteger_toInt]; rfl
  | float x => rfl
  | str text =>
      obtain ⟨key, hload, hnode⟩ := exists_key_ofText symbolize text
      rw [ofNode, hload, Key.toNode_toValue, hnode]
  | seq hitems ih =>
      rw [ofNode, toNode, ofNodes_eq_map, toNodes_eq_map, List.map_map]
      exact congrArg Node.seq ((List.map_congr_left ih).trans (List.map_id' _))
  | @map entries hdistinct hkeys hvalues ih =>
      have hload : ∀ entry ∈ entries,
          (Key.ofNodeValue entry.1 (ofNode symbolize entry.1)).toNode = entry.1 :=
        fun entry hentry => Key.toNode_ofNodeValue (hkeys entry hentry) symbolize
      -- Keys that were merged would be one node.
      have hnodup : ((entriesOfNodes symbolize entries).map Prod.fst).Nodup := by
        apply List.Nodup.of_map Key.toNode
        rw [entriesOfNodes_eq_map, List.map_map, List.map_map]
        exact (List.map_congr_left hload).symm ▸ hdistinct
      have hback : entriesToNodes (entriesOfNodes symbolize entries) = entries := by
        rw [entriesToNodes_eq_map, entriesOfNodes_eq_map, List.map_map]
        refine (List.map_congr_left ?_).trans (List.map_id' entries)
        intro entry hentry
        exact Prod.ext (hload entry hentry) (ih entry hentry)
      rw [ofNode, Entries.ofList_eq_self_of_nodup hnodup, toNode, hback,
        Node.ofList_eq_self_of_plain hdistinct hkeys]

/-! ## Only plain nodes are rendered -/

theorem isPlainKey_toNode (key : Key) : key.toNode.IsPlainKey := by
  cases key with
  | str text => exact .str text
  | symbol name => exact .str (":" ++ name)
  | int n => exact .int n

/-- What is rendered is plain, so nothing changes when it is loaded and rendered once more. -/
theorem plain_toNode (value : Value) : value.toNode.Plain := by
  induction value with
  | nil => exact .null
  | bool b => exact .bool b
  | int n => exact .int n
  | float x => exact .float x
  | str text => exact .str text
  | symbol name => exact .str (":" ++ name)
  | array items ih =>
      rw [toNode, toNodes_eq_map]
      exact .seq (List.forall_mem_map.mpr ih)
  | hash entries ih =>
      have hentries : ∀ entry ∈ Entries.ofList (entriesToNodes entries),
          entry.1.IsPlainKey ∧ entry.2.Plain := by
        apply Entries.forall_mem_ofList
        rw [entriesToNodes_eq_map, List.forall_mem_map]
        exact fun entry hentry => ⟨isPlainKey_toNode entry.1, ih entry hentry⟩
      have hkeys := fun entry hentry => (hentries entry hentry).1
      rw [toNode]
      refine .map ?_ hkeys fun entry hentry => (hentries entry hentry).2
      exact (Node.nodup_keys_iff hkeys).mpr (Entries.pairwise_keys_ofList _)
  | host object => exact .str _

end Value

namespace Yaml.Node

/-- The nodes that loading and rendering leave as they are, entries in their order, are the plain ones.
Rendering only yields these, so a second time changes nothing, even with another wish for symbols. -/
theorem normalize_eq_self_iff_plain (symbolize : Bool) (node : Node) :
    (node.normalize symbolize = node ↔ node.Plain) ∧
    (∀ value : Value, value.toNode.Plain) ∧
    ∀ symbolize', (node.normalize symbolize).normalize symbolize' = node.normalize symbolize := by
  refine ⟨⟨?_, ?_⟩, Value.plain_toNode, ?_⟩
  · intro hsame
    exact hsame ▸ Value.plain_toNode _
  · intro hplain
    exact Value.toNode_ofNode hplain symbolize
  · intro symbolize'
    exact Value.toNode_ofNode (Value.plain_toNode _) symbolize'

-- A null key and a tagged empty one become one key, whose entry keeps its place and takes the last value.
example : normalize true (.map [(.null, .int 1), (.str ":a", .null), (.tagged "t" (.str ""), .bool true)]) =
    .map [(.str "", .bool true), (.str ":a", .null)] := by
  rfl

end Yaml.Node

end DocPath
