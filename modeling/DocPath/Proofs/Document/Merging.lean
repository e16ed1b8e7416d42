import DocPath.Proofs.Document.Normalizing
import DocPath.Proofs.Document.Symbolizing
import DocPath.Proofs.Value.IntegerText

/-!
# Entries that rendering merges

Keys that differ may be rendered alike: a symbol as the string that it is spelled as, and in JSON, where all names
are strings, an integer as the string of its digits. Entries of such keys become one, which has the value of the
last of them. In YAML it stands at the place of the first; in JSON the members are in the order of their names.
Nothing else is lost, since no other keys are rendered alike.
-/

namespace DocPath

open DocPath.Yaml (Node)

/-! ## Keys that are rendered alike -/

namespace Key

/-- A symbol and the string that it is spelled as. -/
inductive SpelledAlike : Key → Key → Prop where
  | symbol (name : String) : SpelledAlike (.symbol name) (.str (":" ++ name))

/-- Keys that are spelled alike, or an integer and the string of its digits. -/
inductive LabelledAlike : Key → Key → Prop where
  | spelled {key other : Key} (hspelled : SpelledAlike key other) : LabelledAlike key other
  | int (n : Int64) : LabelledAlike (.int n) (.str (toString n.toInt))

theorem SpelledAlike.ne {key other : Key} (h : SpelledAlike key other) : key ≠ other := by
  cases h
  nofun

theorem LabelledAlike.ne {key other : Key} (h : LabelledAlike key other) : key ≠ other := by
  cases h with
  | spelled hspelled => exact hspelled.ne
  | int n => nofun

theorem SpelledAlike.eraseSymbol_eq {key other : Key} (h : SpelledAlike key other) :
    key.eraseSymbol = other.eraseSymbol := by
  cases h
  rfl

theorem toNode_eq_of_eraseSymbol_eq {key other : Key} (heq : key.eraseSymbol = other.eraseSymbol) :
    key.toNode = other.toNode := by
  rw [← toNode_eraseSymbol, heq, toNode_eraseSymbol]

theorem LabelledAlike.label_eq {key other : Key} (h : LabelledAlike key other) : key.label = other.label := by
  cases h with
  | spelled hspelled =>
      cases hspelled
      rfl
  | int n => rfl

/-- Different keys have one node only as a string and a symbol spelled alike. -/
theorem toNode_eq_iff {key other : Key} (hne : key ≠ other) :
    key.toNode = other.toNode ↔ SpelledAlike key other ∨ SpelledAlike other key := by
  constructor
  · intro heq
    cases key with
    | str text =>
        cases other with
        | str text' =>
            have htext : text = text' := Node.str.inj heq
            exact absurd (congrArg str htext) hne
        | symbol name' =>
            obtain rfl : text = ":" ++ name' := Node.str.inj heq
            exact .inr (.symbol name')
        | int n' => cases heq
    | symbol name =>
        cases other with
        | str text' =>
            obtain rfl : ":" ++ name = text' := Node.str.inj heq
            exact .inl (.symbol name)
        | symbol name' =>
            have hname : name = name' := by simpa [toNode, label] using heq
            exact absurd (congrArg symbol hname) hne
        | int n' => cases heq
    | int n =>
        cases other with
        | int n' => exact absurd (congrArg int (Int64.toInt_inj.mp (Node.int.inj heq))) hne
        | _ => cases heq
  · rintro (h | h)
    · exact toNode_eq_of_eraseSymbol_eq h.eraseSymbol_eq
    · exact toNode_eq_of_eraseSymbol_eq h.eraseSymbol_eq.symm

/-- Different keys have one label only as a string and a symbol or an integer labelled alike. -/
theorem label_eq_iff {key other : Key} (hne : key ≠ other) :
    key.label = other.label ↔ LabelledAlike key other ∨ LabelledAlike other key := by
  constructor
  · intro heq
    -- Without integers, the names are the whole keys.
    have hspelled (hnode : key.toNode = other.toNode) : LabelledAlike key other ∨ LabelledAlike other key :=
      ((toNode_eq_iff hne).mp hnode).imp .spelled .spelled
    cases key with
    | int n =>
        cases other with
        | str text' =>
            obtain rfl : toString n.toInt = text' := heq
            exact .inl (.int n)
        | symbol name' => exact absurd heq (integerText_ne_colon n name')
        | int n' => exact absurd (congrArg int (integerText_inj.mp heq)) hne
    | str text =>
        cases other with
        | int n' =>
            obtain rfl : text = toString n'.toInt := heq
            exact .inr (.int n')
        | _ => exact hspelled (congrArg Node.str heq)
    | symbol name =>
        cases other with
        | int n' => exact absurd heq.symm (integerText_ne_colon n' name)
        | _ => exact hspelled (congrArg Node.str heq)
  · rintro (h | h)
    · exact h.label_eq
    · exact h.label_eq.symm

/-- Nodes of keys tell apart what is different without symbols, and nothing else. -/
theorem toNode_eq_toNode_iff {key other : Key} :
    key.toNode = other.toNode ↔ key.eraseSymbol = other.eraseSymbol := by
  refine ⟨fun heq => ?_, toNode_eq_of_eraseSymbol_eq⟩
  by_cases hsame : key = other
  · rw [hsame]
  · rcases (toNode_eq_iff hsame).mp heq with h | h
    · exact h.eraseSymbol_eq
    · exact h.eraseSymbol_eq.symm

theorem toNode_beq_toNode (key other : Key) :
    (key.toNode == other.toNode) = (key.eraseSymbol == other.eraseSymbol) := by
  rw [Bool.eq_iff_iff]
  constructor
  · exact fun hbeq => beq_of_eq (toNode_eq_toNode_iff.mp (toNode_eq_of_beq hbeq))
  · intro hbeq
    rw [toNode_eq_toNode_iff.mpr (eq_of_beq hbeq)]
    exact (Value.isPlainKey_toNode other).beq_self

/-- Where just the keys that are alike are rendered as one, all keys are rendered apart if no two are alike. -/
theorem nodup_map_iff_not_alike {γ : Type} {f : Key → γ} {alike : Key → Key → Prop} (hne : ∀ {a b}, alike a b → a ≠ b)
    (halike : ∀ {a b}, a ≠ b → (f a = f b ↔ alike a b ∨ alike b a)) {keys : List Key} (hdistinct : keys.Nodup) :
    (keys.map f).Nodup ↔ ¬ ∃ a ∈ keys, ∃ b ∈ keys, alike a b := by
  rw [List.nodup_map_iff_inj_on hdistinct]
  constructor
  · rintro hinj ⟨a, ha, b, hb, hab⟩
    exact hne hab (hinj a ha b hb ((halike (hne hab)).mpr (.inl hab)))
  · intro hnone a ha b hb heq
    by_contra hdiffer
    rcases (halike hdiffer).mp heq with hab | hba
    · exact hnone ⟨a, ha, b, hb, hab⟩
    · exact hnone ⟨b, hb, a, ha, hba⟩

end Key

/-! ## Members of JSON objects -/

namespace Json

/-- The members of an object, each name once and in ascending order. -/
def Sorted (members : List (String × Json)) : Prop := members.Pairwise fun a b => a.1 < b.1

theorem mem_insertMember_iff {members : List (String × Json)} (hsorted : Sorted members)
    {name : String} {value : Json} {member : String × Json} :
    member ∈ insertMember name value members ↔ member = (name, value) ∨ member.1 ≠ name ∧ member ∈ members := by
  induction members with
  | nil => simp [insertMember]
  | cons first rest ih =>
      obtain ⟨hfirst, hrest⟩ := List.pairwise_cons.mp hsorted
      rw [insertMember]
      split
      next hbefore =>
        have hother : ∀ other ∈ first :: rest, other.1 ≠ name := by
          refine List.forall_mem_cons.mpr ⟨(Std.ne_of_lt hbefore).symm, fun other hmem => ?_⟩
          exact (Std.ne_of_lt (String.lt_trans hbefore (hfirst other hmem))).symm
        rw [List.mem_cons]
        exact or_congr_right ⟨fun hmem => ⟨hother member hmem, hmem⟩, And.right⟩
      next =>
        split
        next heq =>
          rw [List.mem_cons, List.mem_cons]
          refine or_congr_right ⟨fun hmem => ⟨?_, .inr hmem⟩, fun ⟨hname, hmem⟩ => hmem.resolve_left ?_⟩
          · exact heq ▸ (Std.ne_of_lt (hfirst member hmem)).symm
          · exact fun hsame => hname (hsame ▸ heq.symm)
        next hne =>
          have hsame : member = first → member.1 ≠ name := fun hsame => hsame ▸ Ne.symm hne
          rw [List.mem_cons, List.mem_cons, ih hrest, or_left_comm, and_or_left,
            and_iff_right_of_imp hsame]

theorem sorted_insertMember {members : List (String × Json)} (hsorted : Sorted members)
    (name : String) (value : Json) : Sorted (insertMember name value members) := by
  induction members with
  | nil => exact List.pairwise_singleton _ _
  | cons first rest ih =>
      obtain ⟨hfirst, hrest⟩ := List.pairwise_cons.mp hsorted
      rw [insertMember]
      split
      next hbefore =>
        refine List.pairwise_cons.mpr ⟨List.forall_mem_cons.mpr ⟨hbefore, fun other hmem => ?_⟩, hsorted⟩
        exact String.lt_trans hbefore (hfirst other hmem)
      next hnot =>
        split
        next heq => exact List.pairwise_cons.mpr ⟨fun other hmem => heq ▸ hfirst other hmem, hrest⟩
        next hne =>
          refine List.pairwise_cons.mpr ⟨fun other hmem => ?_, ih hrest⟩
          rcases (mem_insertMember_iff hrest).mp hmem with rfl | ⟨-, hmem⟩
          · exact Std.lt_of_le_of_ne (String.not_lt.mp hnot) (Ne.symm hne)
          · exact hfirst other hmem

theorem membersOfList_append_singleton (members : List (String × Json)) (new : String × Json) :
    membersOfList (members ++ [new]) = insertMember new.1 new.2 (membersOfList members) := by
  rw [membersOfList, List.foldl_append]
  rfl

/-- Members are in the order of their names, each of them once, however they came in. -/
theorem sorted_membersOfList (members : List (String × Json)) : Sorted (membersOfList members) := by
  induction members using List.reverseRecOn with
  | nil => exact List.Pairwise.nil
  | append_singleton members new ih =>
      rw [membersOfList_append_singleton]
      exact sorted_insertMember ih new.1 new.2

/-- Of all members of one name the last is kept. -/
theorem mem_membersOfList_iff {members : List (String × Json)} {member : String × Json} :
    member ∈ membersOfList members ↔ IsLastBy Prod.fst members member := by
  induction members using List.reverseRecOn with
  | nil => exact iff_of_false List.not_mem_nil not_isLastBy_nil
  | append_singleton members new ih =>
      rw [membersOfList_append_singleton, mem_insertMember_iff (sorted_membersOfList members),
        isLastBy_append_singleton, ih]

end Json

/-! ## Rendered hashes -/

namespace Value

/-- An entry as a member of a JSON object. -/
def toMember (entry : Key × Value) : String × Json := (entry.1.label, entry.2.toJson)

/-- An entry as an entry of a YAML mapping. -/
def toNodeEntry (entry : Key × Value) : Node × Node := (entry.1.toNode, entry.2.toNode)

/-- An object shows for each label the last entry with it. -/
theorem mem_rendered_members_iff {entries : List (Key × Value)} {member : String × Json} :
    member ∈ Json.membersOfList (toJsonMembers entries) ↔
      ∃ entry, IsLastBy (fun entry => entry.1.label) entries entry ∧ member = toMember entry := by
  rw [Json.mem_membersOfList_iff, toJsonMembers_eq_map]
  exact isLastBy_map

/-- A rendered hash as the rendering of a hash without symbols. -/
theorem ofList_entriesToNodes_eq (entries : List (Key × Value)) :
    Entries.ofList (entriesToNodes entries) =
      (Entries.ofList (entries.map (Prod.map Key.eraseSymbol id))).map (Prod.map Key.toNode toNode) := by
  let p (key : Key) : Prop := key.eraseSymbol = key
  have hkeys : ∀ key other, p key → p other → (key.toNode == other.toNode) = (key == other) := by
    intro key other hkey hother
    rw [Key.toNode_beq_toNode, hkey, hother]
  have herased : ∀ entry ∈ entries.map (Prod.map Key.eraseSymbol id), p entry.1 := by
    refine List.forall_mem_map.mpr fun entry _ => ?_
    change entry.1.eraseSymbol.eraseSymbol = entry.1.eraseSymbol
    cases entry.1 <;> rfl
  rw [Entries.map_ofList toNode hkeys herased, List.map_map, entriesToNodes_eq_map]
  congr 1
  apply List.map_congr_left
  intro entry _
  exact Prod.ext (Key.toNode_eraseSymbol entry.1).symm rfl

/-- The keys of a mapping stand where their spelling first occurs. -/
theorem keys_rendered_nodes (entries : List (Key × Value)) :
    (Entries.ofList (entriesToNodes entries)).map Prod.fst =
      firsts (· == ·) (entries.map fun entry => entry.1.toNode) := by
  have herased : (entries.map (Prod.map Key.eraseSymbol id)).map Prod.fst =
      (entries.map Prod.fst).map Key.eraseSymbol := by
    simp
  have hnodes : entries.map (fun entry => entry.1.toNode) = (entries.map Prod.fst).map Key.toNode := by
    simp
  rw [ofList_entriesToNodes_eq, List.map_map, hnodes, firsts_map]
  calc
    _ = ((Entries.ofList (entries.map (Prod.map Key.eraseSymbol id))).map Prod.fst).map Key.toNode := by
          rw [List.map_map]
          rfl
    _ = ((firsts (fun a b => a.eraseSymbol == b.eraseSymbol) (entries.map Prod.fst)).map
          Key.eraseSymbol).map Key.toNode := by rw [Entries.keys_ofList, herased, firsts_map]
    _ = (firsts (fun a b => a.toNode == b.toNode) (entries.map Prod.fst)).map Key.toNode := by
          simp only [List.map_map, Function.comp_def, Key.toNode_eraseSymbol, Key.toNode_beq_toNode]

/-- A mapping shows for each spelling the last entry with it. -/
theorem mem_rendered_nodes_iff {entries : List (Key × Value)} {node : Node × Node} :
    node ∈ Entries.ofList (entriesToNodes entries) ↔
      ∃ entry, IsLastBy (fun entry => entry.1.toNode) entries entry ∧ node = toNodeEntry entry := by
  let erase (entry : Key × Value) : Key × Value := Prod.map Key.eraseSymbol id entry
  have hlabel : ∀ entry other : Key × Value, entry.1.eraseSymbol = other.1.eraseSymbol ↔
      entry.1.toNode = other.1.toNode := fun _ _ => Key.toNode_eq_toNode_iff.symm
  have hnode : ∀ entry, Prod.map Key.toNode toNode (erase entry) = toNodeEntry entry := fun entry =>
    Prod.ext (Key.toNode_eraseSymbol entry.1) rfl
  rw [ofList_entriesToNodes_eq, List.mem_map]
  constructor
  · rintro ⟨_, hmem, rfl⟩
    obtain ⟨entry, hlast, rfl⟩ := isLastBy_map.mp (Entries.mem_ofList_iff.mp hmem)
    exact ⟨entry, (isLastBy_congr hlabel).mp hlast, hnode entry⟩
  · rintro ⟨entry, hlast, rfl⟩
    have hlast' : IsLastBy Prod.fst (entries.map erase) (erase entry) :=
      isLastBy_map.mpr ⟨entry, (isLastBy_congr hlabel).mpr hlast, rfl⟩
    exact ⟨erase entry, Entries.mem_ofList_iff.mpr hlast', hnode entry⟩

/-- An object shows all entries exactly if no label is repeated. -/
theorem rendered_members_perm_iff (entries : List (Key × Value)) :
    (Json.membersOfList (toJsonMembers entries)).Perm (entries.map toMember) ↔
      (entries.map fun entry => entry.1.label).Nodup := by
  have hsorted := Json.sorted_membersOfList (toJsonMembers entries)
  have hnames : ((Json.membersOfList (toJsonMembers entries)).map Prod.fst).Nodup :=
    List.pairwise_map.mpr (hsorted.imp Std.ne_of_lt)
  exact perm_map_iff_nodup (fun _ => mem_rendered_members_iff) hnames

theorem nodup_rendered_keys (entries : List (Key × Value)) :
    ((Entries.ofList (entriesToNodes entries)).map Prod.fst).Nodup := by
  have hplain := plain_toNode (hash entries)
  rw [toNode] at hplain
  cases hplain with
  | map hdistinct => exact hdistinct

/-- A mapping shows all entries, in order, exactly if no spelling is repeated. -/
theorem rendered_nodes_eq_iff (entries : List (Key × Value)) :
    Entries.ofList (entriesToNodes entries) = entries.map toNodeEntry ↔
      (entries.map fun entry => entry.1.toNode).Nodup := by
  have hkeys : (entries.map toNodeEntry).map Prod.fst = entries.map fun entry => entry.1.toNode := by
    rw [List.map_map]
    rfl
  constructor
  · intro heq
    rw [← hkeys, ← heq]
    exact nodup_rendered_keys entries
  · intro hdistinct
    rw [entriesToNodes_eq_map]
    refine Node.ofList_eq_self_of_plain (by rwa [← hkeys] at hdistinct) ?_
    exact List.forall_mem_map.mpr fun entry _ => isPlainKey_toNode entry.1

/-- As JSON, a hash has one member for each name among the labels of its keys, in ascending order, and as YAML one
entry for each key among their spellings, in the order of first occurrence; either is what the last entry of that
name or key is rendered as. Two keys have one label if they are a symbol and the string of its spelling, or an
integer and the string of its digits, and one spelling in the first case only. All entries are kept exactly if the
hash has no two such keys. -/
theorem rendered_entries {entries : List (Key × Value)} (hdistinct : (hash entries).DistinctKeys) :
    let keys := entries.map Prod.fst
    (∃ members, (hash entries).toJson = .object members ∧ members.Pairwise (fun a b => a.1 < b.1) ∧
      (∀ name, name ∈ members.map Prod.fst ↔ name ∈ keys.map Key.label) ∧
      (∀ member, member ∈ members ↔
        ∃ entry, IsLastBy (fun entry => entry.1.label) entries entry ∧ member = toMember entry) ∧
      (members.Perm (entries.map toMember) ↔ ¬ ∃ a ∈ keys, ∃ b ∈ keys, a.LabelledAlike b)) ∧
    (∃ nodes, (hash entries).toNode = .map nodes ∧ (nodes.map Prod.fst).Nodup ∧
      nodes.map Prod.fst = firsts (· == ·) (keys.map Key.toNode) ∧
      (∀ node, node ∈ nodes ↔
        ∃ entry, IsLastBy (fun entry => entry.1.toNode) entries entry ∧ node = toNodeEntry entry) ∧
      (nodes = entries.map toNodeEntry ↔ ¬ ∃ a ∈ keys, ∃ b ∈ keys, a.SpelledAlike b)) ∧
    ∀ a b : Key, a ≠ b → (a.label = b.label ↔ a.LabelledAlike b ∨ b.LabelledAlike a) ∧
      (a.toNode = b.toNode ↔ a.SpelledAlike b ∨ b.SpelledAlike a) := by
  intro keys
  have hlabels : (entries.map fun entry => entry.1.label) = keys.map Key.label := by simp [keys]
  have hnodes : (entries.map fun entry => entry.1.toNode) = keys.map Key.toNode := by simp [keys]
  refine ⟨⟨_, rfl, Json.sorted_membersOfList _, ?_, fun _ => mem_rendered_members_iff, ?_⟩,
    ⟨_, rfl, nodup_rendered_keys entries, ?_, fun _ => mem_rendered_nodes_iff, ?_⟩,
    fun a b hne => ⟨Key.label_eq_iff hne, Key.toNode_eq_iff hne⟩⟩
  · intro name
    rw [← hlabels]
    exact mem_map_label_iff (f := toMember) fun _ => mem_rendered_members_iff
  · rw [rendered_members_perm_iff, hlabels]
    exact Key.nodup_map_iff_not_alike Key.LabelledAlike.ne Key.label_eq_iff hdistinct
  · rw [keys_rendered_nodes, hnodes]
  · rw [rendered_nodes_eq_iff, hnodes]
    exact Key.nodup_map_iff_not_alike Key.SpelledAlike.ne Key.toNode_eq_iff hdistinct

/-- A symbol and an integer, each before the string that its entry is merged with in JSON. -/
theorem rendered_entries_of_four_keys :
    let entries : List (Key × Value) :=
      [(.symbol "a", .int 1), (.int (-7), .nil), (.str ":a", .symbol "b"), (.str "-7", .bool true)]
    (hash entries).DistinctKeys ∧
      (∃ members, (hash entries).toJson = .object members ∧ ("-7", Json.bool true) ∈ members ∧
        (":a", Json.str ":b") ∈ members ∧ ¬ members.Perm (entries.map toMember)) ∧
      ∃ nodes, (hash entries).toNode = .map nodes ∧ (.int (-7), .null) ∈ nodes ∧
        (.str ":a", .str ":b") ∈ nodes ∧ nodes ≠ entries.map toNodeEntry := by
  intro entries
  have hdistinct : (hash entries).DistinctKeys := by simp [entries, DistinctKeys]
  have hpair : ∃ a ∈ entries.map Prod.fst, ∃ b ∈ entries.map Prod.fst, Key.SpelledAlike a b :=
    ⟨.symbol "a", by simp [entries], .str ":a", by simp [entries], .symbol "a"⟩
  obtain ⟨⟨members, hjson, -, -, hmembers, hmembers'⟩, ⟨nodes, hyaml, -, -, hnodes, hnodes'⟩, -⟩ :=
    rendered_entries hdistinct
  refine ⟨hdistinct, ⟨members, hjson, ?_, ?_, fun hall => hmembers'.mp hall ?_⟩,
    nodes, hyaml, ?_, ?_, fun hall => hnodes'.mp hall hpair⟩
  · exact (hmembers _).mpr ⟨(.str "-7", .bool true), ⟨entries.take 3, [], rfl, by simp⟩, rfl⟩
  · exact (hmembers _).mpr ⟨(.str ":a", .symbol "b"), ⟨entries.take 2, entries.drop 3, rfl, by decide⟩, rfl⟩
  · obtain ⟨a, ha, b, hb, halike⟩ := hpair
    exact ⟨a, ha, b, hb, .spelled halike⟩
  · refine (hnodes _).mpr ⟨(.int (-7), .nil), ⟨entries.take 1, entries.drop 2, rfl, ?_⟩, rfl⟩
    simp [entries, Key.toNode, Key.label]
  · refine (hnodes _).mpr ⟨(.str ":a", .symbol "b"), ⟨entries.take 2, entries.drop 3, rfl, ?_⟩, rfl⟩
    simp [entries, Key.toNode, Key.label]

end Value

end DocPath
