import DocPath.Document.Conversion
import DocPath.Proofs.Entries
import DocPath.Proofs.Path.RoundTrip
import DocPath.Proofs.Value.Depth
import DocPath.Proofs.Word

/-!
# Loading what was rendered

A value rendered as a node and loaded with symbols is the value again exactly when its spelling tells at every
depth what it was: no host object, every symbol with a name that can be spelled, no string that spells a
symbol. Only such values come out of loading a rendered one, so none of the conditions can go.
-/

namespace DocPath

open DocPath.Path (IsName isWordChar)
open DocPath.Yaml (Node)

/-! ## Symbols and strings share a spelling -/

/-- A text that is read as a symbol. -/
def SpellsSymbol (text : String) : Prop := ∃ name, text = ":" ++ name ∧ IsName name

theorem isName_ofList_iff {chars : List Char} :
    IsName (String.ofList chars) ↔ (!chars.isEmpty && chars.all isWordChar) = true := by
  simp [IsName, ← String.toList_inj]

/-- A text spells a symbol if it is a colon and a name. -/
theorem symbolName?_eq_some_iff {text name : String} :
    symbolName? text = some name ↔ text = ":" ++ name ∧ IsName name := by
  obtain ⟨chars, rfl⟩ : ∃ chars, name = String.ofList chars := ⟨_, String.ofList_toList.symm⟩
  have hspelled : text = ":" ++ String.ofList chars ↔ text.toList = ':' :: chars := by
    simp [← String.toList_inj]
  rw [hspelled, isName_ofList_iff, symbolName?]
  split
  next rest hcolon =>
    -- The test of a name is the one for words in expressions.
    change (if (!rest.isEmpty && rest.all isWordChar) = true then _ else _) = _ ↔ _
    rw [hcolon, List.cons_inj_right]
    split
    next hname =>
      simp only [Option.some.injEq, String.ofList_inj]
      exact ⟨fun h => ⟨h, h ▸ hname⟩, And.left⟩
    next hnot =>
      simp only [reduceCtorEq, false_iff]
      rintro ⟨rfl, hname⟩
      exact hnot hname
  next hother =>
    simp only [reduceCtorEq, false_iff]
    exact fun h => hother chars h.1

instance : DecidablePred IsName := fun name =>
  decidable_of_iff ((!name.toList.isEmpty && name.toList.all isWordChar) = true) <| by
    rw [← isName_ofList_iff, String.ofList_toList]

theorem spellsSymbol_iff {text : String} : SpellsSymbol text ↔ (symbolName? text).isSome = true := by
  simp only [SpellsSymbol, Option.isSome_iff_exists, symbolName?_eq_some_iff]

instance : DecidablePred SpellsSymbol := fun _ => decidable_of_iff _ spellsSymbol_iff.symm

theorem Value.ofInteger_toInt (n : Int64) : ofInteger n.toInt = .int n := by
  rw [ofInteger, int64?_toInt]

/-! ## Keys -/

namespace Key

/-- A key that can be told from its spelling. -/
def Legible : Key → Prop
  | .str text => ¬ SpellsSymbol text
  | .symbol name => IsName name
  | .int _ => True

theorem eq_of_toNode_eq {key other : Key} (hkey : key.Legible) (hother : other.Legible)
    (hnode : key.toNode = other.toNode) : key = other := by
  cases key with
  | str text =>
      cases other with
      | str text' => simpa [toNode, label] using hnode
      | symbol name' => exact absurd ⟨name', by simpa [toNode, label] using hnode, hother⟩ hkey
      | int n' => simp [toNode] at hnode
  | symbol name =>
      cases other with
      | str text' => exact absurd ⟨name, by simpa [toNode, label] using hnode.symm, hkey⟩ hother
      | symbol name' => simpa [toNode, label] using hnode
      | int n' => simp [toNode] at hnode
  | int n =>
      cases other with
      | str text' => simp [toNode] at hnode
      | symbol name' => simp [toNode] at hnode
      | int n' => simpa [toNode, Int64.toInt_inj] using hnode

theorem toNode_eq_of_beq {key other : Key} (hbeq : (key.toNode == other.toNode) = true) :
    key.toNode = other.toNode := by
  change Node.equal _ _ = true at hbeq
  cases key <;> cases other <;> simp_all [toNode, Node.equal]

/-- What is loaded for a text is a legible key, as a value, with the same spelling. -/
theorem exists_ofText_eq (text : String) :
    ∃ key : Key, Value.ofText true text = key.toValue ∧ key.Legible ∧ key.toNode = .str text := by
  rw [Value.ofText, if_pos rfl]
  cases hname : symbolName? text with
  | some name =>
      obtain ⟨hspelled, hword⟩ := symbolName?_eq_some_iff.mp hname
      exact ⟨.symbol name, rfl, hword, by rw [hspelled, toNode, label]; simp⟩
  | none =>
      have hplain : ¬ SpellsSymbol text := by simp [spellsSymbol_iff, hname]
      exact ⟨.str text, rfl, hplain, rfl⟩

/-- The node of a key is loaded as a key that can be read back and has the same node. -/
theorem exists_ofNode_toNode_eq (key : Key) :
    ∃ loaded : Key, Value.ofNode true key.toNode = loaded.toValue ∧ loaded.Legible ∧
      loaded.toNode = key.toNode := by
  cases key with
  | str text => exact exists_ofText_eq text
  | symbol name => exact exists_ofText_eq (":" ++ name)
  | int n => exact ⟨.int n, Value.ofInteger_toInt n, trivial, rfl⟩

theorem ofNodeValue_toValue (node : Node) (key : Key) : ofNodeValue node key.toValue = key := by
  cases key <;> rfl

/-- After one round the key can be read back. -/
theorem legible_ofNodeValue_toNode (key : Key) :
    (ofNodeValue key.toNode (Value.ofNode true key.toNode)).Legible := by
  obtain ⟨loaded, hload, hloaded, -⟩ := exists_ofNode_toNode_eq key
  rw [hload, ofNodeValue_toValue]
  exact hloaded

/-- A key that can be read back comes back as it was. -/
theorem ofNode_toNode {key : Key} (hlegible : key.Legible) :
    Value.ofNode true key.toNode = key.toValue := by
  obtain ⟨loaded, hload, hloaded, hnode⟩ := exists_ofNode_toNode_eq key
  rw [hload, eq_of_toNode_eq hloaded hlegible hnode]

end Key

namespace Value

/-! ## Collections -/

theorem toNodes_eq_map (items : List Value) : toNodes items = items.map toNode := by
  induction items with
  | nil => rfl
  | cons item rest ih => rw [toNodes, ih, List.map_cons]

theorem ofNodes_eq_map (symbolize : Bool) (items : List Node) :
    ofNodes symbolize items = items.map (ofNode symbolize) := by
  induction items with
  | nil => rfl
  | cons item rest ih => rw [ofNodes, ih, List.map_cons]

theorem entriesToNodes_eq_map (entries : List (Key × Value)) :
    entriesToNodes entries = entries.map (fun entry => (entry.1.toNode, toNode entry.2)) := by
  induction entries with
  | nil => rfl
  | cons entry rest ih => rw [entriesToNodes, ih, List.map_cons]

theorem entriesOfNodes_eq_map (symbolize : Bool) (entries : List (Node × Node)) :
    entriesOfNodes symbolize entries = entries.map (fun entry =>
      (Key.ofNodeValue entry.1 (ofNode symbolize entry.1), ofNode symbolize entry.2)) := by
  induction entries with
  | nil => rfl
  | cons entry rest ih => rw [entriesOfNodes, ih, List.map_cons]

/-! ## The round trip -/

/-- A value that its spelling tells apart, whatever it has below: a symbol with a name, a string that spells
no symbol, a hash with such keys, or anything else that is no host object. -/
def Legible : Value → Prop
  | .str text => (Key.str text).Legible
  | .symbol name => (Key.symbol name).Legible
  | .hash entries => ∀ entry ∈ entries, entry.1.Legible
  | .host _ => False
  | _ => True

/-- Legible keys that differ also differ as nodes, so no entry is lost. -/
theorem ofList_entriesToNodes {entries : List (Key × Value)}
    (hdistinct : (entries.map Prod.fst).Nodup) (hkeys : ∀ entry ∈ entries, entry.1.Legible) :
    Entries.ofList (entriesToNodes entries) = entriesToNodes entries := by
  apply Entries.ofList_eq_self
  rw [entriesToNodes_eq_map, List.pairwise_map]
  refine (List.pairwise_map.mp hdistinct).imp_of_mem ?_
  intro earlier later hearlier hlater hne hbeq
  have hnode := Key.toNode_eq_of_beq hbeq
  exact hne (Key.eq_of_toNode_eq (hkeys earlier hearlier) (hkeys later hlater) hnode)

theorem entriesOfNodes_entriesToNodes {entries : List (Key × Value)}
    (hkeys : ∀ entry ∈ entries, entry.1.Legible)
    (hvalues : ∀ entry ∈ entries, ofNode true entry.2.toNode = entry.2) :
    entriesOfNodes true (entriesToNodes entries) = entries := by
  rw [entriesOfNodes_eq_map, entriesToNodes_eq_map, List.map_map]
  refine (List.map_congr_left ?_).trans (List.map_id' entries)
  intro entry hentry
  rw [Function.comp_apply, Key.ofNode_toNode (hkeys entry hentry), Key.ofNodeValue_toValue,
    hvalues entry hentry]

/-- A value comes back from its node if all its texts can be read back, and no key is repeated. -/
theorem ofNode_toNode {value : Value} (hdistinct : value.Everywhere DistinctKeys)
    (hlegible : value.Everywhere Legible) : ofNode true value.toNode = value := by
  induction value with
  | nil => rfl
  | bool b => rfl
  | int n => exact ofInteger_toInt n
  | float x => rfl
  | str text =>
      have hkey : (Key.str text).Legible := by simpa [Legible] using hlegible
      exact Key.ofNode_toNode hkey
  | symbol name =>
      have hkey : (Key.symbol name).Legible := by simpa [Legible] using hlegible
      exact Key.ofNode_toNode hkey
  | array items ih =>
      rw [everywhere_array] at hdistinct hlegible
      have hitems : ∀ item ∈ items, ofNode true item.toNode = item := fun item hitem =>
        ih item hitem (hdistinct.2 item hitem) (hlegible.2 item hitem)
      rw [toNode, ofNode, ofNodes_eq_map, toNodes_eq_map, List.map_map]
      exact congrArg array ((List.map_congr_left hitems).trans (List.map_id' items))
  | hash entries ih =>
      rw [everywhere_hash] at hdistinct hlegible
      obtain ⟨hkeys, hvalues⟩ := hlegible
      have hload : ∀ entry ∈ entries, ofNode true entry.2.toNode = entry.2 := fun entry hentry =>
        ih entry hentry (hdistinct.2 entry hentry) (hvalues entry hentry)
      rw [toNode, ofNode, ofList_entriesToNodes hdistinct.1 hkeys,
        entriesOfNodes_entriesToNodes hkeys hload, Entries.ofList_eq_self_of_nodup hdistinct.1]
  | host object => simp [Legible] at hlegible

theorem everywhere_legible_ofText (text : String) : (ofText true text).Everywhere Legible := by
  obtain ⟨key, hload, hkey, -⟩ := Key.exists_ofText_eq text
  rw [hload]
  cases key with
  | str plain => simpa [Key.toValue, Legible] using hkey
  | symbol name => simpa [Key.toValue, Legible] using hkey
  | int n => simp [Key.toValue, Legible]

theorem everywhere_legible_ofNode_map {nodes : List (Node × Node)}
    (hnodes : ∀ entry ∈ nodes, (Key.ofNodeValue entry.1 (ofNode true entry.1)).Legible ∧
      (ofNode true entry.2).Everywhere Legible) :
    (ofNode true (.map nodes)).Everywhere Legible := by
  have hentries : ∀ entry ∈ Entries.ofList (entriesOfNodes true nodes),
      entry.1.Legible ∧ entry.2.Everywhere Legible := by
    apply Entries.forall_mem_ofList
    rw [entriesOfNodes_eq_map]
    exact List.forall_mem_map.mpr hnodes
  rw [ofNode, everywhere_hash]
  exact ⟨fun entry hentry => (hentries entry hentry).1, fun entry hentry => (hentries entry hentry).2⟩

/-- Rendering and loading leave legible values only, whatever was rendered. -/
theorem everywhere_legible_ofNode_toNode (value : Value) :
    (ofNode true value.toNode).Everywhere Legible := by
  induction value with
  | nil => simp [toNode, ofNode, Legible]
  | bool b => simp [toNode, ofNode, Legible]
  | int n => simp [toNode, ofNode, ofInteger_toInt, Legible]
  | float x => simp [toNode, ofNode, Legible]
  | str text => exact everywhere_legible_ofText text
  | symbol name => exact everywhere_legible_ofText (":" ++ name)
  | array items ih =>
      rw [toNode, ofNode, ofNodes_eq_map, toNodes_eq_map, List.map_map, everywhere_array]
      exact ⟨trivial, List.forall_mem_map.mpr ih⟩
  | hash entries ih =>
      -- Entries may become one on the way, so keys and values are followed apart from each other.
      apply everywhere_legible_ofNode_map
      apply Entries.forall_mem_ofList (fun node => (Key.ofNodeValue node (ofNode true node)).Legible)
        (fun node => (ofNode true node).Everywhere Legible)
      rw [entriesToNodes_eq_map, List.forall_mem_map]
      exact fun entry hentry => ⟨Key.legible_ofNodeValue_toNode entry.1, ih entry hentry⟩
  | host object => exact everywhere_legible_ofText _

/-- A value is loaded as it was rendered if and only if it is legible at every depth. -/
theorem ofNode_toNode_eq_iff {value : Value} (hdistinct : value.Everywhere DistinctKeys) :
    ofNode true value.toNode = value ↔ value.Everywhere Legible := by
  constructor
  · intro hsame
    exact hsame ▸ everywhere_legible_ofNode_toNode value
  · exact ofNode_toNode hdistinct

/-- A hash with a symbol and a string of one name as keys and what is not a number below them. -/
theorem ofNode_toNode_eq_iff_of_one_name :
    let value := hash [(.symbol "id", array [.float .nan, .symbol "x_1"]),
      (.str "id", hash [(.int 7, .str ":")])]
    value.Everywhere DistinctKeys ∧ value.Everywhere Legible ∧ ofNode true value.toNode = value := by
  intro value
  have hdistinct : value.Everywhere DistinctKeys := by simp [value, DistinctKeys]
  have hlegible : value.Everywhere Legible := by
    have hnames : IsName "id" ∧ IsName "x_1" ∧ ¬ SpellsSymbol "id" ∧ ¬ SpellsSymbol ":" := by decide
    simp [value, Legible, Key.Legible, hnames]
  exact ⟨hdistinct, hlegible, (ofNode_toNode_eq_iff hdistinct).mpr hlegible⟩

-- A symbol key and the string key of its spelling become one entry.
example : ofNode true (hash [(.symbol "id", .int 1), (.str ":id", .nil)]).toNode =
    hash [(.symbol "id", .nil)] := by
  rfl

end Value

end DocPath
