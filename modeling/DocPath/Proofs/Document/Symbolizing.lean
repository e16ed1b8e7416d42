import DocPath.Proofs.Document.Reloading
import DocPath.Proofs.Text.Numeral
import DocPath.Proofs.Yaml.Printing

/-!
# Loading with and without symbols

A document loaded with symbols differs from the same one loaded without only in that symbols stand where
strings of their spelling would. Entries of a mapping are merged for the same keys either way: a key that
spells a symbol is a symbol, since the texts of nulls, booleans, floats and collections that become keys
spell none.
-/

namespace DocPath

open DocPath.Path (IsName IsWordChar not_isWordChar_of_mem_delimiters)
open DocPath.Yaml (Node Marked)

/-! ## Texts that spell no symbol -/

theorem not_spellsSymbol_of_not_mem {text : String} (hcolon : ':' ∉ text.toList) :
    ¬ SpellsSymbol text := by
  rintro ⟨name, rfl, -⟩
  simp at hcolon

theorem Text.trimEnd_append_cons {c : Char} (hc : isBlank c = false) (before after : List Char) :
    trimEnd (before ++ c :: after) = before ++ c :: trimEnd after := by
  simp only [trimEnd, List.reverse_append, List.reverse_cons, List.append_assoc, List.dropWhile_append]
  split
  next hblank =>
    have hafter : List.dropWhile isBlank after.reverse = [] := by simpa using hblank
    simp [hafter, hc]
  next => simp

/-- A symbol has one colon, in front, so what shows a collection rules it out. -/
theorem not_spellsSymbol_of_marked {text : List Char} (hmarked : Marked text) :
    ¬ SpellsSymbol (String.ofList (Text.trimEnd text)) := by
  rintro ⟨name, htext, hname⟩
  have hchars : Text.trimEnd text = ':' :: name.toList := by
    simpa using congrArg String.toList htext
  cases hmarked with
  | front c rest hc =>
      have hblank : Text.isBlank c = false := by
        have hall : ['!', '-', '?', '[', '\x7b'].all (fun c => !Text.isBlank c) = true := by
          decide +kernel
        simpa using List.all_eq_true.mp hall c hc
      rw [← List.nil_append (c :: rest), Text.trimEnd_append_cons hblank] at hchars
      obtain rfl : c = ':' := (List.cons.inj hchars).1
      simp at hc
  | @colon before after hbefore =>
      obtain ⟨first, more, rfl⟩ := List.exists_cons_of_ne_nil hbefore
      rw [Text.trimEnd_append_cons (by decide +kernel)] at hchars
      have hmem : ':' ∈ name.toList := by
        rw [← (List.cons.inj hchars).2]
        simp
      exact not_isWordChar_of_mem_delimiters (by decide) (hname.2 ':' hmem)

/-- The text that a collection has as a key is that of no symbol; nor is the empty one, which it has when its
tags cannot be written. -/
theorem not_spellsSymbol_render {node : Node} (hcollection : node.IsCollection) :
    ¬ SpellsSymbol (String.ofList (Text.trimEnd ((node.render?).getD "").toList)) := by
  rw [Node.render?]
  split
  next => exact not_spellsSymbol_of_not_mem (by simp [Text.trimEnd])
  next hnested =>
    have hmarked := Node.marked_render hcollection (Bool.eq_false_iff.mpr hnested)
    simpa using not_spellsSymbol_of_marked hmarked

namespace Binary64

theorem Decimal.isDigit_or_eq_of_mem_positional {d : Decimal} {pointZero : Bool} {c : Char}
    (hc : c ∈ d.positional pointZero) : c.isDigit = true ∨ c = '.' := by
  have hdigits : ∀ c ∈ Text.Numeral.digits d.coefficient, c.isDigit = true := fun c hc =>
    Text.Numeral.isDigit_of_mem_digits hc
  have hzeros : ∀ (n : Nat), ∀ c ∈ List.replicate n '0', c.isDigit = true := by
    intro n c hc
    rw [List.eq_of_mem_replicate hc]
    decide
  simp only [positional] at hc
  split at hc
  next =>
    rcases List.mem_append.mp hc with hwhole | hpoint
    · rcases List.mem_append.mp hwhole with hdigit | hzero
      · exact .inl (hdigits c hdigit)
      · exact .inl (hzeros _ c hzero)
    · split at hpoint
      · simp only [List.mem_cons, List.not_mem_nil, or_false] at hpoint
        rcases hpoint with rfl | rfl
        · exact .inr rfl
        · exact .inl (by decide)
      · cases hpoint
  next =>
    generalize hpadded : List.replicate _ '0' ++ Text.Numeral.digits d.coefficient = padded at hc
    have hall : ∀ c ∈ padded, c.isDigit = true := by
      rw [← hpadded]
      exact List.forall_mem_append.mpr ⟨hzeros _, hdigits⟩
    rcases List.mem_append.mp hc with hwhole | hfraction
    · exact .inl (hall c (List.mem_of_mem_take hwhole))
    · rcases List.mem_cons.mp hfraction with rfl | hplace
      · exact .inr rfl
      · exact .inl (hall c (List.mem_of_mem_drop hplace))

/-- No float is spelled like a symbol. -/
theorem not_spellsSymbol_text (x : Binary64) : ¬ SpellsSymbol x.text := by
  apply not_spellsSymbol_of_not_mem
  cases x with
  | nan => decide
  | signed negative m =>
      rw [text]
      split
      next => cases negative <;> decide
      next =>
        have hdigit : ¬ (':').isDigit = true := by decide
        have hsign : ':' ∉ (if negative then ['-'] else []) := by cases negative <;> decide
        have hplaces : ':' ∉ (shortest .up m.pattern).positional false := by
          intro hmem
          rcases Decimal.isDigit_or_eq_of_mem_positional hmem with hcolon | hcolon
          · exact hdigit hcolon
          · exact absurd hcolon (by decide)
        have hwhole : ':' ∉ Text.Numeral.digits (units m.pattern / unitsPerOne) := fun hmem =>
          hdigit (Text.Numeral.isDigit_of_mem_digits hmem)
        simp only [String.toList_ofList, List.mem_append, not_or]
        refine ⟨hsign, ?_⟩
        split
        · simp [hwhole]
        · exact hplaces

end Binary64

/-! ## Keys -/

namespace Key

/-- The key of a node with what stands behind some of its tags. The text of a collection is that of the whole
node, tags included. -/
theorem legible_ofNodeValue_ofNode {node : Node} (content : Node)
    (hcollection : content.IsCollection → node.IsCollection) :
    (ofNodeValue node (Value.ofNode true content)).Legible := by
  have hempty : (Key.str "").Legible := by
    change ¬ SpellsSymbol ""
    decide
  induction content with
  | null => exact hempty
  | bool b =>
      change ¬ SpellsSymbol (if b then "true" else "false")
      cases b <;> decide
  | int n =>
      rw [Value.ofNode, Value.ofInteger]
      split
      · exact trivial
      · change ¬ SpellsSymbol (Binary64.text (.ofInt n))
        exact Binary64.not_spellsSymbol_text _
  | float x => exact Binary64.not_spellsSymbol_text x
  | str text =>
      obtain ⟨key, hload, hkey, -⟩ := exists_ofText_eq text
      rw [Value.ofNode, hload, ofNodeValue_toValue]
      exact hkey
  | seq items => exact not_spellsSymbol_render (hcollection trivial)
  | map entries => exact not_spellsSymbol_render (hcollection trivial)
  | tagged tag content ih => exact ih hcollection

/-- Every key that is loaded with symbols can be read back. -/
theorem legible_ofNodeValue (node : Node) : (ofNodeValue node (Value.ofNode true node)).Legible :=
  legible_ofNodeValue_ofNode node id

/-- The key with the string of its spelling in the place of a symbol. -/
def eraseSymbol : Key → Key
  | .str text => .str text
  | .symbol name => .str (":" ++ name)
  | .int n => .int n

@[simp] theorem label_eraseSymbol (key : Key) : key.eraseSymbol.label = key.label := by
  cases key <;> rfl

@[simp] theorem toNode_eraseSymbol (key : Key) : key.eraseSymbol.toNode = key.toNode := by
  cases key <;> rfl

/-- Keys that can be told from their spelling stay as different as they are. -/
theorem eraseSymbol_beq_eraseSymbol {key other : Key} (hkey : key.Legible) (hother : other.Legible) :
    (key.eraseSymbol == other.eraseSymbol) = (key == other) := by
  rw [beq_eq_beq]
  constructor
  · intro hsame
    apply eq_of_toNode_eq hkey hother
    rw [← toNode_eraseSymbol, hsame, toNode_eraseSymbol]
  · exact congrArg eraseSymbol

end Key

/-! ## Values -/

namespace Value

mutual

/-- The value with the string of its spelling in the place of each symbol at every depth, keys of hashes
included. -/
def eraseSymbols : Value → Value
  | .nil => .nil
  | .bool b => .bool b
  | .int n => .int n
  | .float x => .float x
  | .str text => .str text
  | .symbol name => .str (":" ++ name)
  | .array items => .array (eraseItems items)
  | .hash entries => .hash (eraseEntries entries)
  | .host object => .host object

def eraseItems : List Value → List Value
  | [] => []
  | item :: rest => eraseSymbols item :: eraseItems rest

def eraseEntries : List (Key × Value) → List (Key × Value)
  | [] => []
  | (key, value) :: rest => (key.eraseSymbol, eraseSymbols value) :: eraseEntries rest

end

theorem eraseItems_eq_map (items : List Value) : eraseItems items = items.map eraseSymbols := by
  induction items with
  | nil => rfl
  | cons item rest ih => rw [eraseItems, ih, List.map_cons]

theorem eraseEntries_eq_map (entries : List (Key × Value)) :
    eraseEntries entries = entries.map (Prod.map Key.eraseSymbol eraseSymbols) := by
  induction entries with
  | nil => rfl
  | cons entry rest ih => rw [eraseEntries, ih, List.map_cons, Prod.map]

theorem toJsonItems_eq_map (items : List Value) : toJsonItems items = items.map toJson := by
  induction items with
  | nil => rfl
  | cons item rest ih => rw [toJsonItems, ih, List.map_cons]

theorem toJsonMembers_eq_map (entries : List (Key × Value)) :
    toJsonMembers entries = entries.map (fun entry => (entry.1.label, toJson entry.2)) := by
  induction entries with
  | nil => rfl
  | cons entry rest ih => rw [toJsonMembers, ih, List.map_cons]

/-- A value is rendered in YAML as if its symbols were strings with a colon. -/
theorem toNode_eraseSymbols (value : Value) : value.eraseSymbols.toNode = value.toNode := by
  induction value with
  | array items ih =>
      rw [eraseSymbols, toNode, toNode, toNodes_eq_map, toNodes_eq_map, eraseItems_eq_map, List.map_map]
      exact congrArg Node.seq (List.map_congr_left ih)
  | hash entries ih =>
      have hentries : entriesToNodes (eraseEntries entries) = entriesToNodes entries := by
        rw [entriesToNodes_eq_map, entriesToNodes_eq_map, eraseEntries_eq_map, List.map_map]
        apply List.map_congr_left
        intro entry hentry
        simp [ih entry hentry]
      rw [eraseSymbols, toNode, toNode, hentries]
  | _ => rfl

theorem toJson_eraseSymbols (value : Value) : value.eraseSymbols.toJson = value.toJson := by
  induction value with
  | array items ih =>
      rw [eraseSymbols, toJson, toJson, toJsonItems_eq_map, toJsonItems_eq_map, eraseItems_eq_map,
        List.map_map]
      exact congrArg Json.array (List.map_congr_left ih)
  | hash entries ih =>
      have hmembers : toJsonMembers (eraseEntries entries) = toJsonMembers entries := by
        rw [toJsonMembers_eq_map, toJsonMembers_eq_map, eraseEntries_eq_map, List.map_map]
        apply List.map_congr_left
        intro entry hentry
        simp [ih entry hentry]
      rw [eraseSymbols, toJson, toJson, hmembers]
  | _ => rfl

/-! ## Loading -/

/-- To load a text as a symbol and take the symbol away is to load it as a string. -/
theorem eraseSymbols_ofText (text : String) : (ofText true text).eraseSymbols = ofText false text := by
  rw [ofText, if_pos rfl, ofText, if_neg Bool.false_ne_true]
  cases hname : symbolName? text with
  | none => rfl
  | some name => rw [(symbolName?_eq_some_iff.mp hname).1]; rfl

theorem eraseSymbols_ofInteger (n : Int) : (ofInteger n).eraseSymbols = ofInteger n := by
  rw [ofInteger]
  split
  · rfl
  · rfl

/-- Keys lose their symbols as their values do. -/
theorem ofNodeValue_eraseSymbols (node : Node) (value : Value) :
    Key.ofNodeValue node value.eraseSymbols = (Key.ofNodeValue node value).eraseSymbol := by
  cases value <;> rfl

/-- To load with symbols and take them away again is to load without. -/
theorem eraseSymbols_ofNode (node : Node) : (ofNode true node).eraseSymbols = ofNode false node := by
  induction node with
  | null => rfl
  | bool b => rfl
  | int n => exact eraseSymbols_ofInteger n
  | float x => rfl
  | str text => exact eraseSymbols_ofText text
  | seq items ih =>
      rw [ofNode, ofNode, eraseSymbols, ofNodes_eq_map, ofNodes_eq_map, eraseItems_eq_map, List.map_map]
      exact congrArg array (List.map_congr_left ih)
  | map entries ih =>
      -- All keys that are loaded can be told from their spelling, so the same ones become one.
      have hlegible : ∀ entry ∈ entriesOfNodes true entries, entry.1.Legible := by
        rw [entriesOfNodes_eq_map]
        exact List.forall_mem_map.mpr fun entry _ => Key.legible_ofNodeValue entry.1
      have hentries : (entriesOfNodes true entries).map (Prod.map Key.eraseSymbol eraseSymbols) =
          entriesOfNodes false entries := by
        rw [entriesOfNodes_eq_map, entriesOfNodes_eq_map, List.map_map]
        apply List.map_congr_left
        intro entry hentry
        obtain ⟨hkey, hvalue⟩ := ih entry hentry
        simp [← ofNodeValue_eraseSymbols, hkey, hvalue]
      rw [ofNode, ofNode, eraseSymbols, eraseEntries_eq_map,
        Entries.map_ofList eraseSymbols (fun _ _ => Key.eraseSymbol_beq_eraseSymbol) hlegible, hentries]
  | tagged tag content ih => exact ih

/-- With symbols, all that spells a symbol is loaded as one. -/
theorem everywhere_legible_ofNode (node : Node) : (ofNode true node).Everywhere Legible := by
  induction node with
  | null => simp [ofNode, Legible]
  | bool b => simp [ofNode, Legible]
  | int n =>
      rw [ofNode, ofInteger]
      split
      · simp [Legible]
      · simp [Legible]
  | float x => simp [ofNode, Legible]
  | str text => exact everywhere_legible_ofText text
  | seq items ih =>
      rw [ofNode, ofNodes_eq_map, everywhere_array]
      exact ⟨trivial, List.forall_mem_map.mpr ih⟩
  | map entries ih =>
      apply everywhere_legible_ofNode_map
      intro entry hentry
      exact ⟨Key.legible_ofNodeValue entry.1, (ih entry hentry).2⟩
  | tagged tag content ih => exact ih

/-- Symbols erased, a node is loaded as it is without them, entries in their order included, though nothing
that spells a symbol is left a string. So it is rendered the same in either format. -/
theorem ofNode_eq_up_to_symbols (node : Node) :
    (ofNode true node).eraseSymbols = ofNode false node ∧
    (ofNode true node).Everywhere Legible ∧
    (ofNode true node).toNode = (ofNode false node).toNode ∧
    (ofNode true node).toJson = (ofNode false node).toJson := by
  rw [← eraseSymbols_ofNode node]
  exact ⟨rfl, everywhere_legible_ofNode node, (toNode_eraseSymbols _).symm, (toJson_eraseSymbols _).symm⟩

-- A tagged text that spells a symbol is the key that the symbol is, with or without symbols.
example :
    let node : Node := .map [(.str ":a", .int 1), (.null, .null), (.tagged "t" (.str ":a"), .str ":b")]
    ofNode true node = .hash [(.symbol "a", .symbol "b"), (.str "", .nil)] ∧
      ofNode false node = .hash [(.str ":a", .str ":b"), (.str "", .nil)] := by
  exact ⟨rfl, rfl⟩

end Value

end DocPath
