import DocPath.Yaml.Printer

/-!
# Written text is never taken back

Whatever is written of a node stands behind what has been written before. So the first characters of a
document are those of its outermost node: a tag, a bracket, a dash, a question mark, or the first key of a
mapping with a colon behind it.
-/

namespace DocPath.Yaml

/-- Induction on a node: on the items of a sequence, on the keys and values of a mapping, and on what has a
tag. -/
@[elab_as_elim, induction_eliminator]
theorem Node.induction {motive : Node → Prop} (null : motive .null) (bool : ∀ b, motive (.bool b))
    (int : ∀ n, motive (.int n)) (float : ∀ x, motive (.float x)) (str : ∀ text, motive (.str text))
    (seq : ∀ items, (∀ item ∈ items, motive item) → motive (.seq items))
    (map : ∀ entries, (∀ entry ∈ entries, motive entry.1 ∧ motive entry.2) → motive (.map entries))
    (tagged : ∀ tag content, motive content → motive (.tagged tag content)) : ∀ node, motive node
  | .null => null
  | .bool b => bool b
  | .int n => int n
  | .float x => float x
  | .str text => str text
  | .seq items => seq items fun item _ =>
      induction null bool int float str seq map tagged item
  | .map entries => map entries fun entry _ =>
      ⟨induction null bool int float str seq map tagged entry.1,
        induction null bool int float str seq map tagged entry.2⟩
  | .tagged tag content => tagged tag content <|
      induction null bool int float str seq map tagged content
termination_by node => sizeOf node
decreasing_by
  · have hitem : sizeOf item < sizeOf items := List.sizeOf_lt_of_mem ‹item ∈ items›
    simp only [Node.seq.sizeOf_spec]
    omega
  · have hentry : sizeOf entry < sizeOf entries := List.sizeOf_lt_of_mem ‹entry ∈ entries›
    have hparts : sizeOf entry = 1 + sizeOf entry.1 + sizeOf entry.2 := rfl
    simp only [Node.map.sizeOf_spec]
    omega
  · have hentry : sizeOf entry < sizeOf entries := List.sizeOf_lt_of_mem ‹entry ∈ entries›
    have hparts : sizeOf entry = 1 + sizeOf entry.1 + sizeOf entry.2 := rfl
    simp only [Node.map.sizeOf_spec]
    omega
  · simp only [Node.tagged.sizeOf_spec]
    omega

namespace Writer

/-- What has been written is written still. -/
def Extends (before after : Writer) : Prop := before.text.toList <+: after.text.toList

variable {v w : Writer}

theorem Extends.refl (w : Writer) : Extends w w := List.prefix_rfl

theorem Extends.put (h : Extends v w) (chars : List Char) : Extends v (w.put chars) := by
  apply h.trans
  simp [Writer.put]

theorem Extends.lineBreak (h : Extends v w) (c : Char) : Extends v (w.lineBreak c) := by
  apply h.trans
  simp [Writer.lineBreak]

theorem Extends.indentTo (h : Extends v w) (indent : Nat) : Extends v (w.indentTo indent) := by
  rw [Writer.indentTo]
  split
  · exact (h.lineBreak '\n').put _
  · exact h.put _

/-- The first character after breaks is indented. -/
theorem Extends.indentAfter (h : Extends v w) (afterBreak : Bool) (indent : Nat) :
    Extends v (if afterBreak then w.indentTo indent else w) := by
  split
  · exact h.indentTo indent
  · exact h

theorem Extends.separate (h : Extends v w) : Extends v w.separate := by
  rw [Writer.separate]
  split
  · exact h
  · exact h.put [' ']

theorem Extends.content (h : Extends v w) (chars : List Char) : Extends v (w.content chars) :=
  h.put chars

theorem Extends.compactIndicator (h : Extends v w) (c : Char) : Extends v (w.compactIndicator c) :=
  h.separate.put [c]

end Writer

open Writer (Extends)

section

variable {v w : Writer} (h : Extends v w)

include h

theorem extends_writeSingleQuotedChars (indent : Nat) (afterBreak : Bool) (text : List Char) :
    Extends v (writeSingleQuotedChars indent afterBreak text w) := by
  induction text generalizing afterBreak w with
  | nil =>
      rw [writeSingleQuotedChars]
      exact h.indentAfter afterBreak indent
  | cons c rest ih =>
      rw [writeSingleQuotedChars]
      split
      · apply ih
        exact h.lineBreak c
      · split
        · exact ih (h.put [' ']) afterBreak
        · apply ih
          exact (h.indentAfter afterBreak indent).put _

theorem extends_writeLiteralChars (indent : Nat) (afterBreak : Bool) (text : List Char) :
    Extends v (writeLiteralChars indent afterBreak text w) := by
  induction text generalizing afterBreak w with
  | nil => exact h
  | cons c rest ih =>
      rw [writeLiteralChars]
      split
      · apply ih
        exact h.lineBreak c
      · apply ih
        exact (h.indentAfter afterBreak indent).put _

/-- Whatever style is chosen for a string, it is put behind what has been written. -/
theorem extends_writeString (indent : Nat) (text : List Char) :
    Extends v (writeString indent text w) := by
  rw [writeString]
  split
  · exact h.separate.content text
  · exact (extends_writeSingleQuotedChars (h.separate.content _) indent false text).content _
  · exact h.separate.content _
  · apply extends_writeLiteralChars
    exact (h.separate.content _).lineBreak '\n'

theorem extends_writeTag (tag : Option String) : Extends v (writeTag tag w) := by
  cases tag with
  | none => exact h
  | some tag => exact h.separate.content _

theorem extends_writeItems {items : List Node}
    (hitems : ∀ item ∈ items, ∀ {w : Writer}, Extends v w → ∀ indent inMapping tag,
      Extends v (writeNode indent inMapping tag item w)) (indent : Nat) :
    Extends v (writeItems indent items w) := by
  induction items generalizing w with
  | nil => exact h
  | cons item rest ih =>
      obtain ⟨hitem, hrest⟩ := List.forall_mem_cons.mp hitems
      have hdash := (h.indentTo indent).compactIndicator '-'
      exact ih (hitem hdash (some indent) false none) hrest

theorem extends_writeEntries {entries : List (Node × Node)}
    (hentries : ∀ entry ∈ entries, ∀ {w : Writer}, Extends v w → ∀ indent inMapping tag,
      Extends v (writeNode indent inMapping tag entry.1 w) ∧
        Extends v (writeNode indent inMapping tag entry.2 w)) (indent : Nat) :
    Extends v (writeEntries indent entries w) := by
  induction entries generalizing w with
  | nil => exact h
  | cons entry rest ih =>
      obtain ⟨hentry, hrest⟩ := List.forall_mem_cons.mp hentries
      rw [writeEntries]
      split
      · have hkey := (hentry (h.indentTo indent) (some indent) true none).1
        exact ih (hentry (hkey.content [':']) (some indent) true none).2 hrest
      · have hmark := (h.indentTo indent).compactIndicator '?'
        have hkey := (hentry hmark (some indent) true none).1
        have hcolon := (hkey.indentTo indent).compactIndicator ':'
        exact ih (hentry hcolon (some indent) true none).2 hrest

/-- Writing a node takes nothing back. -/
theorem extends_writeNode (indent : Option Nat) (inMapping : Bool) (tag : Option String) (node : Node) :
    Extends v (writeNode indent inMapping tag node w) := by
  induction node generalizing indent inMapping tag w with
  | null => exact (extends_writeTag h tag).separate.content _
  | bool b => exact (extends_writeTag h tag).separate.content _
  | int n => exact (extends_writeTag h tag).separate.content _
  | float x => exact (extends_writeTag h tag).separate.content _
  | str text => exact extends_writeString (extends_writeTag h tag) _ _
  | seq items ih =>
      have htag := extends_writeTag h tag
      simp only [writeNode]
      split
      · exact htag.separate.content _
      · split
        · exact extends_writeItems htag ih 0
        · exact extends_writeItems htag ih _
  | map entries ih =>
      have htag := extends_writeTag h tag
      have hentries : ∀ entry ∈ entries, ∀ {w : Writer}, Extends v w → ∀ indent inMapping tag,
          Extends v (writeNode indent inMapping tag entry.1 w) ∧
            Extends v (writeNode indent inMapping tag entry.2 w) := by
        intro entry hentry w hw indent inMapping tag
        exact ⟨(ih entry hentry).1 hw indent inMapping tag, (ih entry hentry).2 hw indent inMapping tag⟩
      simp only [writeNode]
      split
      · exact htag.separate.content _
      · split
        · exact extends_writeEntries htag hentries 0
        · exact extends_writeEntries htag hentries _
  | tagged inner content ih =>
      simp only [writeNode]
      exact ih h indent inMapping (some inner)

end

/-! ## No node is written as nothing -/

theorem Writer.Extends.ne_nil {v w : Writer} (h : Extends v w) (hv : v.text.toList ≠ []) :
    w.text.toList ≠ [] := by
  intro hw
  rw [Extends, hw, List.prefix_nil] at h
  exact hv h

theorem Writer.content_ne_nil {chars : List Char} (hchars : chars ≠ []) (w : Writer) :
    (w.content chars).text.toList ≠ [] := by
  simp [content, put, hchars]

theorem Writer.compactIndicator_ne_nil (c : Char) (w : Writer) :
    (w.compactIndicator c).text.toList ≠ [] := by
  simp [compactIndicator, put]

open Writer (content_ne_nil compactIndicator_ne_nil)

theorem toString_int_ne_nil (n : Int) : (toString n).toList ≠ [] := by
  cases n with
  | ofNat n => simp [toString, Int.repr]
  | negSucc n => simp [toString, Int.repr]

theorem positional_ne_nil (d : Binary64.Decimal) : d.positional true ≠ [] := by
  simp only [Binary64.Decimal.positional]
  split <;> simp

/-- Every float has a text, also those that are no numbers. -/
theorem floatText_ne_nil (x : Binary64) : floatText x ≠ [] := by
  cases x with
  | nan => simp [floatText]
  | signed negative m =>
      rw [floatText]
      split
      · split <;> simp
      · simp only [Binary64.balancedText]
        split
        · simp
        · split
          · exact positional_ne_nil _
          · simp [Binary64.Decimal.scientific]

/-- Even the empty string is written, in quotes. -/
theorem writeString_ne_nil (indent : Nat) (text : List Char) (w : Writer) :
    (writeString indent text w).text.toList ≠ [] := by
  rw [writeString]
  split
  next hplain =>
    apply content_ne_nil
    rintro rfl
    exact absurd hplain (by decide)
  next => exact content_ne_nil (by simp) _
  next => exact content_ne_nil (by simp) _
  next =>
    have hheader : (w.separate.content (literalHeader text)).text.toList ≠ [] :=
      content_ne_nil (by simp [literalHeader]) _
    refine Extends.ne_nil ?_ hheader
    apply extends_writeLiteralChars
    exact (Extends.refl _).lineBreak '\n'

/-- The items of a sequence start with a dash. -/
theorem extends_writeItems_cons (indent : Nat) (item : Node) (rest : List Node) (w : Writer) :
    Extends ((w.indentTo indent).compactIndicator '-') (writeItems indent (item :: rest) w) := by
  rw [writeItems]
  apply extends_writeItems
  · exact extends_writeNode (Extends.refl _) _ _ _ _
  · exact fun item _ w hw indent inMapping tag => extends_writeNode hw indent inMapping tag item

/-- The entries of a mapping start with a mark, or with a key and a colon. -/
theorem extends_writeEntries_cons (indent : Nat) (key value : Node) (rest : List (Node × Node))
    (w : Writer) :
    Extends ((w.indentTo indent).compactIndicator '?') (writeEntries indent ((key, value) :: rest) w) ∨
      Extends ((writeNode (some indent) true none key (w.indentTo indent)).content [':'])
        (writeEntries indent ((key, value) :: rest) w) := by
  have hrest : ∀ {v w : Writer}, Extends v w → Extends v (writeEntries indent rest w) := by
    intro v w hw
    apply extends_writeEntries hw
    intro entry _ w hw indent inMapping tag
    exact ⟨extends_writeNode hw _ _ _ _, extends_writeNode hw _ _ _ _⟩
  rw [writeEntries]
  split
  · right
    exact hrest (extends_writeNode (Extends.refl _) _ _ _ _)
  · left
    have hkey := extends_writeNode (Extends.refl ((w.indentTo indent).compactIndicator '?'))
      (some indent) true none key
    exact hrest (extends_writeNode ((hkey.indentTo indent).compactIndicator ':') _ _ _ _)

theorem writeItems_ne_nil {items : List Node} (hitems : items.isEmpty ≠ true) (indent : Nat)
    (w : Writer) : (writeItems indent items w).text.toList ≠ [] := by
  obtain ⟨item, rest, rfl⟩ := List.exists_cons_of_ne_nil (by simpa using hitems)
  exact (extends_writeItems_cons indent item rest w).ne_nil (compactIndicator_ne_nil _ _)

theorem writeEntries_ne_nil {entries : List (Node × Node)} (hentries : entries.isEmpty ≠ true)
    (indent : Nat) (w : Writer) : (writeEntries indent entries w).text.toList ≠ [] := by
  obtain ⟨entry, rest, rfl⟩ := List.exists_cons_of_ne_nil (by simpa using hentries)
  rcases extends_writeEntries_cons indent entry.1 entry.2 rest w with hmark | hcolon
  · exact hmark.ne_nil (compactIndicator_ne_nil _ _)
  · exact hcolon.ne_nil (content_ne_nil (by simp) _)

/-- No node is written as nothing. -/
theorem writeNode_ne_nil (indent : Option Nat) (inMapping : Bool) (tag : Option String) (node : Node)
    (w : Writer) : (writeNode indent inMapping tag node w).text.toList ≠ [] := by
  induction node generalizing tag with
  | null => exact content_ne_nil (by simp) _
  | bool b => exact content_ne_nil (by cases b <;> simp) _
  | int n => exact content_ne_nil (toString_int_ne_nil n) _
  | float x => exact content_ne_nil (floatText_ne_nil x) _
  | str text => exact writeString_ne_nil _ _ _
  | seq items ih =>
      simp only [writeNode]
      split
      · exact content_ne_nil (by simp) _
      next hitems =>
        split
        · exact writeItems_ne_nil hitems _ _
        · exact writeItems_ne_nil hitems _ _
  | map entries ih =>
      simp only [writeNode]
      split
      · exact content_ne_nil (by simp) _
      next hentries =>
        split
        · exact writeEntries_ne_nil hentries _ _
        · exact writeEntries_ne_nil hentries _ _
  | tagged inner content ih =>
      simp only [writeNode]
      exact ih (some inner)

/-! ## How a collection starts -/

/-- A text that shows the start of a collection or a tag: an indicator in front, or a colon further on. -/
inductive Marked : List Char → Prop where
  | front (c : Char) (rest : List Char) (hc : c ∈ ['!', '-', '?', '[', '\x7b']) : Marked (c :: rest)
  | colon {before : List Char} (after : List Char) (hbefore : before ≠ []) :
    Marked (before ++ ':' :: after)

/-- A mark at the start stays there. -/
theorem Marked.of_extends {v w : Writer} (hmarked : Marked v.text.toList) (h : Extends v w) :
    Marked w.text.toList := by
  obtain ⟨more, hmore⟩ := h
  rw [← hmore]
  generalize v.text.toList = text at hmarked
  cases hmarked with
  | front c rest hc => exact .front c (rest ++ more) hc
  | colon after hbefore =>
      rw [List.append_assoc]
      exact .colon (after ++ more) hbefore

/-- Whether a node is a collection behind its tags. -/
def Node.IsCollection : Node → Prop
  | .seq _ | .map _ => True
  | .tagged _ content => content.IsCollection
  | .null | .bool _ | .int _ | .float _ | .str _ => False

/-- A sequence starts with a dash or a bracket. -/
theorem marked_writeNode_seq (items : List Node) :
    Marked (writeNode none false none (.seq items) .start).text.toList := by
  simp only [writeNode]
  split
  · exact .front '[' [']'] (by simp)
  next hitems =>
    obtain ⟨item, rest, rfl⟩ := List.exists_cons_of_ne_nil (by simpa using hitems)
    have hdash : Marked ((Writer.start.indentTo 0).compactIndicator '-').text.toList :=
      .front '-' [] (by simp)
    exact hdash.of_extends (extends_writeItems_cons 0 item rest .start)

theorem marked_writeNode_map (entries : List (Node × Node)) :
    Marked (writeNode none false none (.map entries) .start).text.toList := by
  simp only [writeNode]
  split
  · exact .front '\x7b' ['\x7d'] (by simp)
  next hentries =>
    obtain ⟨entry, rest, rfl⟩ := List.exists_cons_of_ne_nil (by simpa using hentries)
    rcases extends_writeEntries_cons 0 entry.1 entry.2 rest .start with hmark | hcolon
    · have hquestion : Marked ((Writer.start.indentTo 0).compactIndicator '?').text.toList :=
        .front '?' [] (by simp)
      exact hquestion.of_extends hmark
    · refine Marked.of_extends ?_ hcolon
      rw [Writer.content, Writer.put, String.toList_append, String.toList_ofList]
      exact .colon [] (writeNode_ne_nil _ _ _ _ _)

/-- A tag starts with its exclamation mark. -/
theorem marked_writeTag (tag : String) : Marked (writeTag (some tag) .start).text.toList := by
  have htext : (writeTag (some tag) .start).text.toList = tagText tag := by
    simp [writeTag, Writer.separate, Writer.start, Writer.content, Writer.put]
  rw [htext, tagText]
  split
  · exact .front '!' "<%21>".toList (by simp)
  · exact .front '!' _ (by simp)

/-- A collection with or without a tag is recognized from its text. -/
theorem Node.marked_render {node : Node} (hcollection : node.IsCollection)
    (hnested : node.nestsTags = false) : Marked node.render.toList := by
  have hnode : Marked (writeNode none false none node .start).text.toList := by
    cases node with
    | seq items => exact marked_writeNode_seq items
    | map entries => exact marked_writeNode_map entries
    | tagged tag content =>
        have htag :
            Extends (writeTag (some tag) .start) (writeNode none false (some tag) content .start) := by
          cases content with
          | seq items => exact extends_writeNode (Extends.refl _) none false none (.seq items)
          | map entries => exact extends_writeNode (Extends.refl _) none false none (.map entries)
          | tagged inner content => simp [nestsTags] at hnested
          | _ => cases hcollection
        simp only [writeNode]
        exact (marked_writeTag tag).of_extends htag
    | _ => cases hcollection
  exact hnode.of_extends ((Extends.refl _).indentTo 0)

end DocPath.Yaml
