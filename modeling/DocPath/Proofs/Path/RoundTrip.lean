import DocPath.Proofs.Path.Compiling

/-!
# Canonical texts

The canonical text of a path compiles to the path again exactly when every segment can be expressed: its name
or text is a word, and that of a generic key is no numeral. Compiled paths have expressible segments only, so
compiling the canonical text of a compiled path changes nothing.
-/

namespace DocPath.Path

open DocPath.Text

/-! ## Expressible segments -/

/-- A text that can stand in an expression: at least one word character, and nothing else. -/
def IsName (text : String) : Prop := text ≠ "" ∧ ∀ c ∈ text.toList, IsWordChar c

/-- A step that some expression compiles to. A generic key of digits would be read as an index. -/
def Step.Expressible : Step → Prop
  | .method name => IsName name
  | .symbolKey name => IsName name
  | .stringKey text => IsName text
  | .arrayIndex _ => True
  | .genericKey text => IsName text ∧ ¬ ∀ c ∈ text.toList, c.isDigit = true

/-- A segment that some expression compiles to. -/
def Segment.Expressible (segment : Segment) : Prop := segment.step.Expressible

theorem Word.isName (word : Word) : IsName (String.ofList word.chars) := by
  refine ⟨?_, ?_⟩
  · intro hempty
    apply word.chars_ne_nil
    rw [← String.toList_ofList (l := word.chars), hempty]
    rfl
  · rw [String.toList_ofList]
    exact word.isWordChar_of_mem

/-- The word of a name. -/
def Word.ofName (text : String) (hname : IsName text) : Word where
  chars := text.toList
  chars_ne_nil := fun hnil => hname.1 (String.toList_eq_nil_iff.mp hnil)
  isWordChar_of_mem := hname.2

/-- The digits of a number as a word. -/
def Word.ofNat (n : Nat) : Word where
  chars := Numeral.digits n
  chars_ne_nil := Numeral.digits_ne_nil n
  isWordChar_of_mem := fun _ hc => isWordChar_of_isDigit (Numeral.isDigit_of_mem_digits hc)

theorem Word.isNumeral_iff {word : Word} :
    word.isNumeral = true ↔ ∀ c ∈ word.chars, c.isDigit = true := List.all_eq_true

/-- A segment of the shape of a generic key is no numeral. -/
theorem Spelling.isNumeral_of_kind {spelling : Spelling} (hkind : spelling.kind = .genericKey) :
    spelling.word.isNumeral = false := by
  cases spelling with
  | dotted bang name => cases hkind
  | bracketed before within inside =>
      cases inside with
      | symbol name => cases hkind
      | quoted quote content => cases hkind
      | bare content =>
          rw [Spelling.kind, Inside.kind] at hkind
          split at hkind
          next => cases hkind
          next hnumeral => exact Bool.eq_false_iff.mpr hnumeral

/-- Whatever a segment is written like, it stands for an expressible one. -/
theorem Spelling.Denotes.expressible {spelling : Spelling} {segment : Segment}
    (hdenotes : spelling.Denotes segment) : segment.Expressible := by
  have hsegment := hdenotes 0
  rw [Segment.ofToken_token] at hsegment
  have hname : IsName spelling.lexeme := spelling.word.isName
  cases hkind : spelling.kind with
  | method | symbolKey | stringKey =>
      rw [hkind] at hsegment
      obtain rfl := Except.ok.inj hsegment
      exact hname
  | arrayIndex =>
      simp only [hkind] at hsegment
      split at hsegment
      · obtain rfl := Except.ok.inj hsegment
        trivial
      · cases hsegment
  | genericKey =>
      rw [hkind] at hsegment
      obtain rfl := Except.ok.inj hsegment
      refine ⟨hname, fun hdigits => ?_⟩
      rw [Spelling.lexeme, String.toList_ofList] at hdigits
      exact Bool.eq_false_iff.mp (Spelling.isNumeral_of_kind hkind) (Word.isNumeral_iff.mpr hdigits)

theorem expressible_of_denotes {row : List Spelling} {segments : List Segment}
    (hdenotes : List.Forall₂ Spelling.Denotes row segments) :
    ∀ segment ∈ segments, segment.Expressible := by
  induction hdenotes with
  | nil => simp
  | cons hspelling _ ih => exact List.forall_mem_cons.mpr ⟨hspelling.expressible, ih⟩

/-! ## Canonical spellings -/

/-- The spelling of a segment that its canonical text is. -/
def Segment.canonical (segment : Segment) (hsegment : segment.Expressible) : Spelling :=
  match segment, hsegment with
  | ⟨.method name, bang⟩, hname => .dotted bang (.ofName name hname)
  | ⟨.symbolKey name, bang⟩, hname => .bracketed bang false (.symbol (.ofName name hname))
  | ⟨.stringKey text, bang⟩, hname => .bracketed bang false (.quoted .double (.ofName text hname))
  | ⟨.arrayIndex index, bang⟩, _ => .bracketed bang false (.bare (.ofNat index.toNat))
  | ⟨.genericKey text, bang⟩, hkey => .bracketed bang false (.bare (.ofName text hkey.1))

/-- The text of a segment is one of its spellings. -/
theorem Segment.canonical_text {segment : Segment} (hsegment : segment.Expressible) :
    String.ofList (segment.canonical hsegment).text = segment.render := by
  apply String.toList_injective
  obtain ⟨step, mandatory⟩ := segment
  cases step <;> cases mandatory <;>
    simp [Segment.canonical, Segment.render, Spelling.text, bangText, Inside.text, Quote.char,
      Word.ofName, Word.ofNat, Numeral.digits]

/-- The canonical spelling of a segment stands for it. -/
theorem Segment.canonical_denotes {segment : Segment} (hsegment : segment.Expressible) :
    (segment.canonical hsegment).Denotes segment := by
  intro position
  rw [Segment.ofToken_token]
  obtain ⟨step, mandatory⟩ := segment
  cases step with
  | method | symbolKey | stringKey =>
      simp [Segment.canonical, Spelling.kind, Inside.kind, Spelling.bang, Spelling.lexeme,
        Spelling.word, Inside.word, Word.ofName]
  | arrayIndex index =>
      have hnumeral : (Word.ofNat index.toNat).isNumeral = true :=
        Word.isNumeral_iff.mpr fun c hc => Numeral.isDigit_of_mem_digits hc
      have hread : Numeral.read wordBound (Word.ofNat index.toNat).chars = .ok index.toNat :=
        Numeral.read_digits index.toNat_lt
      simp [Segment.canonical, Spelling.kind, Inside.kind, Spelling.bang, Spelling.word, Inside.word,
        hnumeral, hread]
  | genericKey text =>
      obtain ⟨hname, hdigits⟩ := hsegment
      have hnumeral : ¬ (Word.ofName text hname).isNumeral = true :=
        mt Word.isNumeral_iff.mp hdigits
      have hlexeme : String.ofList (Word.ofName text hname).chars = text := String.ofList_toList
      simp [Segment.canonical, Spelling.kind, Inside.kind, Spelling.bang, Spelling.lexeme,
        Spelling.word, Inside.word, hnumeral, hlexeme]

/-! ## Paths -/

theorem toList_render (path : Path) :
    path.render.toList = path.segments.flatMap fun segment => segment.render.toList := by
  have hfold : ∀ (segments : List Segment) (text : String),
      (segments.foldl (fun text segment => text ++ segment.render) text).toList =
        text.toList ++ segments.flatMap fun segment => segment.render.toList := by
    intro segments
    induction segments with
    | nil => simp
    | cons segment segments ih =>
        intro text
        rw [List.foldl_cons, ih]
        simp
  rw [render, hfold]
  simp

/-- The canonical texts of expressible segments, one after the other, are a row that stands for them. -/
theorem exists_row_of_expressible {segments : List Segment}
    (hsegments : ∀ segment ∈ segments, segment.Expressible) :
    ∃ row : List Spelling, rowText row = (segments.flatMap fun segment => segment.render.toList) ∧
      List.Forall₂ Spelling.Denotes row segments := by
  induction segments with
  | nil => exact ⟨[], rfl, .nil⟩
  | cons segment segments ih =>
      obtain ⟨hsegment, hrest⟩ := List.forall_mem_cons.mp hsegments
      obtain ⟨row, hrow, hdenotes⟩ := ih hrest
      refine ⟨segment.canonical hsegment :: row, ?_, .cons (segment.canonical_denotes hsegment) hdenotes⟩
      rw [rowText_cons, hrow, List.flatMap_cons, ← segment.canonical_text hsegment,
        String.toList_ofList]

/-- A path that can be spelled comes back from its text. -/
theorem parse_render_of_expressible {path : Path}
    (hpath : ∀ segment ∈ path.segments, segment.Expressible) :
    Path.parse path.render = .ok path := by
  obtain ⟨row, hrow, hdenotes⟩ := exists_row_of_expressible hpath
  refine parse_eq_ok_iff_row.mpr ⟨row, ?_, hdenotes⟩
  rw [hrow, ← toList_render, String.ofList_toList]

/-- Whatever an expression is compiled to can be spelled. -/
theorem expressible_of_parse {expression : String} {path : Path}
    (hpath : Path.parse expression = .ok path) :
    ∀ segment ∈ path.segments, segment.Expressible := by
  obtain ⟨row, -, hdenotes⟩ := parse_eq_ok_iff_row.mp hpath
  exact expressible_of_denotes hdenotes

/-- The canonical text of a path compiles to the path again exactly when every segment is expressible; so it
does for every path that an expression compiles to. -/
theorem parse_render_eq_ok_iff :
    (∀ path : Path, Path.parse path.render = .ok path ↔
      ∀ segment ∈ path.segments, segment.Expressible) ∧
    ∀ (expression : String) (path : Path),
      Path.parse expression = .ok path → Path.parse path.render = .ok path :=
  ⟨fun _ => ⟨expressible_of_parse, parse_render_of_expressible⟩,
    fun _ _ hpath => parse_render_of_expressible (expressible_of_parse hpath)⟩

end DocPath.Path
