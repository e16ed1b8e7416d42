import Mathlib.Data.List.Forall2
import DocPath.Document.Stream

/-!
# Texts of lines

Each line has a number, one more than there are line feeds before it. So a text that is cut after a line feed has
the lines of both parts, and those of the second part are numbered on from the line feeds of the first. What a
text of lines comes to follows from its lines alone: the values of those that are not blank, or else the number of
the first one that cannot be read.
-/

namespace DocPath

/-- The same error in a text that follows a number of lines. -/
def TextError.below (offset : Nat) : TextError → TextError
  | .line number => .line (offset + number)
  | .document number => .document number

namespace Document

/-! ## The lines of a text -/

/-- A text behind which a new line starts. -/
def EndsLine (text : List Char) : Prop := text = [] ∨ text.getLast? = some '\n'

/-- A line of a text by its number. It starts at the front or behind a line feed and goes on to the next one, or to
the end of the text if anything is left there. A carriage return before a line feed is no part of it. -/
inductive IsLine : List Char → Nat → List Char → Prop where
  | ended {before row : List Char} (hbefore : EndsLine before) (hrow : '\n' ∉ row) (after : List Char) :
    IsLine (before ++ (row ++ '\n' :: after)) (before.count '\n' + 1) (stripReturn row)
  | last {before row : List Char} (hbefore : EndsLine before) (hrow : '\n' ∉ row) (hne : row ≠ []) :
    IsLine (before ++ row) (before.count '\n' + 1) row

/-- A text is empty, a last line, or a line with its line feed in front of another text. -/
theorem lines_induction {motive : List Char → Prop} (empty : motive [])
    (last : ∀ row, '\n' ∉ row → row ≠ [] → motive row)
    (ended : ∀ row rest, '\n' ∉ row → motive rest → motive (row ++ '\n' :: rest)) (text : List Char) :
    motive text := by
  by_cases hbreak : '\n' ∈ text
  · obtain ⟨row, rest, hsplit, hrow⟩ := List.eq_append_cons_of_mem hbreak
    have hrest : motive rest := lines_induction empty last ended rest
    exact hsplit ▸ ended row rest hrow hrest
  · rcases eq_or_ne text [] with rfl | hne
    · exact empty
    · exact last text hbreak hne
termination_by text.length
decreasing_by
  rw [hsplit, List.length_append, List.length_cons]
  omega

/-- A row without line feeds is taken in as part of the current line. -/
theorem lines_go_append {row : List Char} (hrow : '\n' ∉ row) (current rest : List Char) :
    lines.go current (row ++ rest) = lines.go (row.reverse ++ current) rest := by
  induction row generalizing current with
  | nil => rfl
  | cons c row ih =>
      rw [List.mem_cons, not_or] at hrow
      have hc : ¬ (c == '\n') = true := fun hc => hrow.1 (beq_iff_eq.mp hc).symm
      rw [List.cons_append, lines.go, if_neg hc, ih hrow.2, List.reverse_cons, List.append_assoc,
        List.singleton_append]

/-- Up to its first line feed a text is one line, and what follows is a text of its own. -/
theorem lines_row_append {row : List Char} (hrow : '\n' ∉ row) (rest : List Char) :
    lines (row ++ '\n' :: rest) = stripReturn row :: lines rest := by
  rw [lines, lines_go_append hrow, lines.go, if_pos (beq_self_eq_true _), List.append_nil, List.reverse_reverse]

theorem lines_of_not_mem {row : List Char} (hrow : '\n' ∉ row) (hne : row ≠ []) : lines row = [row] := by
  have hgo := lines_go_append hrow [] []
  rw [List.append_nil, List.append_nil] at hgo
  rw [lines, hgo, lines.go, if_neg (by simpa using hne), List.reverse_reverse]

theorem not_endsLine {row : List Char} (hrow : '\n' ∉ row) (hne : row ≠ []) : ¬ EndsLine row := by
  rintro (hnil | hlast)
  · exact hne hnil
  · exact hrow (List.mem_of_getLast? hlast)

theorem endsLine_row_append {row rest : List Char} : EndsLine (row ++ '\n' :: rest) ↔ EndsLine rest := by
  cases rest <;> simp [EndsLine, List.getLast?_append]

theorem count_row_append {row : List Char} (hrow : '\n' ∉ row) (rest : List Char) :
    (row ++ '\n' :: rest).count '\n' = rest.count '\n' + 1 := by
  rw [List.count_append, List.count_eq_zero_of_not_mem hrow, List.count_cons_self, Nat.zero_add]

section

variable {first : List Char} (hfirst : EndsLine first)

include hfirst

/-- Behind the end of a line nothing before it matters, so the lines of two such texts are put together. -/
theorem lines_append (second : List Char) : lines (first ++ second) = lines first ++ lines second := by
  induction first using lines_induction with
  | empty => rfl
  | last row hrow hne => exact absurd hfirst (not_endsLine hrow hne)
  | ended row rest hrow ih =>
      rw [List.append_assoc, List.cons_append, lines_row_append hrow, lines_row_append hrow,
        ih (endsLine_row_append.mp hfirst), List.cons_append]

/-- A text that ends with a line feed has as many lines as line feeds. -/
theorem length_lines : (lines first).length = first.count '\n' := by
  induction first using lines_induction with
  | empty => rfl
  | last row hrow hne => exact absurd hfirst (not_endsLine hrow hne)
  | ended row rest hrow ih =>
      rw [lines_row_append hrow, List.length_cons, ih (endsLine_row_append.mp hfirst), count_row_append hrow]

end

theorem IsLine.row_append {row text line : List Char} {number : Nat} (hrow : '\n' ∉ row)
    (hline : IsLine text number line) : IsLine (row ++ '\n' :: text) (number + 1) line := by
  cases hline with
  | ended hbefore hrow' after =>
      rw [← count_row_append hrow, ← List.cons_append, ← List.append_assoc]
      exact .ended (endsLine_row_append.mpr hbefore) hrow' after
  | last hbefore hrow' hne =>
      rw [← count_row_append hrow, ← List.cons_append, ← List.append_assoc]
      exact .last (endsLine_row_append.mpr hbefore) hrow' hne

theorem IsLine.pos {text line : List Char} {number : Nat} (hline : IsLine text number line) : 0 < number := by
  cases hline <;> exact Nat.succ_pos _

/-- The scan finds lines only, each at its number. -/
theorem isLine_of_getElem? {text line : List Char} {i : Nat} (hline : (lines text)[i]? = some line) :
    IsLine text (i + 1) line := by
  induction text using lines_induction generalizing i with
  | empty => simp [lines, lines.go] at hline
  | last row hrow hne =>
      rw [lines_of_not_mem hrow hne, List.getElem?_singleton] at hline
      split at hline
      next hi =>
        obtain rfl := Option.some.inj hline
        rw [hi]
        exact .last (.inl rfl) hrow hne
      next => cases hline
  | ended row rest hrow ih =>
      rw [lines_row_append hrow] at hline
      cases i with
      | zero =>
          obtain rfl := Option.some.inj hline
          exact .ended (.inl rfl) hrow rest
      | succ i => exact (ih hline).row_append hrow

theorem getElem?_of_isLine {text line : List Char} {number : Nat} (hline : IsLine text number line) :
    (lines text)[number - 1]? = some line := by
  cases hline with
  | ended hbefore hrow after =>
      rw [lines_append hbefore, lines_row_append hrow, Nat.add_sub_cancel, ← length_lines hbefore]
      simp
  | last hbefore hrow hne =>
      rw [lines_append hbefore, lines_of_not_mem hrow hne, Nat.add_sub_cancel, ← length_lines hbefore]
      exact List.getElem?_concat_length

/-- The lines of a text are listed by their numbers, which start from one. -/
theorem getElem?_lines_iff {text line : List Char} {i : Nat} :
    (lines text)[i]? = some line ↔ IsLine text (i + 1) line :=
  ⟨isLine_of_getElem?, getElem?_of_isLine⟩

/-! ## The values of lines -/

/-- A line of white space alone. -/
def IsBlankLine (line : List Char) : Prop := ∀ c ∈ line, Text.isBlank c = true

instance (line : List Char) : Decidable (IsBlankLine line) := inferInstanceAs (Decidable (∀ c ∈ line, _))

section

variable {ε : Type} (read : List Char → Except ε Value)

/-- A line that should have a value and has none. -/
def Unreadable (line : List Char) : Prop := ¬ IsBlankLine line ∧ ∃ e, read line = .error e

/-- The place of the first line of a list that is unreadable. -/
def IsFirstUnreadable (rows : List (List Char)) (i : Nat) : Prop :=
  (∃ line, rows[i]? = some line ∧ Unreadable read line) ∧
    ∀ earlier < i, ∀ line, rows[earlier]? = some line → ¬ Unreadable read line

variable {read} {line : List Char}

theorem lineValuesFrom_of_blank (hblank : IsBlankLine line) (number : Nat) (rest : List (List Char)) :
    lineValuesFrom read number (line :: rest) = lineValuesFrom read (number + 1) rest := by
  rw [lineValuesFrom, if_pos (List.all_eq_true.mpr hblank)]

theorem lineValuesFrom_of_unreadable (hline : Unreadable read line) (number : Nat) (rest : List (List Char)) :
    lineValuesFrom read number (line :: rest) = .error (.line number) := by
  obtain ⟨hblank, e, hread⟩ := hline
  rw [lineValuesFrom, if_neg (mt List.all_eq_true.mp hblank), hread]

theorem lineValuesFrom_of_read (hblank : ¬ IsBlankLine line) {value : Value} (hread : read line = .ok value)
    (number : Nat) (rest : List (List Char)) :
    lineValuesFrom read number (line :: rest) = (lineValuesFrom read (number + 1) rest).map (value :: ·) := by
  rw [lineValuesFrom, if_neg (mt List.all_eq_true.mp hblank), hread]
  cases lineValuesFrom read (number + 1) rest <;> rfl

variable (read) in
/-- A line is blank, or unreadable, or has a value. -/
theorem line_cases (line : List Char) :
    IsBlankLine line ∨ Unreadable read line ∨ ¬ IsBlankLine line ∧ ∃ value, read line = .ok value := by
  by_cases hblank : IsBlankLine line
  · exact .inl hblank
  · cases hread : read line with
    | error e => exact .inr (.inl ⟨hblank, e, hread⟩)
    | ok value => exact .inr (.inr ⟨hblank, value, rfl⟩)

/-- The values of two lists of lines, the second numbered on from the first. A failure in the first is the whole
result. -/
theorem lineValuesFrom_append (number : Nat) (first second : List (List Char)) :
    lineValuesFrom read number (first ++ second) =
      match lineValuesFrom read number first with
      | .error e => .error e
      | .ok values => (lineValuesFrom read (number + first.length) second).map (values ++ ·) := by
  induction first generalizing number with
  | nil => cases hsecond : lineValuesFrom read number second <;> simp [lineValuesFrom, hsecond, Except.map]
  | cons line rest ih =>
      have hnumber : number + 1 + rest.length = number + (line :: rest).length := by
        rw [List.length_cons, Nat.add_assoc, Nat.add_comm 1]
      rcases line_cases read line with hblank | hunreadable | ⟨hblank, value, hread⟩
      · rw [List.cons_append, lineValuesFrom_of_blank hblank, lineValuesFrom_of_blank hblank, ih, hnumber]
      · rw [List.cons_append, lineValuesFrom_of_unreadable hunreadable, lineValuesFrom_of_unreadable hunreadable]
      · rw [List.cons_append, lineValuesFrom_of_read hblank hread, lineValuesFrom_of_read hblank hread, ih, hnumber]
        cases lineValuesFrom read (number + 1) rest with
        | error e => rfl
        | ok values => cases lineValuesFrom read (number + (line :: rest).length) second <;> rfl

/-- Lines that are numbered from another number on differ in the number of an error alone. -/
theorem lineValuesFrom_add (offset number : Nat) (rows : List (List Char)) :
    lineValuesFrom read (offset + number) rows =
      (lineValuesFrom read number rows).mapError (TextError.below offset) := by
  induction rows generalizing number with
  | nil => rfl
  | cons line rest ih =>
      rcases line_cases read line with hblank | hunreadable | ⟨hblank, value, hread⟩
      · rw [lineValuesFrom_of_blank hblank, lineValuesFrom_of_blank hblank, Nat.add_assoc, ih]
      · rw [lineValuesFrom_of_unreadable hunreadable, lineValuesFrom_of_unreadable hunreadable]
        rfl
      · rw [lineValuesFrom_of_read hblank hread, lineValuesFrom_of_read hblank hread, Nat.add_assoc, ih]
        cases lineValuesFrom read (number + 1) rest <;> rfl

/-- Lines are loaded exactly if all that are not blank can be read, in order. -/
theorem lineValuesFrom_eq_ok_iff {number : Nat} {rows : List (List Char)} {values : List Value} :
    lineValuesFrom read number rows = .ok values ↔
      List.Forall₂ (fun line value => read line = .ok value) (rows.filter (¬ IsBlankLine ·)) values := by
  induction rows generalizing number values with
  | nil => cases values <;> simp [lineValuesFrom]
  | cons line rest ih =>
      rcases line_cases read line with hblank | hunreadable | ⟨hblank, value, hread⟩
      · rw [lineValuesFrom_of_blank hblank, ih, List.filter_cons_of_neg (by simpa using hblank)]
      · rw [lineValuesFrom_of_unreadable hunreadable, List.filter_cons_of_pos (by simpa using hunreadable.1)]
        obtain ⟨-, e, hread⟩ := hunreadable
        cases values <;> simp [hread]
      · rw [lineValuesFrom_of_read hblank hread, List.filter_cons_of_pos (by simpa using hblank)]
        cases values with
        | nil => cases lineValuesFrom read (number + 1) rest <;> simp [Except.map]
        | cons first more =>
            rw [List.forall₂_cons, hread, Except.ok.injEq, ← @ih (number + 1)]
            cases lineValuesFrom read (number + 1) rest <;> simp [Except.map]

theorem isFirstUnreadable_zero {rest : List (List Char)} :
    IsFirstUnreadable read (line :: rest) 0 ↔ Unreadable read line := by
  simp [IsFirstUnreadable]

theorem isFirstUnreadable_succ {rest : List (List Char)} {i : Nat} :
    IsFirstUnreadable read (line :: rest) (i + 1) ↔ ¬ Unreadable read line ∧ IsFirstUnreadable read rest i := by
  simp only [IsFirstUnreadable, Nat.forall_lt_succ_left, List.getElem?_cons_succ, List.getElem?_cons_zero,
    Option.some.injEq, forall_eq']
  exact and_left_comm

/-- An error is always about the first line that cannot be read. -/
theorem lineValuesFrom_eq_error_iff {number : Nat} {rows : List (List Char)} {e : TextError} :
    lineValuesFrom read number rows = .error e ↔
      ∃ i, IsFirstUnreadable read rows i ∧ e = .line (number + i) := by
  induction rows generalizing number with
  | nil => simp [lineValuesFrom, IsFirstUnreadable]
  | cons line rest ih =>
      rw [← Nat.or_exists_add_one]
      simp only [isFirstUnreadable_zero, isFirstUnreadable_succ]
      rcases line_cases read line with hblank | hunreadable | ⟨hblank, value, hread⟩
      · have hline : ¬ Unreadable read line := fun hline => hline.1 hblank
        rw [lineValuesFrom_of_blank hblank, ih]
        simp [hline, Nat.add_assoc, Nat.add_comm 1]
      · rw [lineValuesFrom_of_unreadable hunreadable]
        simp [hunreadable, eq_comm]
      · have hline : ¬ Unreadable read line := by simp [Unreadable, hread]
        have hrest : lineValuesFrom read number (line :: rest) = .error e ↔
            lineValuesFrom read (number + 1) rest = .error e := by
          rw [lineValuesFrom_of_read hblank hread]
          cases lineValuesFrom read (number + 1) rest <;> simp [Except.map]
        rw [hrest, ih]
        simp [hline, Nat.add_assoc, Nat.add_comm 1]

/-! ## Texts -/

/-- At a cut behind a line feed the lines fall apart, and the numbers below it are counted on. -/
theorem lineValuesFrom_lines_append {first : List Char} (hfirst : EndsLine first) (second : List Char) :
    lineValuesFrom read 1 (lines (first ++ second)) =
      match lineValuesFrom read 1 (lines first) with
      | .error e => .error e
      | .ok values =>
        ((lineValuesFrom read 1 (lines second)).mapError (TextError.below (first.count '\n'))).map (values ++ ·) := by
  rw [lines_append hfirst, lineValuesFrom_append, length_lines hfirst, Nat.add_comm, lineValuesFrom_add]

/-- A text of lines comes to an array of values, never to anything else. -/
theorem loadLinesWith_eq_ok_iff {text : String} {value : Value} :
    loadLinesWith read text = .ok value ↔
      ∃ values, value = .array values ∧ lineValuesFrom read 1 (lines text.toList) = .ok values := by
  rw [loadLinesWith]
  cases lineValuesFrom read 1 (lines text.toList) <;> simp [Except.map, eq_comm]

theorem loadLinesWith_eq_error_iff {text : String} {e : TextError} :
    loadLinesWith read text = .error e ↔ lineValuesFrom read 1 (lines text.toList) = .error e := by
  rw [loadLinesWith]
  cases lineValuesFrom read 1 (lines text.toList) <;> simp [Except.map]

/-- The first unreadable line, by its place among the lines found or by its number in the text. -/
theorem exists_isFirstUnreadable_iff {text : List Char} {e : TextError} :
    (∃ i, IsFirstUnreadable read (lines text) i ∧ e = .line (1 + i)) ↔
      ∃ number line, e = .line number ∧ IsLine text number line ∧ Unreadable read line ∧
        ∀ earlier < number, ∀ other, IsLine text earlier other → ¬ Unreadable read other := by
  constructor
  · rintro ⟨i, ⟨⟨line, hline, hunreadable⟩, hbefore⟩, rfl⟩
    refine ⟨1 + i, line, rfl, Nat.add_comm i 1 ▸ getElem?_lines_iff.mp hline, hunreadable, ?_⟩
    intro earlier hlt other hother
    have hpos := hother.pos
    exact hbefore (earlier - 1) (by omega) other (getElem?_of_isLine hother)
  · rintro ⟨number, line, rfl, hline, hunreadable, hbefore⟩
    have hpos := hline.pos
    refine ⟨number - 1, ⟨⟨line, getElem?_of_isLine hline, hunreadable⟩, ?_⟩, by rw [Nat.add_sub_cancel' hpos]⟩
    intro earlier hlt other hother
    exact hbefore (earlier + 1) (by omega) other (getElem?_lines_iff.mp hother)

variable (read)

/-- A text of lines has the values of its lines that are not blank, in order, or else fails with the number of the
first line that cannot be read, for which blank lines count as well. So where a text is cut after a line feed, the
values of the second part follow those of the first. A failure in the first part is one of the whole text, and one
in the second part as well, with a number that counts on from the line feeds of the first. -/
theorem loadLinesWith_append {first : String} (hfirst : EndsLine first.toList) (second : String) :
    (∀ values more, loadLinesWith read first = .ok (.array values) → loadLinesWith read second = .ok (.array more) →
      loadLinesWith read (first ++ second) = .ok (.array (values ++ more))) ∧
    (∀ number, loadLinesWith read first = .error (.line number) →
      loadLinesWith read (first ++ second) = .error (.line number)) ∧
    (∀ value number, loadLinesWith read first = .ok value → loadLinesWith read second = .error (.line number) →
      loadLinesWith read (first ++ second) = .error (.line (first.toList.count '\n' + number))) ∧
    ∀ text : String,
      (∀ i line, (lines text.toList)[i]? = some line ↔ IsLine text.toList (i + 1) line) ∧
      (∀ value, loadLinesWith read text = .ok value ↔ ∃ values, value = .array values ∧
        List.Forall₂ (fun line value => read line = .ok value)
          ((lines text.toList).filter (¬ IsBlankLine ·)) values) ∧
      ∀ e, loadLinesWith read text = .error e ↔ ∃ number line, e = .line number ∧
        IsLine text.toList number line ∧ Unreadable read line ∧
        ∀ earlier < number, ∀ other, IsLine text.toList earlier other → ¬ Unreadable read other := by
  have happend : lineValuesFrom read 1 (lines (first.toList ++ second.toList)) = _ :=
    lineValuesFrom_lines_append hfirst second.toList
  rw [← String.toList_append] at happend
  refine ⟨?_, ?_, ?_, fun text => ⟨fun _ _ => getElem?_lines_iff, ?_, ?_⟩⟩
  · intro values more hvalues hmore
    simp only [loadLinesWith_eq_ok_iff, Value.array.injEq, exists_eq_left'] at hvalues hmore ⊢
    rw [happend, hvalues, hmore]
    rfl
  · intro number hfail
    rw [loadLinesWith_eq_error_iff] at hfail ⊢
    rw [happend, hfail]
  · intro value number hvalue hfail
    obtain ⟨values, rfl, hvalues⟩ := loadLinesWith_eq_ok_iff.mp hvalue
    rw [loadLinesWith_eq_error_iff] at hfail ⊢
    rw [happend, hvalues, hfail]
    rfl
  · intro value
    simp only [loadLinesWith_eq_ok_iff, lineValuesFrom_eq_ok_iff]
  · intro e
    rw [loadLinesWith_eq_error_iff, lineValuesFrom_eq_error_iff, exists_isFirstUnreadable_iff]

/-- Blank lines in both parts of a text, before a value in one and before a failure in another. -/
theorem loadLinesWith_append_of_blank_lines :
    let read : List Char → Except Unit Value := fun line =>
      if line = ['x'] then .error () else .ok (.str (String.ofList line))
    EndsLine "a\r\n\n".toList ∧ loadLinesWith read "a\r\n\n" = .ok (.array [.str "a"]) ∧
      loadLinesWith read " \nb" = .ok (.array [.str "b"]) ∧ loadLinesWith read " \nx" = .error (.line 2) ∧
      loadLinesWith read ("a\r\n\n" ++ " \nb") = .ok (.array [.str "a", .str "b"]) ∧
      loadLinesWith read ("a\r\n\n" ++ " \nx") = .error (.line 4) := by
  intro read
  have hfirst : EndsLine "a\r\n\n".toList := .inr (by decide)
  have hvalue : loadLinesWith read "a\r\n\n" = .ok (.array [.str "a"]) := by cbv
  have hmore : loadLinesWith read " \nb" = .ok (.array [.str "b"]) := by cbv
  have hfail : loadLinesWith read " \nx" = .error (.line 2) := by cbv
  refine ⟨hfirst, hvalue, hmore, hfail, ?_, ?_⟩
  · exact (loadLinesWith_append read hfirst " \nb").1 [.str "a"] [.str "b"] hvalue hmore
  · exact (loadLinesWith_append read hfirst " \nx").2.2.1 _ 2 hvalue hfail

end

end Document

end DocPath
