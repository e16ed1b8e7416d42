import Mathlib.Data.List.TakeWhile
import DocPath.Proofs.Path.Grammar

/-!
# Scanning one segment

The scanner tries its shapes in a fixed order and takes the longest word. It finds a segment exactly where
one is written, and only the word of a dotted segment depends on what comes after it: there the scanner takes
every word character that follows.
-/

namespace DocPath.Path

/-- No word character stands at the front of a text. -/
def StopsWord (rest : List Char) : Prop := ∀ c ∈ rest.head?, ¬ IsWordChar c

/-- A text does not continue a segment: only a dotted word goes on as long as it can. -/
def Spelling.StopsBefore (spelling : Spelling) (rest : List Char) : Prop :=
  match spelling with
  | .dotted _ _ => StopsWord rest
  | .bracketed _ _ _ => True

theorem stopsWord_cons {c : Char} (rest : List Char) (hc : ¬ IsWordChar c) : StopsWord (c :: rest) := by
  simpa [StopsWord] using hc

/-! ## Runs -/

/-- A run ends at the first character that is not accepted. -/
theorem splitRun_append {accept : Char → Bool} {run rest : List Char}
    (hrun : ∀ c ∈ run, accept c = true) (hrest : ∀ c ∈ rest.head?, accept c = false) :
    splitRun accept (run ++ rest) = (run, rest) := by
  rw [splitRun, List.takeWhile_append_of_pos hrun, List.dropWhile_append_of_pos hrun]
  cases rest with
  | nil => simp
  | cons c rest =>
      have hc : accept c = false := hrest c (by simp)
      simp [hc]

/-- A run holds accepted characters only and is as long as possible. -/
theorem splitRun_eq_iff {accept : Char → Bool} {text run rest : List Char} :
    splitRun accept text = (run, rest) ↔
      text = run ++ rest ∧ (∀ c ∈ run, accept c = true) ∧ ∀ c ∈ rest.head?, accept c = false := by
  constructor
  · intro hsplit
    refine ⟨splitRun_eq_append hsplit, ?_⟩
    obtain ⟨rfl, rfl⟩ := Prod.mk.inj hsplit
    refine ⟨fun c hc => List.mem_takeWhile_imp hc, fun c hc => ?_⟩
    have hhead := List.head?_dropWhile_not accept text
    rw [Option.mem_def.mp hc] at hhead
    simpa using hhead
  · rintro ⟨rfl, hrun, hrest⟩
    exact splitRun_append hrun hrest

theorem Word.splitRun_append (word : Word) {rest : List Char} (hrest : StopsWord rest) :
    splitRun isWordChar (word.chars ++ rest) = (word.chars, rest) := by
  apply Path.splitRun_append
  · exact fun c hc => isWordChar_eq_true_iff.mpr (word.isWordChar_of_mem c hc)
  · exact fun c hc => Bool.eq_false_iff.mpr (mt isWordChar_eq_true_iff.mp (hrest c hc))

/-- A run of word characters that is not empty is a word. -/
theorem exists_word_of_splitRun {text rest run : List Char}
    (hsplit : splitRun isWordChar text = (run, rest)) (hne : run ≠ []) :
    ∃ word : Word, word.chars = run ∧ text = word.chars ++ rest ∧ StopsWord rest := by
  obtain ⟨rfl, hrun, hrest⟩ := splitRun_eq_iff.mp hsplit
  refine ⟨⟨run, hne, fun c hc => isWordChar_eq_true_iff.mp (hrun c hc)⟩, rfl, rfl, ?_⟩
  intro c hc hword
  exact Bool.eq_false_iff.mp (hrest c hc) (isWordChar_eq_true_iff.mpr hword)

/-! ## Insides of brackets -/

/-- What the scanner reports for an inside that is closed right before `rest`. -/
def Inside.bracketed (inside : Inside) (rest : List Char) : Bracketed :=
  ⟨inside.kind, inside.word.chars, inside.text ++ [']'], rest⟩

/-- The bracket that closes an inside ends its word. -/
theorem stopsWord_closing (rest : List Char) : StopsWord (']' :: rest) :=
  stopsWord_cons rest (not_isWordChar_of_mem_delimiters (by decide))

/-- A symbol in brackets is found, whatever follows them. -/
theorem symbolKey?_text_append (name : Word) (rest : List Char) :
    symbolKey? (':' :: (name.chars ++ ']' :: rest)) = some ((Inside.symbol name).bracketed rest) := by
  obtain ⟨first, more, hchars, -⟩ := name.chars_eq_cons
  rw [symbolKey?, name.splitRun_append (stopsWord_closing rest), hchars]
  simp [Inside.bracketed, Inside.kind, Inside.word, Inside.text, hchars]

theorem stringKey?_text_append (quote : Quote) (content : Word) (rest : List Char) :
    stringKey? (quote.char :: (content.chars ++ quote.char :: ']' :: rest)) =
      some ((Inside.quoted quote content).bracketed rest) := by
  obtain ⟨first, more, hchars, -⟩ := content.chars_eq_cons
  have hquote : (quote.char == '\'' || quote.char == '"') = true := by cases quote <;> rfl
  have hstop : StopsWord (quote.char :: ']' :: rest) :=
    stopsWord_cons _ (not_isWordChar_of_mem_delimiters quote.char_mem_delimiters)
  rw [stringKey?, if_pos hquote, content.splitRun_append hstop, hchars]
  simp [Inside.bracketed, Inside.kind, Inside.word, Inside.text, hchars]

theorem genericKey?_text_append (content : Word) (rest : List Char) :
    genericKey? (content.chars ++ ']' :: rest) =
      some ⟨.genericKey, content.chars, content.chars ++ [']'], rest⟩ := by
  obtain ⟨first, more, hchars, -⟩ := content.chars_eq_cons
  rw [genericKey?, content.splitRun_append (stopsWord_closing rest), hchars]
  rfl

theorem arrayIndex?_of_isNumeral {content : Word} (hnumeral : content.isNumeral = true)
    (rest : List Char) :
    arrayIndex? (content.chars ++ ']' :: rest) =
      some ⟨.arrayIndex, content.chars, content.chars ++ [']'], rest⟩ := by
  obtain ⟨first, more, hchars, -⟩ := content.chars_eq_cons
  have hdigits : splitRun Char.isDigit (content.chars ++ ']' :: rest) = (content.chars, ']' :: rest) :=
    splitRun_append (List.all_eq_true.mp hnumeral) (by simp)
  rw [arrayIndex?, hdigits, hchars]
  rfl

/-- The digits of other words end at a word character, so no bracket closes right after them. -/
theorem arrayIndex?_of_not_isNumeral {content : Word} (hnumeral : ¬ content.isNumeral = true)
    (rest : List Char) : arrayIndex? (content.chars ++ ']' :: rest) = none := by
  rw [arrayIndex?]
  split
  next => rfl
  next digits after _ hdigits =>
    exfalso
    obtain ⟨happend, hall, -⟩ := splitRun_eq_iff.mp hdigits
    have hrun : splitRun isWordChar (digits ++ ']' :: after) = (digits, ']' :: after) := by
      apply splitRun_append
      · exact fun c hc => isWordChar_eq_true_iff.mpr (isWordChar_of_isDigit (hall c hc))
      · simp
        decide
    rw [← happend, content.splitRun_append (stopsWord_closing rest)] at hrun
    have hword : content.chars = digits := (Prod.mk.inj hrun).1
    exact hnumeral (List.all_eq_true.mpr (hword ▸ hall))
  next => rfl

/-- A bare word is tried as an index first, and as a generic key when it is no numeral. -/
theorem bare_bracketed? (content : Word) (rest : List Char) :
    (arrayIndex? (content.chars ++ ']' :: rest)).or (genericKey? (content.chars ++ ']' :: rest)) =
      some ((Inside.bare content).bracketed rest) := by
  rw [Inside.bracketed, Inside.kind]
  by_cases hnumeral : content.isNumeral = true
  · rw [arrayIndex?_of_isNumeral hnumeral, Option.some_or, if_pos hnumeral]
    rfl
  · rw [arrayIndex?_of_not_isNumeral hnumeral, Option.none_or, genericKey?_text_append,
      if_neg hnumeral]
    rfl

/-- Every closed inside is found, whatever follows. -/
theorem bracketed?_text_append (inside : Inside) (rest : List Char) :
    bracketed? (inside.text ++ ']' :: rest) = some (inside.bracketed rest) := by
  -- The first character tells which shapes do not fit.
  cases inside with
  | symbol name =>
      rw [bracketed?, Inside.text, List.cons_append, symbolKey?_text_append, Option.some_or]
  | quoted quote content =>
      have htext : (Inside.quoted quote content).text ++ ']' :: rest =
          quote.char :: (content.chars ++ quote.char :: ']' :: rest) := by
        simp [Inside.text]
      have hsymbol : symbolKey? (quote.char :: (content.chars ++ quote.char :: ']' :: rest)) = none := by
        cases quote <;> rfl
      rw [bracketed?, htext, hsymbol, Option.none_or, stringKey?_text_append, Option.some_or]
  | bare content =>
      obtain ⟨first, more, hchars, hfirst⟩ := content.chars_eq_cons
      have hcolon : first ≠ ':' := hfirst.ne_delimiter (by decide)
      have hsingle : first ≠ '\'' := hfirst.ne_delimiter (by decide)
      have hdouble : first ≠ '"' := hfirst.ne_delimiter (by decide)
      have hsymbol : symbolKey? (content.chars ++ ']' :: rest) = none := by
        rw [hchars, List.cons_append]
        simp [symbolKey?, hcolon]
      have hstring : stringKey? (content.chars ++ ']' :: rest) = none := by
        rw [hchars, List.cons_append]
        simp [stringKey?, hsingle, hdouble]
      rw [bracketed?, Inside.text, hsymbol, hstring, Option.none_or, Option.none_or, bare_bracketed?]

/-- An inside is written in front of a text and closed. -/
def StartsClosed (body : List Char) : Prop :=
  ∃ (inside : Inside) (rest : List Char), body = inside.text ++ ']' :: rest

theorem startsClosed_of_symbolKey? {body : List Char} {found : Bracketed}
    (hfound : symbolKey? body = some found) : StartsClosed body := by
  unfold symbolKey? at hfound
  split at hfound
  next content =>
    split at hfound
    next => cases hfound
    next name rest hne hsplit =>
      obtain ⟨word, -, rfl, -⟩ := exists_word_of_splitRun hsplit (fun hnil => hne hnil)
      exact ⟨.symbol word, rest, rfl⟩
    next => cases hfound
  next => cases hfound

theorem startsClosed_of_stringKey? {body : List Char} {found : Bracketed}
    (hfound : stringKey? body = some found) : StartsClosed body := by
  unfold stringKey? at hfound
  split at hfound
  next opening content =>
    split at hfound
    next hopening =>
      have hquote : ∃ quote : Quote, quote.char = opening := by
        rcases Bool.or_eq_true_iff.mp hopening with hsingle | hdouble
        · exact ⟨.single, (eq_of_beq hsingle).symm⟩
        · exact ⟨.double, (eq_of_beq hdouble).symm⟩
      obtain ⟨quote, rfl⟩ := hquote
      split at hfound
      next => cases hfound
      next run closing rest hne hsplit =>
        split at hfound
        next hclosing =>
          obtain rfl := eq_of_beq hclosing
          obtain ⟨word, -, rfl, -⟩ := exists_word_of_splitRun hsplit (fun hnil => hne hnil)
          exact ⟨.quoted quote word, rest, by simp [Inside.text]⟩
        next => cases hfound
      next => cases hfound
    next => cases hfound
  next => cases hfound

theorem startsClosed_of_arrayIndex? {body : List Char} {found : Bracketed}
    (hfound : arrayIndex? body = some found) : StartsClosed body := by
  unfold arrayIndex? at hfound
  split at hfound
  next => cases hfound
  next digits rest hne hsplit =>
    obtain ⟨rfl, hall, -⟩ := splitRun_eq_iff.mp hsplit
    have hchars : ∀ c ∈ digits, IsWordChar c := fun c hc => isWordChar_of_isDigit (hall c hc)
    exact ⟨.bare ⟨digits, fun hnil => hne hnil, hchars⟩, rest, rfl⟩
  next => cases hfound

theorem startsClosed_of_genericKey? {body : List Char} {found : Bracketed}
    (hfound : genericKey? body = some found) : StartsClosed body := by
  unfold genericKey? at hfound
  split at hfound
  next => cases hfound
  next run rest hne hsplit =>
    obtain ⟨word, -, rfl, -⟩ := exists_word_of_splitRun hsplit (fun hnil => hne hnil)
    exact ⟨.bare word, rest, rfl⟩
  next => cases hfound

/-- Whatever the scanner finds between brackets is an inside. -/
theorem startsClosed_of_bracketed? {body : List Char} {found : Bracketed}
    (hfound : bracketed? body = some found) : StartsClosed body := by
  simp only [bracketed?, Option.or_eq_some_iff] at hfound
  rcases hfound with hsymbol | ⟨-, hstring | ⟨-, hindex | ⟨-, hgeneric⟩⟩⟩
  · exact startsClosed_of_symbolKey? hsymbol
  · exact startsClosed_of_stringKey? hstring
  · exact startsClosed_of_arrayIndex? hindex
  · exact startsClosed_of_genericKey? hgeneric

/-! ## Segments -/

/-- Whether a segment is written with a `!`. -/
def Spelling.bang : Spelling → Bool
  | .dotted bang _ => bang
  | .bracketed before within _ => before || within

/-- What the scanner reports for a segment that stands right before `rest`. -/
def Spelling.scanned (spelling : Spelling) (rest : List Char) : Scanned :=
  ⟨spelling.kind, spelling.word.chars, spelling.bang, spelling.text, rest⟩

/-- A bracketed segment is found by the inside of its bracket. -/
theorem scanBracket?_of_splitBang {text opened body : List Char} {before within : Bool}
    (hbefore : splitBang text = (before, '[' :: opened)) (hwithin : splitBang opened = (within, body)) :
    scanBracket? text = (bracketed? body).map fun b =>
      ⟨b.kind, b.lexeme, before || within, bangText before ++ '[' :: (bangText within ++ b.text),
        b.rest⟩ := by
  unfold scanBracket?
  simp only [hbefore, hwithin]

/-- A name behind a dot is found up to the end of the word. -/
theorem scanMethod?_text_append (bang : Bool) (name : Word) {rest : List Char}
    (hrest : StopsWord rest) :
    scanMethod? ('.' :: (bangText bang ++ (name.chars ++ rest))) =
      some ((Spelling.dotted bang name).scanned rest) := by
  obtain ⟨first, more, hchars, -⟩ := name.chars_eq_cons
  rw [scanMethod?, splitBang_bangText_append bang (name.head?_ne_bang rest)]
  dsimp only
  rw [name.splitRun_append hrest, hchars]
  simp [Spelling.scanned, Spelling.kind, Spelling.word, Spelling.bang, Spelling.text, hchars]

/-- An inside in brackets is found, with a bang before them, within them, or both. -/
theorem scanBracket?_text_append (before within : Bool) (inside : Inside) (rest : List Char) :
    scanBracket? (bangText before ++ '[' :: (bangText within ++ (inside.text ++ ']' :: rest))) =
      some ((Spelling.bracketed before within inside).scanned rest) := by
  have hbefore : splitBang
      (bangText before ++ '[' :: (bangText within ++ (inside.text ++ ']' :: rest))) =
        (before, '[' :: (bangText within ++ (inside.text ++ ']' :: rest))) :=
    splitBang_bangText_append before (by simp)
  have hwithin := splitBang_bangText_append within (inside.head?_ne_bang (']' :: rest))
  rw [scanBracket?_of_splitBang hbefore hwithin, bracketed?_text_append]
  rfl

/-- Every segment is found, if what follows does not continue it. -/
theorem scanSegment?_text_append (spelling : Spelling) {rest : List Char}
    (hstops : spelling.StopsBefore rest) :
    scanSegment? (spelling.text ++ rest) = some (spelling.scanned rest) := by
  cases spelling with
  | dotted bang name =>
      have htext : (Spelling.dotted bang name).text ++ rest =
          '.' :: (bangText bang ++ (name.chars ++ rest)) := by
        simp [Spelling.text]
      rw [scanSegment?, htext, scanMethod?_text_append bang name hstops, Option.some_or]
  | bracketed before within inside =>
      have htext : (Spelling.bracketed before within inside).text ++ rest =
          bangText before ++ '[' :: (bangText within ++ (inside.text ++ ']' :: rest)) := by
        simp [Spelling.text]
      have hmethod : ∀ tail, scanMethod? (bangText before ++ '[' :: tail) = none := by
        intro tail
        cases before <;> rfl
      rw [scanSegment?, htext, hmethod, Option.none_or, scanBracket?_text_append]

/-- A segment is written in front of a text that does not continue it. -/
def StartsSegment (text : List Char) : Prop :=
  ∃ (spelling : Spelling) (rest : List Char),
    spelling.StopsBefore rest ∧ text = spelling.text ++ rest

theorem startsSegment_of_scanMethod? {text : List Char} {found : Scanned}
    (hfound : scanMethod? text = some found) : StartsSegment text := by
  unfold scanMethod? at hfound
  split at hfound
  next afterDot =>
    dsimp only at hfound
    split at hfound
    next => cases hfound
    next name rest hne hsplit =>
      obtain ⟨word, -, hbody, hstops⟩ := exists_word_of_splitRun hsplit (fun hnil => hne hnil)
      refine ⟨.dotted (splitBang afterDot).1 word, rest, hstops, ?_⟩
      rw [Spelling.text, List.cons_append, List.append_assoc, ← hbody, bangText_append_splitBang]
  next => cases hfound

theorem startsSegment_of_scanBracket? {text : List Char} {found : Scanned}
    (hfound : scanBracket? text = some found) : StartsSegment text := by
  unfold scanBracket? at hfound
  dsimp only at hfound
  split at hfound
  next opened hopened =>
    obtain ⟨b, hb, -⟩ := Option.map_eq_some_iff.mp hfound
    obtain ⟨inside, rest, hinside⟩ := startsClosed_of_bracketed? hb
    refine ⟨.bracketed (splitBang text).1 (splitBang opened).1 inside, rest, trivial, ?_⟩
    calc
      text = bangText (splitBang text).1 ++ '[' :: opened := by
        rw [← hopened, bangText_append_splitBang]
      _ = bangText (splitBang text).1 ++
            '[' :: (bangText (splitBang opened).1 ++ (inside.text ++ ']' :: rest)) := by
        rw [← hinside, bangText_append_splitBang]
      _ = _ := by simp [Spelling.text]
  next => cases hfound

/-- Whatever the scanner finds is a segment. -/
theorem startsSegment_of_scanSegment? {text : List Char} {found : Scanned}
    (hfound : scanSegment? text = some found) : StartsSegment text := by
  rw [scanSegment?, Option.or_eq_some_iff] at hfound
  rcases hfound with hmethod | ⟨-, hbracket⟩
  · exact startsSegment_of_scanMethod? hmethod
  · exact startsSegment_of_scanBracket? hbracket

/-- The scanner finds exactly the segments that are written at the front of a text. -/
theorem scanSegment?_eq_some_iff {text : List Char} {found : Scanned} :
    scanSegment? text = some found ↔
      ∃ (spelling : Spelling) (rest : List Char),
        spelling.StopsBefore rest ∧ text = spelling.text ++ rest ∧ found = spelling.scanned rest := by
  constructor
  · intro hfound
    obtain ⟨spelling, rest, hstops, rfl⟩ := startsSegment_of_scanSegment? hfound
    rw [scanSegment?_text_append spelling hstops] at hfound
    exact ⟨spelling, rest, hstops, rfl, (Option.some.inj hfound).symm⟩
  · rintro ⟨spelling, rest, hstops, rfl, rfl⟩
    exact scanSegment?_text_append spelling hstops

end DocPath.Path
