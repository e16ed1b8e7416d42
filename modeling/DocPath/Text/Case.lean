import DocPath.Text.Case.Context
import DocPath.Text.Case.Mapping
import DocPath.Text.CodePoint

/-!
# Changing the case of texts

A character may become several. In lower case a sigma at the end of a word has a form of its own, which
needs its surroundings; everything else is mapped character by character.
-/

namespace DocPath.Text

/-- The image of a code point under the first run that holds it. -/
def applyRuns (runs : Array CaseRun) (n : Nat) : Option Nat :=
  (runs.find? fun run => run.first ≤ n && n ≤ run.last && (n - run.first) % run.step == 0).map
    fun run => ((n : Int) + run.distance).toNat

/-- The image of a character: an expansion, a run, or the character itself. -/
def applyMapping (expansions : Array (Nat × List Nat)) (runs : Array CaseRun) (c : Char) : List Char :=
  match expansions.find? (·.1 == c.toNat) with
  | some (_, image) => image.map Char.ofNat
  | none => [((applyRuns runs c.toNat).map Char.ofNat).getD c]

/-- The upper-case form of a character. -/
def upperChar (c : Char) : List Char := applyMapping upperExpansions upperRuns c

/-- The lower-case form of a character on its own. -/
def lowerChar (c : Char) : List Char := applyMapping lowerExpansions lowerRuns c

/-- Whether a character is in upper case and has a lower-case form. -/
def isUpper (c : Char) : Bool := lowerChar c != [c] && !inRanges titlecaseRanges c

/-- The upper-case form of a text. -/
def upper (text : List Char) : List Char := text.flatMap upperChar

/-- Whether the first character that is not case-ignorable is cased. -/
def leadsToCased (text : List Char) : Bool :=
  match text.dropWhile (inRanges caseIgnorableRanges) with
  | [] => false
  | c :: _ => inRanges casedRanges c

/-- Lowers the rest of a text of which `before` has been read, last character first. -/
def lowerAfter (before : List Char) : List Char → List Char
  | [] => []
  | c :: rest =>
    let image :=
      if c == 'Σ' then
        if leadsToCased before && !leadsToCased rest then ['ς'] else ['σ']
      else lowerChar c
    image ++ lowerAfter (c :: before) rest

/-- The lower-case form of a text. -/
def lower (text : List Char) : List Char := lowerAfter [] text

/-- The first character in upper case, and the rest lowered as a text of its own. -/
def capitalize : List Char → List Char
  | [] => []
  | c :: rest => upperChar c ++ lower rest

/-- Upper-case characters lowered and all others raised, each on its own. -/
def swapCase (text : List Char) : List Char :=
  text.flatMap fun c => if isUpper c then lowerChar c else upperChar c

end DocPath.Text
