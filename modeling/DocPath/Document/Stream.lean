import DocPath.Document.Conversion
import DocPath.Text.Blank
import DocPath.Yaml.Stream

/-!
# Loading text

The value of a text: a single document stands for itself, several become an array, and none is nil. A text
of lines has a document on each line that is not blank and always becomes an array.
-/

namespace DocPath

/-- The place at which a text could not be read, counted from one. -/
inductive TextError where
  | document (number : Nat)
  | line (number : Nat)
  deriving DecidableEq, Repr

/-- The wording of each error. -/
def TextError.message : TextError → String
  | .document n => "Failed to parse document " ++ toString n
  | .line n => "Invalid JSON on line " ++ toString n

namespace Document

/-- The values of documents, of which the first has the given number. -/
def valuesFrom (symbolize : Bool) (number : Nat) :
    List (Except Yaml.NodeError Yaml.Node) → Except TextError (List Value)
  | [] => .ok []
  | .error _ :: _ => .error (.document number)
  | .ok node :: rest => do
    return .ofNode symbolize node :: (← valuesFrom symbolize (number + 1) rest)

/-- The value of a text of any number of documents. -/
def load (symbolize : Bool) (text : String) : Except TextError Value := do
  match ← valuesFrom symbolize 1 (Yaml.documents text.toList) with
  | [] => return .nil
  | [value] => return value
  | values => return .array values

/-! ### Lines -/

/-- Removes the carriage return at the end of a line. -/
def stripReturn (line : List Char) : List Char :=
  match line.reverse with
  | '\r' :: before => before.reverse
  | _ => line

/-- The lines of a text, each without its line feed and the carriage return before it. The text after the
last line feed is a line of its own unless it is empty; there a carriage return stays. -/
def lines : List Char → List (List Char) := go []
where
  /-- The lines of a text of which `current`, last character first, is on the first line. -/
  go (current : List Char) : List Char → List (List Char)
    | [] => if current.isEmpty then [] else [current.reverse]
    | c :: rest =>
      if c == '\n' then stripReturn current.reverse :: go [] rest else go (c :: current) rest

/-- The values of lines, of which the first has the given number; blank ones have none. -/
def lineValuesFrom {ε : Type} (read : List Char → Except ε Value) (number : Nat) :
    List (List Char) → Except TextError (List Value)
  | [] => .ok []
  | line :: rest =>
    if line.all Text.isBlank then lineValuesFrom read (number + 1) rest
    else
      match read line with
      | .error _ => .error (.line number)
      | .ok value => do return value :: (← lineValuesFrom read (number + 1) rest)

/-- The value of a text with a document on each line. -/
def loadLinesWith {ε : Type} (read : List Char → Except ε Value) (text : String) :
    Except TextError Value :=
  (lineValuesFrom read 1 (lines text.toList)).map .array

/-- The value of a line. -/
def loadLine (symbolize : Bool) (line : List Char) : Except Yaml.NodeError Value :=
  (Yaml.singleDocument line).map (.ofNode symbolize)

/-- The value of a text with a document on each line. -/
def loadLines (symbolize : Bool) (text : String) : Except TextError Value :=
  loadLinesWith (loadLine symbolize) text

end Document

end DocPath
