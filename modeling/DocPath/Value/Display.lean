import DocPath.Binary64.Decimal
import DocPath.Text.Quoted
import DocPath.Value.Basic

/-!
# Text of values

Two renderings: the plain text of a value, and the inspected one, in which strings are quoted and symbols
marked. They agree on collections and on scalars that are neither strings nor symbols.
-/

namespace DocPath

/-- The text of a float. An integral float below `10 ^ 16` has one decimal place; every other finite float
has the fewest digits that read back, never with an exponent. -/
def Binary64.text : Binary64 → String
  | .nan => "NaN"
  | .signed negative m =>
    if m.isInfinite then (if negative then "-Infinity" else "Infinity")
    else
      let sign := if negative then ['-'] else []
      let n := units m.pattern
      let digits :=
        if n % unitsPerOne = 0 ∧ n < Nat.pow 10 16 * unitsPerOne then
          Text.Numeral.digits (n / unitsPerOne) ++ ['.', '0']
        else (shortest .up m.pattern).positional false
      String.ofList (sign ++ digits)

/-- The decimal text of an integer. -/
def integerText (n : Int64) : String := toString n.toInt

/-- The inspected text of a key. -/
def Key.inspect : Key → String
  | .str text => Text.quoted text
  | .symbol name => ":" ++ name
  | .int n => integerText n

namespace Value

mutual

/-- The inspected text of a value. In a hash, a symbol key stands before a colon and any other key before
an arrow. -/
def inspect : Value → String
  | .nil => "nil"
  | .bool b => if b then "true" else "false"
  | .int n => integerText n
  | .float x => x.text
  | .str text => Text.quoted text
  | .symbol name => ":" ++ name
  | .array items => "[" ++ ", ".intercalate (inspectItems items) ++ "]"
  | .hash entries => "\x7b" ++ ", ".intercalate (inspectEntries entries) ++ "\x7d"
  | .host object => "#<" ++ object.className ++ ">"

/-- The inspected texts of the items of an array. -/
def inspectItems : List Value → List String
  | [] => []
  | item :: rest => inspect item :: inspectItems rest

/-- The texts of the entries of a hash. -/
def inspectEntries : List (Key × Value) → List String
  | [] => []
  | (.symbol name, value) :: rest => (name ++ ": " ++ inspect value) :: inspectEntries rest
  | (key, value) :: rest => (key.inspect ++ " => " ++ inspect value) :: inspectEntries rest

end

/-- The plain text of a value: nothing for nil, and strings and symbols as they are. -/
def text : Value → String
  | .nil => ""
  | .str text => text
  | .symbol name => name
  | value => inspect value

end Value

end DocPath
