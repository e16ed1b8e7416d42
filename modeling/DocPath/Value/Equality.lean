import DocPath.Entries
import DocPath.Value.Basic

/-!
# Equality of values

Two arrays are equal element by element. Two hashes are equal when they are of one size and every entry of
the first has an equal entry in the second, in whatever order. Floats compare as numbers, so a value that
contains what is not a number differs from itself. Host objects are equal when they are the same object.
-/

namespace DocPath.Value

mutual

/-- Whether two values are equal. Values of different kinds never are. -/
def equal : Value → Value → Bool
  | .nil, .nil => true
  | .bool a, .bool b => a == b
  | .int a, .int b => a == b
  | .float a, .float b => Binary64.equal a b
  | .str a, .str b => a == b
  | .symbol a, .symbol b => a == b
  | .array a, .array b => equalItems a b
  | .hash a, .hash b => a.length == b.length && entriesIn a b
  | .host a, .host b => a.identity == b.identity
  | _, _ => false

/-- Whether two lists of values are equal element by element. -/
def equalItems : List Value → List Value → Bool
  | [], [] => true
  | a :: as, b :: bs => equal a b && equalItems as bs
  | _, _ => false

/-- Whether every entry has an equal one under the same key in `target`. -/
def entriesIn : List (Key × Value) → List (Key × Value) → Bool
  | [], _ => true
  | (key, a) :: rest, target =>
    (match Entries.get? key target with
      | some b => equal a b
      | none => false) && entriesIn rest target

end

end DocPath.Value
