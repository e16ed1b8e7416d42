import DocPath.Value.Equality
import DocPath.Value.Method.Scalar

/-!
# Methods of collections

The methods of arrays and hashes. Sums are checked from the left, so an overflow in between counts even if
later items would bring the total back. The extremes are found in one scan, which compares each item with the
best one before it.
-/

namespace DocPath

namespace Value

mutual

/-- What an item contributes to a flat list: the leaves of an array, or the item itself. -/
def leaves : Value → List Value
  | .array items => flatten items
  | value => [value]

/-- The items of nested arrays, in order; hashes are left whole. -/
def flatten : List Value → List Value
  | [] => []
  | item :: rest => leaves item ++ flatten rest

end

/-- Keeps the items that equal none of those kept before; `kept` holds these, last first. -/
def uniqueAfter (kept : List Value) : List Value → List Value
  | [] => kept.reverse
  | item :: rest =>
    if kept.any (equal · item) then uniqueAfter kept rest else uniqueAfter (item :: kept) rest

/-- The first of each class of equal items. -/
def unique (items : List Value) : List Value := uniqueAfter [] items

/-- Adds an item to a total. Integers are added exactly and have to fit into 64 bits; from the first float
on the total is a float. -/
def addTo (total item : Value) : Except ReceiverError Value :=
  match total, item with
  | .int a, .int b => ofInt (a.toInt + b.toInt)
  | .int a, .float b => .ok (.float (.add (.ofInt a.toInt) b))
  | .float a, .int b => .ok (.float (.add a (.ofInt b.toInt)))
  | .float a, .float b => .ok (.float (.add a b))
  | _, other => .error (.type (other.className ++ " can't be coerced into Integer"))

/-- The sum of the items, added from the left to a total. -/
def sumFrom (total : Value) : List Value → Except ReceiverError Value
  | [] => .ok total
  | item :: rest =>
    match addTo total item with
    | .error e => .error e
    | .ok next => sumFrom next rest

/-- The sum of the items. -/
def sum (items : List Value) : Except ReceiverError Value := sumFrom (.int 0) items

/-- The order of two values: numbers by size, an integer beside a float as the nearest float, strings and
symbols by their characters. Nothing else has an order. -/
def order? : Value → Value → Option Ordering
  | .int a, .int b => some (compare a.toInt b.toInt)
  | .int a, .float b => Binary64.order? (.ofInt a.toInt) b
  | .float a, .int b => Binary64.order? a (.ofInt b.toInt)
  | .float a, .float b => Binary64.order? a b
  | .str a, .str b => some (compareOfLessAndEq a b)
  | .symbol a, .symbol b => some (compareOfLessAndEq a b)
  | _, _ => none

/-- Compares two values, or says that they cannot be. -/
def compare (a b : Value) : Except ReceiverError Ordering :=
  match order? a b with
  | some ordering => .ok ordering
  | none => .error (.type ("comparison of " ++ a.className ++ " with " ++ b.className ++ " failed"))

/-- The best of `best` and the items: an item takes over when its order to the best so far is the one
wanted. -/
def extremeFrom (wanted : Ordering) (best : Value) : List Value → Except ReceiverError Value
  | [] => .ok best
  | item :: rest =>
    match compare item best with
    | .error e => .error e
    | .ok ordering => extremeFrom wanted (if ordering = wanted then item else best) rest

/-- The first item that the wanted order prefers to all others; nil if there is no item. -/
def extreme (wanted : Ordering) : List Value → Except ReceiverError Value
  | [] => .ok .nil
  | item :: rest => extremeFrom wanted item rest

/-- An entry as an array of two. -/
def ofEntry (entry : Key × Value) : Value := .array [entry.1.toValue, entry.2]

/-- Adds the entries of a hash to an inverted one: each value becomes the key of its key. -/
def invertInto (inverted : List (Key × Value)) :
    List (Key × Value) → Except ReceiverError (List (Key × Value))
  | [] => .ok inverted
  | (key, value) :: rest =>
    match Key.ofValue? value with
    | none => .error (.type (value.className ++ " cannot be used as a key"))
    | some newKey => invertInto (Entries.insert newKey key.toValue inverted) rest

/-- The hash of the keys of a hash by value. -/
def invert (entries : List (Key × Value)) : Except ReceiverError (List (Key × Value)) :=
  invertInto [] entries

end Value

open Value

/-- The methods of arrays. -/
def arrayMethod (items : List Value) : String → Except ReceiverError (Option Value)
  | "first" => .ok (some (ofOption items.head?))
  | "last" => .ok (some (ofOption items.getLast?))
  | "length" | "size" | "count" => .ok (some (.ofCount items.length))
  | "reverse" => .ok (some (.array items.reverse))
  | "compact" => .ok (some (.array (items.filter (!·.isNil))))
  | "flatten" => .ok (some (.array (flatten items)))
  | "uniq" => .ok (some (.array (unique items)))
  | "sum" => (sum items).map some
  | "min" => (extreme .lt items).map some
  | "max" => (extreme .gt items).map some
  | "to_a" => .ok (some (.array items))
  | _ => .ok none

/-- The methods of hashes. -/
def hashMethod (entries : List (Key × Value)) : String → Except ReceiverError (Option Value)
  | "keys" => .ok (some (.array (entries.map (·.1.toValue))))
  | "values" => .ok (some (.array (entries.map (·.2))))
  | "length" | "size" | "count" => .ok (some (.ofCount entries.length))
  | "first" => .ok (some (ofOption (entries.head?.map ofEntry)))
  | "to_a" => .ok (some (.array (entries.map ofEntry)))
  | "to_h" => .ok (some (.hash entries))
  | "compact" => .ok (some (.hash (entries.filter (!·.2.isNil))))
  | "invert" => (invert entries).map (some ∘ .hash)
  | _ => .ok none

end DocPath
