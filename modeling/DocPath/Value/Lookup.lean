import DocPath.Entries
import DocPath.Value.Host

/-!
# Keyed lookup

What each kind of value answers when a key is looked up in it, and which values can say whether they have a
key. Indices below zero count from the end.
-/

namespace DocPath

/-- The key's class cannot stand for the class needed. -/
def implicitConversion (given needed : String) : ReceiverError :=
  .type ("no implicit conversion of " ++ given ++ " into " ++ needed)

/-- The item at an index that may count from the end. -/
def itemAt? {α : Type} (items : List α) (index : Int64) : Option α :=
  let i := index.toInt
  let place := if i < 0 then items.length + i else i
  if place < 0 then none else items[place.toNat]?

/-- The bit of a two's complement number; above its width the sign repeats, and below zero there is no
bit set. -/
def bitAt (n bit : Int64) : Int64 :=
  if bit.toInt < 0 then 0
  else if 64 ≤ bit.toInt then (if n.toInt < 0 then 1 else 0)
  else Int64.ofInt (n.toInt / Nat.pow 2 bit.toInt.toNat % 2)

/-- Whether a text occurs within another. -/
def occursIn (needle : List Char) : List Char → Bool
  | [] => needle.isEmpty
  | c :: rest => needle.isPrefixOf (c :: rest) || occursIn needle rest

namespace Value

/-- Looks a key up in a text: the character at an index, or the key itself if it occurs in the text. -/
def indexText (text : String) : Key → Except ReceiverError Value
  | .int i => .ok (ofOption ((itemAt? text.toList i).map fun c => .str (String.singleton c)))
  | .str needle => .ok (if occursIn needle.toList text.toList then .str needle else .nil)
  | .symbol _ => .error (implicitConversion "Symbol" "Integer")

/-- Looks a key up. -/
def index (hosts : Hosts) : Value → Key → Consult ReceiverError Value
  | .hash entries, key => pure (ofOption (Entries.get? key entries))
  | .array items, .int i => pure (ofOption (itemAt? items i))
  | .array _, key => .ofExcept (.error (implicitConversion key.className "Integer"))
  | .str text, key => .ofExcept (indexText text key)
  | .symbol name, key => .ofExcept (indexText name key)
  | .int n, .int bit => pure (.int (bitAt n bit))
  | .int _, key => .ofExcept (.error (implicitConversion key.className "Integer"))
  | .host object, key => .call (.index object key) fun earlier => hosts.index earlier object key
  | value, _ => .ofExcept (.error (.noIndex value.className))

/-- Whether a value can tell which keys it has: hashes and some host objects can. -/
def hasPresence (hosts : Hosts) (earlier : List HostCall) : Value → Bool
  | .hash _ => true
  | .host object => hosts.hasPresence earlier object
  | _ => false

/-- The test for the presence of a key; a value that has no such test has no key. -/
def hasKey (hosts : Hosts) : Value → Key → Consult ReceiverError Bool
  | .hash entries, key => pure (Entries.contains key entries)
  | .host object, key => .call (.hasKey object key) fun earlier => .ok (hosts.hasKey earlier object key)
  | _, _ => pure false

end Value

end DocPath
