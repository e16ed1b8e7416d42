/-!
# Properties of code points

A property is a table of ranges of code points.
-/

namespace DocPath.Text

/-- Whether a character lies in one of the ranges of a table. -/
def inRanges (table : Array (Nat × Nat)) (c : Char) : Bool :=
  table.any fun (first, last) => first ≤ c.toNat && c.toNat ≤ last

end DocPath.Text
