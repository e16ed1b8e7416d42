/-!
# Words

The ranges of integers of 64 bits, without and with a sign.
-/

namespace DocPath

/-- The first natural number that does not fit into 64 bits, `2 ^ 64`. -/
def wordBound : Nat := 0x10000000000000000

/-- The first natural number that does not fit into 64 bits with a sign, `2 ^ 63`. -/
def signedBound : Nat := 0x8000000000000000

/-- The 64-bit integer equal to an integer, if there is one. -/
def int64? (n : Int) : Option Int64 :=
  if -signedBound ≤ n ∧ n < signedBound then some (Int64.ofInt n) else none

end DocPath
