/-!
# Double-precision numbers

A number of the 64-bit binary interchange format: its sign, and its magnitude as the 63 low bits of its
encoding. Patterns have the order of the magnitudes they stand for, and every finite magnitude is a whole
number of units of `2 ^ (-1074)`, so comparison and arithmetic are exact over the natural numbers. All
encodings that stand for no number are one value.
-/

namespace DocPath

namespace Binary64

/-- The pattern of the infinite magnitude, the greatest of all. -/
def infinityPattern : Nat := 0x7FF0000000000000

/-- A magnitude, as the bits of its exponent and fraction. -/
structure Magnitude where
  pattern : Nat
  pattern_le : pattern ≤ infinityPattern
  deriving DecidableEq

end Binary64

/-- A double-precision number, or the single value that is not a number. -/
inductive Binary64 where
  | nan
  | signed (negative : Bool) (magnitude : Binary64.Magnitude)
  deriving DecidableEq

namespace Binary64

namespace Magnitude

def zero : Magnitude := ⟨0, by decide⟩

def infinity : Magnitude := ⟨infinityPattern, Nat.le_refl _⟩

/-- The magnitude of a pattern; what lies above the infinite one counts as infinite. -/
def saturate (pattern : Nat) : Magnitude :=
  ⟨min pattern infinityPattern, Nat.min_le_right _ _⟩

def isInfinite (m : Magnitude) : Bool := m.pattern == infinityPattern

end Magnitude

/-- The number of patterns with the same exponent, `2 ^ 52`. -/
def binade : Nat := 0x10000000000000

/-- The value of the sign bit of an encoding, `2 ^ 63`. -/
def signBit : Nat := 0x8000000000000000

/-- How many units of `2 ^ (-1074)` the magnitude of a pattern has. Below `2 ^ 52` a pattern counts its own
units; above, each further `2 ^ 52` patterns double the gap between neighbours. The infinite pattern counts
as the first magnitude that is too large. -/
def units (pattern : Nat) : Nat :=
  if pattern < binade then pattern
  else (binade + pattern % binade) * Nat.pow 2 (pattern / binade - 1)

/-- The number of units in one. -/
def unitsPerOne : Nat := Nat.pow 2 1074

def positiveZero : Binary64 := .signed false .zero

/-- Decodes the 64 bits of an encoding. -/
def ofBits (bits : UInt64) : Binary64 :=
  let pattern := bits.toNat % signBit
  if h : pattern ≤ infinityPattern then .signed (signBit ≤ bits.toNat) ⟨pattern, h⟩ else .nan

/-- The 64 bits of an encoding; what is not a number is encoded as quiet and positive. -/
def toBits : Binary64 → UInt64
  | .nan => 0x7FF8000000000000
  | .signed negative m => UInt64.ofNat ((if negative then signBit else 0) + m.pattern)

def isNaN : Binary64 → Bool
  | .nan => true
  | .signed _ _ => false

def isFinite : Binary64 → Bool
  | .nan => false
  | .signed _ m => !m.isInfinite

/-- A number's place in the order of numbers; the two zeros share theirs. -/
def rank? : Binary64 → Option Int
  | .nan => none
  | .signed negative m => some (if negative then -(m.pattern : Int) else m.pattern)

/-- The order of two numbers; none when one of them is not a number. -/
def order? (x y : Binary64) : Option Ordering :=
  match x.rank?, y.rank? with
  | some a, some b => some (compare a b)
  | _, _ => none

/-- Numerical equality: the two zeros are equal, and what is not a number equals nothing. -/
def equal (x y : Binary64) : Bool := order? x y == some .eq

/-- The signed number of units of a finite number; none for the infinities. -/
def signedUnits? : Binary64 → Option Int
  | .nan => none
  | .signed negative m =>
    if m.isInfinite then none
    else some (if negative then -(units m.pattern : Int) else units m.pattern)

end Binary64

end DocPath
