import DocPath.Binary64.Basic

/-!
# Rounding to the nearest double

A quotient of natural numbers, counted in units, goes to the nearest magnitude, and a tie to the one with
an even pattern. Sums, conversions from integers and numerals are exact computations followed by this one
rounding.
-/

namespace DocPath.Binary64

/-- The natural number nearest to `num / den`; a tie goes to the even one. -/
def divNearestEven (num den : Nat) : Nat :=
  let quotient := num / den
  match compare (2 * (num % den)) den with
  | .lt => quotient
  | .gt => quotient + 1
  | .eq => quotient + quotient % 2

/-- The magnitude nearest to `num / den` units. From `2 ^ 53` units on, a magnitude keeps 53 bits and its
pattern counts the dropped ones in its upper part; a carry out of the kept bits moves on to the next gap. -/
def roundUnits (num den : Nat) : Magnitude :=
  let dropped := Nat.log2 (num / den) - 52
  .saturate (dropped * binade + divNearestEven num (den * Nat.pow 2 dropped))

/-- The double nearest to an integral number of units. A sum of zero takes the given sign. -/
def ofUnits (zeroIsNegative : Bool) (n : Int) : Binary64 :=
  .signed (if n = 0 then zeroIsNegative else n < 0) (roundUnits n.natAbs 1)

/-- The double nearest to an integer. -/
def ofInt (n : Int) : Binary64 := ofUnits false (n * unitsPerOne)

/-- The sum, rounded once. Opposite infinities have none, and a zero sum is negative only when both terms
are. -/
def add : Binary64 → Binary64 → Binary64
  | .signed s m, .signed t n =>
    match m.isInfinite, n.isInfinite with
    | true, true => if s = t then .signed s m else .nan
    | true, false => .signed s m
    | false, true => .signed t n
    | false, false =>
      let a : Int := if s then -(units m.pattern : Int) else units m.pattern
      let b : Int := if t then -(units n.pattern : Int) else units n.pattern
      ofUnits (s && t) (a + b)
  | _, _ => .nan

def abs : Binary64 → Binary64
  | .nan => .nan
  | .signed _ m => .signed false m

/-- The greatest integer not above a finite number. -/
def floor? (x : Binary64) : Option Int :=
  x.signedUnits?.map fun n => Int.fdiv n unitsPerOne

/-- The least integer not below a finite number. -/
def ceil? (x : Binary64) : Option Int :=
  x.signedUnits?.map fun n => -Int.fdiv (-n) unitsPerOne

/-- A finite number without its fraction. -/
def trunc? (x : Binary64) : Option Int :=
  x.signedUnits?.map fun n => Int.tdiv n unitsPerOne

/-- The integer nearest to a finite number; a tie goes away from zero. -/
def round? (x : Binary64) : Option Int :=
  x.signedUnits?.map fun n =>
    let nearest : Int := ((2 * n.natAbs + unitsPerOne) / (2 * unitsPerOne) : Nat)
    if n < 0 then -nearest else nearest

end DocPath.Binary64
