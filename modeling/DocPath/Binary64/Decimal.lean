import DocPath.Binary64.Rounding
import DocPath.Text.Numeral

/-!
# Decimal text of doubles

Reading: a numeral with an optional fraction and exponent denotes a rational number, and the nearest double
is taken. Writing: of all decimals with the fewest digits that read back as the number, the nearest one is
chosen. Both work with exact natural numbers.
-/

namespace DocPath.Binary64

/-- The non-negative rational `coefficient * 10 ^ exponent`. -/
structure Decimal where
  coefficient : Nat
  exponent : Int
  deriving DecidableEq, Repr

/-- How many digits a number has; none for zero. -/
def digitCount (n : Nat) : Nat := if n = 0 then 0 else (Nat.toDigits 10 n).length

/-- The magnitude nearest to a decimal. A decimal of `10 ^ 311` or more exceeds every
finite magnitude, and one below `10 ^ (-331)` is nearer to zero than to anything else. -/
def Decimal.magnitude (d : Decimal) : Magnitude :=
  let leading := d.exponent + digitCount d.coefficient
  if d.coefficient = 0 ∨ leading < -330 then .zero
  else if 311 < leading then .infinity
  else if 0 ≤ d.exponent then
    roundUnits (d.coefficient * Nat.pow 10 d.exponent.toNat * unitsPerOne) 1
  else
    roundUnits (d.coefficient * unitsPerOne) (Nat.pow 10 (-d.exponent).toNat)

/-! ### Reading -/

/-- Splits off a sign: whether it is negative, and the text after it. -/
def splitSign : List Char → Bool × List Char
  | '-' :: rest => (true, rest)
  | '+' :: rest => (false, rest)
  | text => (false, text)

/-- The exponent part of a numeral: nothing, or `e` or `E`, an optional sign and at least one digit. -/
def readExponent? : List Char → Option Int
  | [] => some 0
  | c :: rest =>
    if c == 'e' || c == 'E' then
      let (negative, digits) := splitSign rest
      if digits.isEmpty || !digits.all Char.isDigit then none
      else
        let n : Int := Text.Numeral.value digits
        some (if negative then -n else n)
    else none

/-- Reads an unsigned numeral: digits, optionally a point and digits, with at least one digit on either
side, and an optional exponent. -/
def Decimal.read? (text : List Char) : Option Decimal :=
  let whole := text.takeWhile Char.isDigit
  let (fraction, rest) :=
    match text.dropWhile Char.isDigit with
    | '.' :: after => (after.takeWhile Char.isDigit, after.dropWhile Char.isDigit)
    | rest => ([], rest)
  if whole.isEmpty && fraction.isEmpty then none
  else (readExponent? rest).map fun exponent =>
    ⟨Text.Numeral.value (whole ++ fraction), exponent - fraction.length⟩

/-- The double nearest to a numeral with an optional sign. -/
def read? (text : List Char) : Option Binary64 :=
  let (negative, unsigned) := splitSign text
  (Decimal.read? unsigned).map fun d => .signed negative d.magnitude

/-! ### The fewest digits that read back -/

/-- Which of two equally near decimals is taken. -/
inductive DecimalTie where
  | up
  | even

/-- The rationals that round to a magnitude lie between the midpoints to its neighbours; the midpoints
belong to it when its pattern is even. All three numbers count half units. -/
structure RoundingInterval where
  lower : Nat
  value : Nat
  upper : Nat
  closed : Bool

def RoundingInterval.ofPattern (pattern : Nat) : RoundingInterval where
  lower := units (pattern - 1) + units pattern
  value := 2 * units pattern
  upper := units pattern + units (pattern + 1)
  closed := pattern % 2 == 0

/-- Compares `num / den` half units with the interval. -/
def RoundingInterval.contains (interval : RoundingInterval) (num den : Nat) : Bool :=
  if interval.closed then interval.lower * den ≤ num && num ≤ interval.upper * den
  else interval.lower * den < num && num < interval.upper * den

/-- The least `shift ≥ start` for which `num * 10 ^ shift` reaches `den`, in `fuel` steps. -/
def leastShift (num den : Nat) : (fuel : Nat) → (start : Nat) → Nat
  | 0, shift => shift
  | fuel + 1, shift =>
    if den ≤ num * Nat.pow 10 shift then shift else leastShift num den fuel (shift + 1)

/-- The least exponent `e` with `num < den * 10 ^ e`, for positive arguments. Since `10 ^ 3` is below
`2 ^ 10`, three tenths of the bits are a first bound on the number of decimal places. -/
def decimalScale (num den : Nat) : Int :=
  if den ≤ num then digitCount (num / den)
  else
    let start := (Nat.log2 den - Nat.log2 num - 1) * 3 / 10
    1 - leastShift num den den.log2 start

/-- Which of two neighbouring numbers is taken, `below` or the next one, if any fits. Of two that fit it is the
nearer one, as the order of the value and the middle between them says. -/
def DecimalTie.choose? (tie : DecimalTie) (middle : Ordering) (below : Nat) :
    (belowFits nextFits : Bool) → Option Nat
  | false, false => none
  | true, false => some below
  | false, true => some (below + 1)
  | true, true =>
    match middle with
    | .lt => some below
    | .gt => some (below + 1)
    | .eq =>
      match tie with
      | .up => some (below + 1)
      | .even => some (below + below % 2)

/-- The decimal with the given last place that is in the interval and nearest to its value, if any. Only
the two neighbours of the value on the grid of that place have to be tried. -/
def nearestOnGrid? (tie : DecimalTie) (interval : RoundingInterval) (place : Int) :
    Option Decimal :=
  let up := Nat.pow 10 place.toNat * (2 * unitsPerOne)
  let down := Nat.pow 10 (-place).toNat
  let below := interval.value * down / up
  let middle := compare (2 * (interval.value * down)) ((2 * below + 1) * up)
  let fits (n : Nat) : Bool := interval.contains (n * up) down
  (tie.choose? middle below (fits below) (fits (below + 1))).map fun n => ⟨n, place⟩

/-- Removes the trailing zeros of a positive coefficient, at most `fuel` of them. -/
def Decimal.stripZeros : (fuel : Nat) → Decimal → Decimal
  | 0, d => d
  | fuel + 1, d =>
    if d.coefficient ≠ 0 ∧ d.coefficient % 10 = 0 then
      stripZeros fuel ⟨d.coefficient / 10, d.exponent + 1⟩
    else d

/-- The exact decimal value of a pattern. -/
def Decimal.exact (pattern : Nat) : Decimal := ⟨units pattern * Nat.pow 5 1074, -1074⟩

/-- The decimal with the fewest digits that reads back as a finite pattern, and of those the nearest;
seventeen digits always suffice. Zero has no digit. -/
def shortest (tie : DecimalTie) (pattern : Nat) : Decimal :=
  if pattern = 0 then ⟨0, 0⟩
  else
    let interval := RoundingInterval.ofPattern pattern
    let scale := decimalScale (units pattern) unitsPerOne
    let found := (List.range 17).findSome? fun (n : Nat) =>
      nearestOnGrid? tie interval (scale - 1 - n)
    (found.getD (.exact pattern)).stripZeros 1100

/-! ### Layout -/

/-- The exponent of the leading digit. -/
def Decimal.leadingExponent (d : Decimal) : Int := d.exponent + digitCount d.coefficient - 1

/-- Positional text: the point stands where the exponent says, with zeros as needed on either side.
Without `pointZero`, an integer has no point. -/
def Decimal.positional (pointZero : Bool) (d : Decimal) : List Char :=
  let digits := Text.Numeral.digits d.coefficient
  if 0 ≤ d.exponent then
    digits ++ List.replicate d.exponent.toNat '0' ++ (if pointZero then ['.', '0'] else [])
  else
    let places := (-d.exponent).toNat
    let padded := List.replicate (places + 1 - digits.length) '0' ++ digits
    padded.take (padded.length - places) ++ '.' :: padded.drop (padded.length - places)

/-- Scientific text: one digit before the point, no point after a single digit, and the exponent after
`e`, with a sign when it is negative or `plus` asks for one. -/
def Decimal.scientific (plus : Bool) (d : Decimal) : List Char :=
  let exponent := d.leadingExponent
  let mantissa :=
    match Text.Numeral.digits d.coefficient with
    | first :: second :: more => first :: '.' :: second :: more
    | digits => digits
  let sign := if exponent < 0 then ['-'] else if plus then ['+'] else []
  mantissa ++ 'e' :: (sign ++ Text.Numeral.digits exponent.natAbs)

/-- The text of a finite number: positional, with at least one decimal place, when the leading digit stands
between `10 ^ (-5)` and `10 ^ 15`, and scientific otherwise. Of two equally near decimals the one with an
even last digit is taken. -/
def balancedText (plus negative : Bool) (m : Magnitude) : List Char :=
  let d := shortest .even m.pattern
  let unsigned :=
    if -5 ≤ d.leadingExponent ∧ d.leadingExponent ≤ 15 then d.positional true else d.scientific plus
  if negative then '-' :: unsigned else unsigned

end DocPath.Binary64
