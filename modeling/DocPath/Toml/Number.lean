import DocPath.Binary64.Decimal
import DocPath.Toml.Reader
import DocPath.Word

/-!
# TOML numbers

An integer has 64 bits and is written in base ten, or without a sign in base sixteen, eight or two. A float
has a fraction or an exponent, or is spelled out. No decimal number starts with a zero that is not its only
digit before the point.
-/

namespace DocPath.Toml.Reader

open DocPath.Text.Numeral (digitIn? natural?)

/-- Takes a sign, if there is one. -/
def sign : Reader (List Char) := do
  match ← optionally (satisfying fun c => c == '+' || c == '-') with
  | some c => return [c]
  | none => return []

/-- Takes the digits of a decimal number before its point. -/
def wholeDigits : Reader (List Char) := do
  match ← satisfying Char.isDigit with
  | '0' => return ['0']
  | first => return first :: (← moreDigits Char.isDigit)

/-- The integer of 64 bits with a value, if there is one. -/
def word (n : Int) : Reader Int64 :=
  match int64? n with
  | some i => pure i
  | none => failure

/-- Takes a number in the base of a marker. -/
def markedInteger (marker : Char) (base : Nat) : Reader Int64 := do
  chars ['0', marker]
  match natural? base (← digits fun c => (digitIn? base c).isSome) with
  | some n => word n
  | none => failure

/-- Takes an integer in base ten. -/
def decimalInteger : Reader Int64 := do
  let negative := (← sign) == ['-']
  let n : Int := Text.Numeral.value (← wholeDigits)
  word (if negative then -n else n)

/-- Takes an integer. -/
def integer : Reader Int64 :=
  markedInteger 'x' 16 <|> markedInteger 'o' 8 <|> markedInteger 'b' 2 <|> decimalInteger

/-- Takes a point and the digits after it. -/
def fraction : Reader (List Char) := do
  char '.'
  return '.' :: (← digits Char.isDigit)

/-- Takes an exponent. -/
def exponent : Reader (List Char) := do
  discard (satisfying fun c => c == 'e' || c == 'E')
  return 'e' :: ((← sign) ++ (← digits Char.isDigit))

/-- The float nearest to a numeral, unless it is positive and beyond all finite ones. -/
def finiteFloat (numeral : List Char) : Reader Binary64 :=
  match Binary64.read? numeral with
  | some x => if x = .signed false .infinity then failure else pure x
  | none => failure

/-- Takes a float that is written with a fraction or an exponent. -/
def decimalFloat : Reader Binary64 := do
  let whole := (← sign) ++ (← wholeDigits)
  match ← optionally fraction with
  | some places => finiteFloat (whole ++ places ++ ((← optionally exponent).getD []))
  | none => finiteFloat (whole ++ (← exponent))

/-- Takes a float that is spelled out. -/
def namedFloat : Reader Binary64 := do
  let negative := (← sign) == ['-']
  (do chars "inf".toList; return .signed negative .infinity) <|> (do chars "nan".toList; return .nan)

/-- Takes a float. -/
def float : Reader Binary64 := decimalFloat <|> namedFloat

end DocPath.Toml.Reader
