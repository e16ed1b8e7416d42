import DocPath.Binary64.Decimal
import DocPath.Text.Numeral
import DocPath.Word
import DocPath.Yaml.Node

/-!
# Plain scalars

What a plain scalar stands for: null, a boolean, an integer, a float or, failing these, a string. Digits
after a leading zero are a string, and so is a numeral too large for any float.
-/

namespace DocPath.Yaml.Scalar

open DocPath.Text.Numeral (natural?)

/-- The spellings of null, the empty one apart. -/
def isNull (text : List Char) : Bool :=
  [['~'], "null".toList, "Null".toList, "NULL".toList].contains text

/-- The spellings of booleans. -/
def bool? (text : List Char) : Option Bool :=
  if ["true".toList, "True".toList, "TRUE".toList].contains text then some true
  else if ["false".toList, "False".toList, "FALSE".toList].contains text then some false
  else none

/-- Whether a text is two or more digits of which the first is zero, after an optional sign. -/
def hasLeadingZero (text : List Char) : Bool :=
  match (Binary64.splitSign text).2 with
  | '0' :: c :: rest => (c :: rest).all Char.isDigit
  | _ => false

/-- An unsigned integer in base sixteen, eight, two or ten, by its marker. -/
def magnitude? (text : List Char) : Option Nat :=
  let marked :=
    match text with
    | '0' :: 'x' :: digits => natural? 16 digits
    | '0' :: 'o' :: digits => natural? 8 digits
    | '0' :: 'b' :: digits => natural? 2 digits
    | _ => none
  marked.or (if hasLeadingZero text then none else natural? 10 text)

/-- The integer that a scalar spells, of whatever size. -/
def integer? (text : List Char) : Option Int :=
  match text with
  | '-' :: rest => (magnitude? rest).map fun n => -(n : Int)
  | '+' :: rest => (magnitude? rest).map Int.ofNat
  | _ => (magnitude? text).map Int.ofNat

/-- Whether an integer is one of 64 bits, signed or unsigned. -/
def isWord (n : Int) : Bool := -signedBound ≤ n && n < wordBound

/-- Whether an integer is one of 128 bits, signed or unsigned. -/
def isDoubleWord (n : Int) : Bool :=
  -(wordBound * signedBound) ≤ n && n < wordBound * wordBound

/-- The infinities and the float that is not a number. -/
def special? (text : List Char) : Option Binary64 :=
  if [".inf", ".Inf", ".INF", "+.inf", "+.Inf", "+.INF"].contains (String.ofList text) then
    some (.signed false .infinity)
  else if ["-.inf", "-.Inf", "-.INF"].contains (String.ofList text) then
    some (.signed true .infinity)
  else if [".nan", ".NaN", ".NAN"].contains (String.ofList text) then some .nan
  else none

/-- The float that a scalar spells: a special one, or a decimal numeral of finite value. -/
def float? (text : List Char) : Option Binary64 :=
  (special? text).or ((Binary64.read? text).filter Binary64.isFinite)

/-- An integer scalar, read as such: an integer of more than 64 bits is no node, and one of more than 128
bits is no integer. -/
def integerNode? (text : List Char) : Option (Option Node) :=
  match integer? text with
  | some n =>
    if isWord n then some (some (.int n)) else if isDoubleWord n then some none else none
  | none => none

/-- The node of a plain scalar; none for an integer beyond 64 bits. -/
def resolve? (text : List Char) : Option Node :=
  if text.isEmpty || isNull text then some .null
  else
    match bool? text with
    | some b => some (.bool b)
    | none =>
      match integerNode? text with
      | some node => node
      | none =>
        match (if hasLeadingZero text then none else float? text) with
        | some x => some (.float x)
        | none => some (.str (String.ofList text))

/-- Whether a plain scalar would not be read as the string that it spells, or looks like a number with a
leading zero. -/
def isAmbiguous (text : List Char) : Bool :=
  match resolve? text with
  | some (.str _) => hasLeadingZero text
  | _ => true

end DocPath.Yaml.Scalar
