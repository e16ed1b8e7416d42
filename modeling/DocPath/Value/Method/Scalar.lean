import DocPath.Text.Blank
import DocPath.Text.Case
import DocPath.Value.Display
import DocPath.Word

/-!
# Methods of scalars

The methods of nil, numbers, strings and symbols. A method that a value of the class does not have is
`none`; a method that exists may still fail on the value at hand.
-/

namespace DocPath

/-- A result that does not fit into 64 bits. -/
def integerOverflow : ReceiverError := .type "integer overflow"

/-- An exact integer as a value, if it fits into 64 bits. -/
def Value.ofInt (n : Int) : Except ReceiverError Value :=
  match int64? n with
  | some i => .ok (.int i)
  | none => .error integerOverflow

/-- A count as a value. -/
def Value.ofCount (n : Nat) : Value := .int (Int64.ofNat n)

/-- The methods of nil. -/
def nilMethod : String → Option Value
  | "to_a" => some (.array [])
  | "to_i" => some (.int 0)
  | "to_f" => some (.float .positiveZero)
  | "to_h" => some (.hash [])
  | _ => none

/-- The methods of integers. -/
def integerMethod (n : Int64) : String → Except ReceiverError (Option Value)
  | "abs" => (Value.ofInt n.toInt.natAbs).map some
  | "succ" => (Value.ofInt (n.toInt + 1)).map some
  | "pred" => (Value.ofInt (n.toInt - 1)).map some
  | "to_i" | "floor" | "ceil" | "round" => .ok (some (.int n))
  | "to_f" => .ok (some (.float (.ofInt n.toInt)))
  | _ => .ok none

/-- The integer that a float was rounded to. It has to exist and to fit into 64 bits; otherwise the float
itself is at fault, which is then integral or not finite. -/
def integerOfFloat (x : Binary64) (rounded : Option Int) : Except ReceiverError Value :=
  match rounded.bind int64? with
  | some i => .ok (.int i)
  | none => .error (.type x.text)

/-- The methods of floats. -/
def floatMethod (x : Binary64) : String → Except ReceiverError (Option Value)
  | "abs" => .ok (some (.float x.abs))
  | "to_f" => .ok (some (.float x))
  | "to_i" => (integerOfFloat x x.trunc?).map some
  | "floor" => (integerOfFloat x x.floor?).map some
  | "ceil" => (integerOfFloat x x.ceil?).map some
  | "round" => (integerOfFloat x x.round?).map some
  | _ => .ok none

/-- The integer at the start of a text, after white space: an optional sign and digits. Without digits, or
beyond 64 bits, it is zero. -/
def leadingInteger (text : List Char) : Int64 :=
  let (negative, unsigned) := Binary64.splitSign (Text.trimStart text)
  let magnitude : Int := Text.Numeral.value (unsigned.takeWhile Char.isDigit)
  (int64? (if negative then -magnitude else magnitude)).getD 0

/-- The number at the start of a text, after white space: an optional sign and digits with at most one
point among them. Without digits it is zero. -/
def leadingFloat (text : List Char) : Binary64 :=
  let trimmed := Text.trimStart text
  let (_, unsigned) := Binary64.splitSign trimmed
  let sign := trimmed.take (trimmed.length - unsigned.length)
  let whole := unsigned.takeWhile Char.isDigit
  let fraction :=
    match unsigned.dropWhile Char.isDigit with
    | '.' :: after => '.' :: after.takeWhile Char.isDigit
    | _ => []
  (Binary64.read? (sign ++ whole ++ fraction)).getD .positiveZero

/-- Cuts a text after each line feed. -/
def splitLines : List Char → List (List Char)
  | [] => []
  | '\n' :: rest => ['\n'] :: splitLines rest
  | c :: rest =>
    match splitLines rest with
    | [] => [[c]]
    | line :: lines => (c :: line) :: lines

/-- Each character as a text of its own. -/
def characters (text : List Char) : List Value := text.map fun c => .str (String.singleton c)

/-- A text as a string value. -/
def Value.ofChars (text : List Char) : Value := .str (String.ofList text)

/-- The methods of strings. -/
def stringMethod (text : String) : String → Option Value
  | "upcase" => some (.ofChars (Text.upper text.toList))
  | "downcase" => some (.ofChars (Text.lower text.toList))
  | "capitalize" => some (.ofChars (Text.capitalize text.toList))
  | "swapcase" => some (.ofChars (Text.swapCase text.toList))
  | "reverse" => some (.ofChars text.toList.reverse)
  | "strip" => some (.ofChars (Text.trim text.toList))
  | "lstrip" => some (.ofChars (Text.trimStart text.toList))
  | "rstrip" => some (.ofChars (Text.trimEnd text.toList))
  | "length" | "size" => some (.ofCount text.toList.length)
  | "bytesize" => some (.ofCount text.utf8ByteSize)
  | "chars" => some (.array (characters text.toList))
  | "lines" => some (.array ((splitLines text.toList).map .ofChars))
  | "to_sym" => some (.symbol text)
  | "to_i" => some (.int (leadingInteger text.toList))
  | "to_f" => some (.float (leadingFloat text.toList))
  | _ => none

/-- The methods of symbols. -/
def symbolMethod (name : String) : String → Option Value
  | "to_sym" => some (.symbol name)
  | "length" | "size" => some (.ofCount name.toList.length)
  | "upcase" => some (.symbol (String.ofList (Text.upper name.toList)))
  | "downcase" => some (.symbol (String.ofList (Text.lower name.toList)))
  | _ => none

end DocPath
