import DocPath.Binary64.Basic

/-!
# Values

The data that paths are applied to: scalars, symbols, sequences, hashes in insertion order, and references
to host objects. A string key and a symbol key of the same text are different keys.
-/

namespace DocPath

/-- A key of a hash. -/
inductive Key where
  | str (text : String)
  | symbol (name : String)
  | int (n : Int64)
  deriving DecidableEq

/-- A host object as it occurs in data: which object it is, and the class name it goes by. What it answers
is the business of the host application. -/
structure HostObject where
  identity : Nat
  className : String
  deriving DecidableEq

/-- A dynamic value. The keys of a hash are pairwise distinct. -/
inductive Value where
  /-- The absent value. -/
  | nil
  | bool (b : Bool)
  | int (n : Int64)
  | float (x : Binary64)
  | str (text : String)
  | symbol (name : String)
  | array (items : List Value)
  | hash (entries : List (Key × Value))
  | host (object : HostObject)
  deriving Inhabited

/-- Why a value refuses a method call or a lookup. -/
inductive ReceiverError where
  /-- There is no method of this name. -/
  | noMethod (method receiver : String)
  /-- Nothing can be looked up in the receiver. -/
  | noIndex (receiver : String)
  /-- The argument or the receiver's contents do not fit. -/
  | type (text : String)
  /-- A host object's own error. -/
  | custom (text : String)
  deriving DecidableEq

/-- The wording of each error. -/
def ReceiverError.message : ReceiverError → String
  | .noMethod method receiver =>
    "undefined method \x60" ++ method ++ "' for an instance of " ++ receiver
  | .noIndex receiver => "undefined method \x60[]' for an instance of " ++ receiver
  | .type text => text
  | .custom text => text

namespace Key

/-- The class that a key of this kind belongs to. -/
def className : Key → String
  | .str _ => "String"
  | .symbol _ => "Symbol"
  | .int _ => "Integer"

/-- The key as a value. -/
def toValue : Key → Value
  | .str text => .str text
  | .symbol name => .symbol name
  | .int n => .int n

/-- The value as a key; only strings, symbols and integers are keys. -/
def ofValue? : Value → Option Key
  | .str text => some (.str text)
  | .symbol name => some (.symbol name)
  | .int n => some (.int n)
  | _ => none

end Key

namespace Value

def isNil : Value → Bool
  | .nil => true
  | _ => false

def isHash : Value → Bool
  | .hash _ => true
  | _ => false

def isArray : Value → Bool
  | .array _ => true
  | _ => false

/-- A value as an outcome: nil is absence. -/
def toOption : Value → Option Value
  | .nil => none
  | value => some value

/-- An outcome as a value: absence is nil. -/
def ofOption (outcome : Option Value) : Value := outcome.getD .nil

/-- The name of a value's class. -/
def className : Value → String
  | .nil => "NilClass"
  | .bool true => "TrueClass"
  | .bool false => "FalseClass"
  | .int _ => "Integer"
  | .float _ => "Float"
  | .str _ => "String"
  | .symbol _ => "Symbol"
  | .array _ => "Array"
  | .hash _ => "Hash"
  | .host object => object.className

end Value

end DocPath
