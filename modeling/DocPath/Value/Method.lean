import DocPath.Value.Host
import DocPath.Value.Method.Collection

/-!
# Method calls

A method is looked for among those of the value's class, then among those that every value has. A host
object answers itself; only when it says that it has no method of this name are the common ones tried.
-/

namespace DocPath.Value

/-- The methods that every value has. -/
def commonMethod (value : Value) : String → Option Value
  | "class" => some (.str value.className)
  | "inspect" => some (.str value.inspect)
  | "to_s" => some (.str value.text)
  | "itself" => some value
  | _ => none

/-- The methods of a value's own class, for values that are no host objects. -/
def ownMethod (value : Value) (method : String) : Except ReceiverError (Option Value) :=
  match value with
  | .nil => .ok (nilMethod method)
  | .int n => integerMethod n method
  | .float x => floatMethod x method
  | .str text => .ok (stringMethod text method)
  | .symbol name => .ok (symbolMethod name method)
  | .array items => arrayMethod items method
  | .hash entries => hashMethod entries method
  | .bool _ | .host _ => .ok none

/-- A method that every value has, or the error that there is none of this name. -/
def sendCommon (value : Value) (method : String) : Except ReceiverError Value :=
  match commonMethod value method with
  | some result => .ok result
  | none => .error (.noMethod method value.className)

/-- Calls a method of a value that is no host object. -/
def sendOwn (value : Value) (method : String) : Except ReceiverError Value :=
  match ownMethod value method with
  | .error e => .error e
  | .ok (some result) => .ok result
  | .ok none => sendCommon value method

/-- Calls a method without arguments. -/
def send (hosts : Hosts) (value : Value) (method : String) : Consult ReceiverError Value :=
  match value with
  | .host object =>
    .call (.send object method) fun earlier =>
      match hosts.send earlier object method with
      | .error (.noMethod _ _) => sendCommon value method
      | answer => answer
  | value => .ofExcept (sendOwn value method)

end DocPath.Value
