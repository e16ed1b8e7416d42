import DocPath.Value.Basic

/-!
# Host objects

A host application answers for its objects, and its answers may depend on what its objects have been asked
before. Work that may consult them yields, beside its result, the list of the calls made, in order; nothing
is called after a failure.
-/

namespace DocPath

/-- A question put to a host object. -/
inductive HostCall where
  | send (object : HostObject) (method : String)
  | index (object : HostObject) (key : Key)
  | hasKey (object : HostObject) (key : Key)
  deriving DecidableEq

/-- What the host application answers for each of its objects, given the calls made so far, in order. -/
structure Hosts where
  /-- Invokes a method without arguments. -/
  send : List HostCall → HostObject → String → Except ReceiverError Value
  /-- Looks a key up; a key that is missing gives nil. -/
  index : List HostCall → HostObject → Key → Except ReceiverError Value
  /-- Whether the object can tell which keys it has. -/
  hasPresence : List HostCall → HostObject → Bool
  /-- The test for the presence of a key, for an object that has one. -/
  hasKey : List HostCall → HostObject → Key → Bool

/-- A result together with the calls made on host objects to get it. -/
structure Traced (ε α : Type) where
  calls : List HostCall
  result : Except ε α

/-- Work that may consult host objects, started after the given calls. -/
def Consult (ε α : Type) := List HostCall → Traced ε α

namespace Consult

variable {ε α β : Type}

/-- A result for which no host object is needed. -/
def ofExcept (result : Except ε α) : Consult ε α := fun _ => ⟨[], result⟩

/-- The calls made so far. -/
def earlierCalls : Consult ε (List HostCall) := fun earlier => ⟨[], .ok earlier⟩

/-- One call; its answer depends on the calls before it. -/
def call (question : HostCall) (answer : List HostCall → Except ε α) : Consult ε α :=
  fun earlier => ⟨[question], answer earlier⟩

/-- Goes on with a result, unless there is none. -/
def andThen (first : Consult ε α) (next : α → Consult ε β) : Consult ε β := fun earlier =>
  match first earlier with
  | ⟨calls, .error e⟩ => ⟨calls, .error e⟩
  | ⟨calls, .ok a⟩ =>
    let later := next a (earlier ++ calls)
    ⟨calls ++ later.calls, later.result⟩

instance : Monad (Consult ε) where
  pure a := ofExcept (.ok a)
  bind := andThen

/-- Changes the error. -/
def mapError {ε' : Type} (f : ε → ε') (work : Consult ε α) : Consult ε' α := fun earlier =>
  ⟨(work earlier).calls, (work earlier).result.mapError f⟩

end Consult

end DocPath
