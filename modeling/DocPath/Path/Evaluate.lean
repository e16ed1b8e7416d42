import DocPath.Path.Segment
import DocPath.Value.Lookup
import DocPath.Value.Method
import DocPath.Word

/-!
# Evaluating paths

The segments are applied from left to right to a running value, which is absent once a step gives nil.
While it is absent, only mandatory segments are applied, to nil, and may fail or bring a value back.
-/

namespace DocPath.Path

/-- A segment that could not be applied: which one, its place in the path and the receiver's reason. -/
structure ApplyError where
  segment : Segment
  position : Nat
  reason : ReceiverError
  deriving DecidableEq

/-- The wording of an evaluation error. -/
def ApplyError.message (e : ApplyError) : String :=
  "cannot apply \x60" ++ e.segment.render ++ "\x60 (segment " ++ toString e.position ++ "): " ++
    e.reason.message

/-- Looks a text up as a string key, then as a symbol key. A value that can tell which keys it has is asked
that first and looked up at most once; any other is asked for the symbol only when the string gives nil. -/
def genericLookup (hosts : Hosts) (value : Value) (text : String) : Consult ReceiverError Value := do
  if value.hasPresence hosts (← Consult.earlierCalls) then
    if ← value.hasKey hosts (.str text) then value.index hosts (.str text)
    else if ← value.hasKey hosts (.symbol text) then value.index hosts (.symbol text)
    else pure .nil
  else
    match ← value.index hosts (.str text) with
    | .nil => value.index hosts (.symbol text)
    | found => pure found

/-- The value that a step gives. An index beyond the signed range has no key and finds nothing. -/
def Step.lookup (hosts : Hosts) (value : Value) : Step → Consult ReceiverError Value
  | .method name => value.send hosts name
  | .symbolKey name => value.index hosts (.symbol name)
  | .stringKey text => value.index hosts (.str text)
  | .arrayIndex index =>
    if index.toNat < signedBound then value.index hosts (.int (Int64.ofNat index.toNat)) else pure .nil
  | .genericKey text => genericLookup hosts value text

/-- The outcome of a step: the value it gives, or absence for nil. -/
def Step.apply (hosts : Hosts) (value : Value) (step : Step) :
    Consult ReceiverError (Option Value) := do
  return (← step.lookup hosts value).toOption

/-- Applies the segment at `position` of a path. -/
def Segment.applyAt (hosts : Hosts) (position : Nat) (segment : Segment) (value : Value) :
    Consult ApplyError (Option Value) :=
  (segment.step.apply hosts value).mapError fun reason => ⟨segment, position, reason⟩

/-- Takes one segment from a running value: an optional segment leaves absence alone. -/
def Segment.advance (hosts : Hosts) (position : Nat) (segment : Segment) :
    Option Value → Consult ApplyError (Option Value)
  | some value => segment.applyAt hosts position value
  | none => if segment.mandatory then segment.applyAt hosts position .nil else pure none

/-- Applies the segments that start at `position` of a path to a running value. -/
def evaluateFrom (hosts : Hosts) (position : Nat) (running : Option Value) :
    List Segment → Consult ApplyError (Option Value)
  | [] => pure running
  | segment :: rest => do
    evaluateFrom hosts (position + 1) (← segment.advance hosts position running) rest

/-- Applies segments to a root value. -/
def evaluate (hosts : Hosts) (segments : List Segment) (root : Value) :
    Consult ApplyError (Option Value) :=
  evaluateFrom hosts 0 root.toOption segments

/-- Applies a path to a root value. -/
def apply (hosts : Hosts) (path : Path) (root : Value) : Consult ApplyError (Option Value) :=
  evaluate hosts path.segments root

end DocPath.Path
