/-!
# Compiled paths

A path is a list of segments. A segment is one step on the running value and a flag which says whether
the step is taken even when there is no running value. Every path has a canonical text.
-/

namespace DocPath.Path

/-- What a segment does to the running value. -/
inductive Step where
  /-- Invokes a method without arguments. -/
  | method (name : String)
  /-- Looks up a symbol key. -/
  | symbolKey (name : String)
  /-- Looks up a string key. -/
  | stringKey (text : String)
  /-- Takes the element at an unsigned 64-bit index. -/
  | arrayIndex (index : UInt64)
  /-- Looks up a string key, or else the symbol key of the same text. -/
  | genericKey (text : String)
  deriving DecidableEq, Repr

/-- A step with its mandatory flag. -/
structure Segment where
  step : Step
  mandatory : Bool
  deriving DecidableEq, Repr

/-- The canonical text of a segment: `!` stands before a bracket, and string keys have double
quotes. -/
def Segment.render (segment : Segment) : String :=
  let bang := if segment.mandatory then "!" else ""
  match segment.step with
  | .method name => "." ++ bang ++ name
  | .symbolKey name => bang ++ "[:" ++ name ++ "]"
  | .stringKey text => bang ++ "[\"" ++ text ++ "\"]"
  | .arrayIndex index => bang ++ "[" ++ toString index.toNat ++ "]"
  | .genericKey text => bang ++ "[" ++ text ++ "]"

end DocPath.Path

namespace DocPath

/-- A compiled path expression: its segments in the order of evaluation. -/
structure Path where
  segments : List Path.Segment
  deriving DecidableEq, Repr

namespace Path

/-- The number of segments. -/
def length (path : Path) : Nat := path.segments.length

/-- The canonical text of a path: the texts of its segments, one after the other. -/
def render (path : Path) : String :=
  path.segments.foldl (fun text segment => text ++ segment.render) ""

end Path

end DocPath
