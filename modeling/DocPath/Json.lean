import DocPath.Binary64.Decimal

/-!
# JSON

JSON values whose objects have their members in ascending order of their names, and their text over several
lines with two blanks of indentation.
-/

namespace DocPath

inductive Json where
  | null
  | bool (b : Bool)
  | int (n : Int)
  /-- A finite float. -/
  | float (negative : Bool) (magnitude : Binary64.Magnitude)
  | str (text : String)
  | array (items : List Json)
  /-- The members in ascending order of their names, which are pairwise distinct. -/
  | object (members : List (String × Json))
  deriving Inhabited

namespace Json

/-- Sets a member: a new one takes its place in the order, and one that is there takes the new value. -/
def insertMember (name : String) (value : Json) : List (String × Json) → List (String × Json)
  | [] => [(name, value)]
  | (n, v) :: rest =>
    if name < n then (name, value) :: (n, v) :: rest
    else if name = n then (name, value) :: rest
    else (n, v) :: insertMember name value rest

/-- The members of an object, of which the last of each name counts. -/
def membersOfList (members : List (String × Json)) : List (String × Json) :=
  members.foldl (fun acc member => insertMember member.1 member.2 acc) []

/-- A character inside a string: quotes, backslashes and control characters are escaped. -/
def stringChar (c : Char) : List Char :=
  match c with
  | '"' => ['\\', '"']
  | '\\' => ['\\', '\\']
  | '\x08' => ['\\', 'b']
  | '\x0c' => ['\\', 'f']
  | '\n' => ['\\', 'n']
  | '\r' => ['\\', 'r']
  | '\t' => ['\\', 't']
  | c =>
    if c.toNat < 0x20 then
      let digits := Nat.toDigits 16 c.toNat
      '\\' :: 'u' :: (List.replicate (4 - digits.length) '0' ++ digits)
    else [c]

/-- A string between quotes. -/
def stringText (text : String) : String :=
  String.ofList ('"' :: (text.toList.flatMap stringChar ++ ['"']))

/-- A line break and the indentation of a depth. -/
def newLine (depth : Nat) : String := String.ofList ('\n' :: List.replicate (2 * depth) ' ')

/-- The parts of a collection between brackets, each on a line of its own; empty brackets stay closed. -/
def bracket (depth : Nat) (opening closing : String) (parts : List String) : String :=
  if parts.isEmpty then opening ++ closing
  else
    let inner := newLine (depth + 1)
    opening ++ inner ++ ("," ++ inner).intercalate parts ++ newLine depth ++ closing

mutual

/-- The text of a value at a depth of nesting. -/
def renderAt (depth : Nat) : Json → String
  | .null => "null"
  | .bool b => if b then "true" else "false"
  | .int n => toString n
  | .float negative m => String.ofList (Binary64.balancedText true negative m)
  | .str text => stringText text
  | .array items => bracket depth "[" "]" (renderItems (depth + 1) items)
  | .object members => bracket depth "\x7b" "\x7d" (renderMembers (depth + 1) members)

def renderItems (depth : Nat) : List Json → List String
  | [] => []
  | item :: rest => renderAt depth item :: renderItems depth rest

def renderMembers (depth : Nat) : List (String × Json) → List String
  | [] => []
  | (name, value) :: rest =>
    (stringText name ++ ": " ++ renderAt depth value) :: renderMembers depth rest

end

/-- The text of a value, without a line break at the end. -/
def render (json : Json) : String := json.renderAt 0

end Json

end DocPath
