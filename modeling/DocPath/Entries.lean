/-!
# Insertion-ordered entries

A dictionary as the list of its entries. Inserting keeps the place of a key that is already there and gives
it the new value; a new key goes to the end. So a list built by insertions has each key once, at its first
place and with its last value.
-/

namespace DocPath.Entries

variable {κ α : Type}

/-- The value of a key. -/
def get? [BEq κ] (key : κ) : List (κ × α) → Option α
  | [] => none
  | (k, v) :: rest => if k == key then some v else get? key rest

/-- Whether a key has an entry. -/
def contains [BEq κ] (key : κ) (entries : List (κ × α)) : Bool := (get? key entries).isSome

/-- Sets the value of a key. -/
def insert [BEq κ] (key : κ) (value : α) : List (κ × α) → List (κ × α)
  | [] => [(key, value)]
  | (k, v) :: rest => if k == key then (k, value) :: rest else (k, v) :: insert key value rest

/-- Inserts entries one after the other. -/
def insertAll [BEq κ] (entries : List (κ × α)) (more : List (κ × α)) : List (κ × α) :=
  more.foldl (fun acc entry => insert entry.1 entry.2 acc) entries

/-- The dictionary of a list of entries that may repeat keys. -/
def ofList [BEq κ] (entries : List (κ × α)) : List (κ × α) := insertAll [] entries

end DocPath.Entries
