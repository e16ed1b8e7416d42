import DocPath.Toml.Reader
import DocPath.Toml.Value

/-!
# TOML dates and times

Every part has a fixed number of digits and a range; the day has to be one of its month. Fractions of a second
beyond the ninth digit are cut off.
-/

namespace DocPath.Toml

/-- The number of days of a month. -/
def Date.daysIn (year month : Nat) : Nat :=
  if month = 2 then if year % 4 = 0 ∧ (year % 100 ≠ 0 ∨ year % 400 = 0) then 29 else 28
  else if month = 4 ∨ month = 6 ∨ month = 9 ∨ month = 11 then 30
  else 31

namespace Reader

/-- Takes a number with a fixed count of digits that lies in a range. -/
def part (count low high : Nat) : Reader Nat := fun rest =>
  let digits := rest.take count
  let n := Text.Numeral.value digits
  if digits.length = count ∧ digits.all Char.isDigit ∧ low ≤ n ∧ n ≤ high then some (n, rest.drop count)
  else none

def date : Reader Date := do
  let year ← part 4 0 9999
  char '-'
  let month ← part 2 1 12
  char '-'
  let day ← part 2 1 (Date.daysIn year month)
  return ⟨year, month, day⟩

/-- Takes a fraction of a second, in nanoseconds. -/
def nanoseconds : Reader Nat := do
  char '.'
  let digits ← takeSome Char.isDigit
  return Text.Numeral.value ((digits ++ List.replicate 9 '0').take 9)

def time : Reader Time := do
  let hour ← part 2 0 23
  char ':'
  let minute ← part 2 0 59
  char ':'
  let second ← part 2 0 60
  return ⟨hour, minute, second, (← optionally nanoseconds).getD 0⟩

/-- Takes an offset from universal time, in minutes. -/
def offset : Reader Int := do
  match ← satisfying fun c => c == 'Z' || c == 'z' || c == '+' || c == '-' with
  | 'Z' | 'z' => return 0
  | c =>
    let hours ← part 2 0 23
    char ':'
    let minutes : Int := hours * 60 + (← part 2 0 59)
    return if c = '-' then -minutes else minutes

/-- Takes a time that follows a date, with its offset. -/
def timeAfterDate : Reader (Time × Option Int) := do
  discard (satisfying fun c => c == 'T' || c == 't' || c == ' ')
  return (← time, ← optionally offset)

/-- Takes a date, a time, or a date with a time. -/
def dateTime : Reader DateTime :=
  (do
    let day ← date
    match ← optionally timeAfterDate with
    | some (t, o) => return .both day t o
    | none => return .date day) <|>
  (.time <$> time)

end Reader

end DocPath.Toml
