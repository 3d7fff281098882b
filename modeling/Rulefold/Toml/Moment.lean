import Rulefold.Toml.Reader

/-!
# Moments

A moment is a date, a time of day or both, perhaps with an offset from universal time. Moments are
only checked against the calendar and the clock: no option takes one.
-/

namespace Rulefold.Toml

open Reader

/-- A number of a fixed count of digits, within bounds. -/
def clockNumber (count low high : Nat) : Reader Nat := do
  let value := ofDigits 10 (← exactly Char.isDigit count)
  guard (low ≤ value && value ≤ high)
  pure value

/-- Says whether a year has a leap day. -/
def isLeapYear (year : Nat) : Bool :=
  year % 4 == 0 && (year % 100 != 0 || year % 400 == 0)

/-- The number of days of a month. -/
def monthLength (year month : Nat) : Nat :=
  if month == 2 then (if isLeapYear year then 29 else 28)
  else if month == 4 || month == 6 || month == 9 || month == 11 then 30
  else 31

/-- A day of the calendar. -/
def date : Reader Unit := do
  let year ← clockNumber 4 0 9999
  char '-'
  let month ← clockNumber 2 1 12
  char '-'
  let _ ← clockNumber 2 1 (monthLength year month)

/-- A time of day. A minute may have a leap second. -/
def timeOfDay : Reader Unit := do
  let _ ← clockNumber 2 0 23
  char ':'
  let _ ← clockNumber 2 0 59
  char ':'
  let _ ← clockNumber 2 0 60
  let _ ← optional (do
    char '.'
    let places ← span Char.isDigit
    guard (!places.isEmpty))

/-- An offset from universal time. -/
def offset : Reader Unit :=
  (do let _ ← satisfy fun char => char == 'Z' || char == 'z') <|>
  (do
    let _ ← satisfy fun char => char == '+' || char == '-'
    let _ ← clockNumber 2 0 23
    char ':'
    let _ ← clockNumber 2 0 59)

/-- A moment: a date with or without a time, or a time alone. Only a time behind a date can have
an offset. -/
def moment : Reader Unit :=
  (do
    date
    let _ ← optional (do
      let _ ← satisfy fun char => char == 'T' || char == 't' || char == ' '
      timeOfDay
      optional offset)) <|>
  timeOfDay

end Rulefold.Toml
