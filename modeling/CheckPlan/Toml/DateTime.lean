import CheckPlan.Toml.Number

namespace CheckPlan

namespace Toml

open Numeral Reader

/-- The number that the next `count` digits stand for, if it is in a range. -/
def field (count least most : Nat) : Reader Nat := do
  let value := valueIn 10 (← exactly count Char.isDigit)
  guard (least ≤ value ∧ value ≤ most)
  return value

/-- The number of days in a month of a year. -/
def daysIn (year month : Nat) : Nat :=
  if month = 2 then
    if year % 4 = 0 ∧ (year % 100 ≠ 0 ∨ year % 400 = 0) then 29 else 28
  else if month = 4 ∨ month = 6 ∨ month = 9 ∨ month = 11 then
    30
  else
    31

/-- A date, with a day that its month has. -/
def date : Reader Unit := do
  let year ← field 4 0 9999
  mark '-'
  let month ← field 2 1 12
  mark '-'
  discard (field 2 1 (daysIn year month))

/-- A time of day, which may have a fraction of a second. -/
def time : Reader Unit := do
  discard (field 2 0 23)
  mark ':'
  discard (field 2 0 59)
  mark ':'
  discard (field 2 0 60)
  discard (optional (mark '.' *> run1 Char.isDigit))

/-- The distance of a time zone from universal time. -/
def offset : Reader Unit :=
  discard (satisfying fun c => c = 'Z' || c = 'z') <|> do
    discard sign
    discard (field 2 0 23)
    mark ':'
    discard (field 2 0 59)

/-- A date, a time of day, or both. It is checked, and its value is not used. -/
def dateTime : Reader Unit :=
  (do
    date
    discard (optional (do
      discard (satisfying fun c => c = 'T' || c = 't' || c = ' ')
      time
      discard (optional offset)))) <|>
  time

end Toml

end CheckPlan
