/-!
# The calendar

Which days and times of day exist.
-/

namespace RelationGate.Calendar

/-- How many days a month has. -/
def daysIn (year month : Nat) : Nat :=
  if month = 2 then
    if year % 4 = 0 ∧ (year % 100 ≠ 0 ∨ year % 400 = 0) then 29 else 28
  else if month = 4 ∨ month = 6 ∨ month = 9 ∨ month = 11 then 30
  else 31

/-- A day exists. -/
def isDate (year month day : Nat) : Bool :=
  1 ≤ month && month ≤ 12 && 1 ≤ day && day ≤ daysIn year month

/-- A time of day exists; a minute has so many seconds. -/
def isTime (seconds hour minute second : Nat) : Bool :=
  hour < 24 && minute < 60 && second < seconds

end RelationGate.Calendar
