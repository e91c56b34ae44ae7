/-!
# The calendar

The days and weeks of the years of the Gregorian calendar, counted from the year one.
-/

namespace MarkupDsl.Calendar

def isLeap (year : Nat) : Bool := year % 4 == 0 && (year % 100 != 0 || year % 400 == 0)

def daysIn (year month : Nat) : Nat :=
  if month == 2 then (if isLeap year then 29 else 28)
  else if [4, 6, 9, 11].contains month then 30
  else 31

def isMonth (year month : Nat) : Bool := 1 ≤ year && 1 ≤ month && month ≤ 12

def isDay (year month day : Nat) : Bool :=
  isMonth year month && 1 ≤ day && day ≤ daysIn year month

def daysThrough (year : Nat) : Nat := 365 * year + year / 4 - year / 100 + year / 400

/-- The number of the last week of a year.  Where the last day belongs to the first week of the next
year, a week is counted for it as well. -/
def lastWeek (year : Nat) : Nat :=
  let weekday := (daysThrough year - 1) % 7
  if weekday ≤ 3 || (weekday == 4 && isLeap year) then 53 else 52

/-- The number of days from the first day of the year one to the given one, which is not counted. -/
def dayNumber (year month day : Nat) : Nat :=
  (List.range (month - 1)).foldl (fun days before => days + daysIn year (before + 1))
    (daysThrough (year - 1)) + (day - 1)

end MarkupDsl.Calendar
