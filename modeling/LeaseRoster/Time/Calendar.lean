/-!
# The calendar

Days of the Gregorian calendar, extended backwards to year 1 and ending with
year 9999, and their numbers counted from the first day of year 1.  Weeks start
on Monday, and the first week of a year is the one that holds its fourth day.
-/

namespace LeaseRoster

namespace Calendar

def isLeap (year : Nat) : Bool :=
  year % 4 == 0 && (year % 100 != 0 || year % 400 == 0)

/-- The number of days of a month of a year; none for a month outside the year. -/
def daysInMonth (year month : Nat) : Nat :=
  match month with
  | 1 | 3 | 5 | 7 | 8 | 10 | 12 => 31
  | 4 | 6 | 9 | 11 => 30
  | 2 => if isLeap year then 29 else 28
  | _ => 0

/-- The number of days from the first day of year 1 to the first day of a year. -/
def daysBeforeYear (year : Nat) : Nat :=
  let full := year - 1
  full * 365 + full / 4 - full / 100 + full / 400

/-- The number of days from the first day of a year to the first day of a month. -/
def daysBeforeMonth (year month : Nat) : Nat :=
  ((List.range month).map (daysInMonth year)).foldr (· + ·) 0

def isDay (year month day : Nat) : Bool :=
  1 ≤ year && year ≤ 9999 && 1 ≤ day && day ≤ daysInMonth year month

def dayLimit : Nat := 3652059

end Calendar

/-- A day of the calendar. -/
structure Date where
  year : Nat
  month : Nat
  day : Nat
  isDay : Calendar.isDay year month day = true
deriving DecidableEq

namespace Date

/-- The day with the given year, month and day of the month, if there is one. -/
def of? (year month day : Nat) : Option Date :=
  if valid : Calendar.isDay year month day = true then
    some ⟨year, month, day, valid⟩
  else none

/-- The number of days from the first day of year 1 to a day. -/
def number (date : Date) : Nat :=
  Calendar.daysBeforeYear date.year +
    Calendar.daysBeforeMonth date.year date.month + (date.day - 1)

end Date

namespace Calendar

def yearOf (number : Nat) : Nat :=
  -- A year is at most 366 days long, so the guess is at most a few years short
  -- of the greatest year that starts on or before the day.
  let guess := number / 366 + 1
  let later := (List.range 30).filter fun step =>
    daysBeforeYear (guess + step) ≤ number
  guess + (later.length - 1)

/-- The month and the day of the month of a day counted from the start of a year,
searched from a given month on. -/
def monthAndDay (year : Nat) : Nat → Nat → Nat → Nat × Nat
  | 0, month, rest => (month, rest + 1)
  | tries + 1, month, rest =>
    if rest < daysInMonth year month then (month, rest + 1)
    else monthAndDay year tries (month + 1) (rest - daysInMonth year month)

/-- The year, month and day of the month of the day with a given number. -/
def civil (number : Nat) : Nat × Nat × Nat :=
  let year := yearOf number
  let (month, day) := monthAndDay year 11 1 (number - daysBeforeYear year)
  (year, month, day)

/-- The weekday of the day with a given number, zero for Monday. -/
def weekday (number : Nat) : Nat := number % 7

/-- The number of the Monday with which the weeks of a year start, which may lie
before the first day of year 1 and is counted from a week earlier. -/
def firstMondayPlusWeek (year : Nat) : Nat :=
  let first := daysBeforeYear year
  let monday := first + 7 - weekday first
  if 3 < weekday first then monday + 7 else monday

def hasLongWeekYear (year : Nat) : Bool :=
  let first := weekday (daysBeforeYear year)
  first == 3 || (first == 2 && isLeap year)

/-- The number of the day with the given year, week and day of the week, if the
year has that week. -/
def weekDay? (year week day : Nat) : Option Nat :=
  if 1 ≤ year && year ≤ 9999 && 1 ≤ week &&
      (week ≤ 52 || (week == 53 && hasLongWeekYear year)) &&
      1 ≤ day && day ≤ 7 then
    let number := firstMondayPlusWeek year + (week - 1) * 7 + (day - 1)
    if 7 ≤ number && number - 7 < dayLimit then some (number - 7) else none
  else none

end Calendar

end LeaseRoster
