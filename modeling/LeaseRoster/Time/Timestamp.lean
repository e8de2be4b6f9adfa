import LeaseRoster.Datum
import LeaseRoster.Fault
import LeaseRoster.Number.Word

/-!
# Moments counted from 1970

A moment may be given as a number of seconds since the start of 1970 in universal
time.  What cannot be a moment is refused in one of four ways: it is no number, it
does not fit a word of 64 bits, its year does not fit one of 32 bits, or its year
lies outside the calendar.
-/

namespace LeaseRoster

namespace Calendar

/-- The number of days from the start of 1970 to the start of a year, also far
outside the calendar. -/
def daysToYear (year : Int) : Int :=
  let full := year - 1
  365 * full + Int.fdiv full 4 - Int.fdiv full 100 + Int.fdiv full 400 - 719162

/-- Whether a count of seconds lies in a year that the clock of the system can
show: one whose distance from 1900 fits a signed word of 32 bits. -/
def inClockYears (seconds : Int) : Bool :=
  daysToYear (1900 - 2147483648) * 86400 ≤ seconds &&
    seconds < daysToYear (1900 + 2147483648) * 86400

end Calendar

namespace Moment

/-- The moment a number of microseconds after the start of 1970. -/
def ofEpochMicros (micros : Int) : Except Fault Moment :=
  if Calendar.inClockYears (Int.fdiv micros microsPerSecond) then
    match of? (epochMicros + micros) (some 0) with
    | some moment => .ok moment
    | none => .error (.value .unreadableMoment)
  else .error .beyondClock

/-- The moment a whole number of seconds after the start of 1970. -/
def ofEpochSeconds (seconds : Int) : Except Fault Moment :=
  if fitsWord seconds then ofEpochMicros (seconds * microsPerSecond)
  else .error .beyondRange

/-- The moment that a value counts in seconds from the start of 1970. -/
def ofTimestamp : Datum → Except Fault Moment
  | .whole seconds => ofEpochSeconds seconds
  | .flag value => ofEpochSeconds (if value then 1 else 0)
  | .real (.finite negative units) =>
    let whole := Binary64.signedUnits negative (Binary64.wholePart units)
    if fitsWord whole then
      ofEpochMicros (Binary64.signedUnits negative (Binary64.millionths units))
    else .error .beyondRange
  | .real (.infinite _) => .error .beyondRange
  | .real .notANumber => .error (.value .unreadableMoment)
  | _ => .error .wrongKind

end Moment

end LeaseRoster
