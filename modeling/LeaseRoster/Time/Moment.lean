import LeaseRoster.Time.Calendar
import LeaseRoster.Time.Duration

/-!
# Moments

A moment is what a clock on the wall shows, in microseconds since the start of
year 1, together with the distance of that clock from universal time if it is
known.  Two moments with a known distance are compared by the instants they
stand for; a moment without one is taken as universal time where the history
is concerned and is not comparable otherwise.
-/

namespace LeaseRoster

/-- The first count of microseconds behind the end of year 9999. -/
def wallLimit : Nat := Calendar.dayLimit * microsPerDay

/-- A clock reading, and how far the clock is ahead of universal time. -/
structure Moment where
  wall : Nat
  offset : Option Int
  inRange : wall < wallLimit
deriving DecidableEq

namespace Moment

/-- The moment with a wall clock reading, if the reading is in range. -/
def of? (wall : Int) (offset : Option Int) : Option Moment :=
  if 0 ≤ wall then
    if inRange : wall.toNat < wallLimit then some ⟨wall.toNat, offset, inRange⟩
    else none
  else none

/-- The microseconds of universal time since the start of year 1, a clock of
unknown distance taken to show universal time. -/
def instant (moment : Moment) : Int := moment.wall - moment.offset.getD 0

/-- Whether the distance of the clock from universal time is known. -/
def isAware (moment : Moment) : Bool := moment.offset.isSome

/-- The same clock reading, taken as universal time unless its distance from it
is known. -/
def assumeUniversal (moment : Moment) : Moment :=
  { moment with offset := some (moment.offset.getD 0) }

/-- The same instant on a clock that shows universal time, if it is in range. -/
def toUniversal? (moment : Moment) : Option Moment := of? moment.instant (some 0)

/-- The clock reading a duration earlier, if it is in range. -/
def minus? (moment : Moment) (duration : Duration) : Option Moment :=
  of? (moment.wall - duration.micros) moment.offset

/-- The microseconds from the start of year 1 to a time of the day with a given
number. -/
def microsOf (dayNumber hour minute second micros : Nat) : Nat :=
  dayNumber * microsPerDay +
    ((hour * 60 + minute) * 60 + second) * microsPerSecond + micros

def dayNumber (moment : Moment) : Nat := moment.wall / microsPerDay

def secondOfDay (moment : Moment) : Nat :=
  moment.wall % microsPerDay / microsPerSecond

def microOfSecond (moment : Moment) : Nat := moment.wall % microsPerSecond

/-- The count of microseconds from the start of year 1 to the start of 1970. -/
def epochMicros : Nat := 719162 * microsPerDay

theorem of?_eq_some {wall : Int} {offset : Option Int} {moment : Moment}
    (made : of? wall offset = some moment) :
    (moment.wall : Int) = wall ∧ moment.offset = offset := by
  unfold of? at made
  split at made
  · split at made
    · cases made
      exact ⟨by simp; omega, rfl⟩
    · cases made
  · cases made

@[simp] theorem instant_assumeUniversal (moment : Moment) :
    moment.assumeUniversal.instant = moment.instant := by
  simp [assumeUniversal, instant]

theorem instant_of_toUniversal? {moment universal : Moment}
    (converted : moment.toUniversal? = some universal) :
    universal.instant = moment.instant := by
  obtain ⟨wall, offset⟩ := of?_eq_some converted
  simp [instant, wall, offset]

end Moment

end LeaseRoster
