import LeaseRoster.Number.Binary64

/-!
# Durations

A duration is a whole number of microseconds, of either sign, of less than a
thousand million days.
-/

namespace LeaseRoster

def microsPerSecond : Nat := 1000000

def microsPerDay : Nat := 86400 * microsPerSecond

/-- A length of time in microseconds. -/
structure Duration where
  micros : Int
  inRange : -(999999999 * microsPerDay : Int) ≤ micros ∧
    micros < 1000000000 * microsPerDay
deriving DecidableEq

namespace Duration

/-- The duration of a number of microseconds, if it is in range. -/
def ofMicros? (micros : Int) : Option Duration :=
  if inRange : -(999999999 * microsPerDay : Int) ≤ micros ∧
      micros < 1000000000 * microsPerDay then some ⟨micros, inRange⟩
  else none

def zero : Duration := ⟨0, by decide, by decide⟩

/-- The whole days of a duration, rounded down. -/
def days (duration : Duration) : Int := Int.fdiv duration.micros microsPerDay

def seconds (duration : Duration) : Nat :=
  (Int.fmod duration.micros microsPerDay).toNat / microsPerSecond

def microseconds (duration : Duration) : Nat :=
  (Int.fmod duration.micros microsPerSecond).toNat

/-- The duration of a number of seconds, rounded to microseconds, if it is in
range. -/
def ofSeconds? : Binary64 → Option Duration
  | .finite negative units =>
    ofMicros? (Binary64.signedUnits negative (Binary64.millionths units))
  | _ => none

theorem ofMicros?_eq_some {micros : Int} {duration : Duration}
    (made : ofMicros? micros = some duration) : duration.micros = micros := by
  unfold ofMicros? at made
  split at made
  · cases made; rfl
  · cases made

end Duration

end LeaseRoster
