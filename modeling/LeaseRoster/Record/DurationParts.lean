import LeaseRoster.Datum
import LeaseRoster.Fault

/-!
# Durations given in parts

A duration may be given as days, seconds and microseconds, which are any numbers.  The
whole microseconds of the parts are added exactly; what is left of them is added as a
floating-point number of its own, and the sum is rounded to the nearest microsecond,
ties to the even one.
-/

namespace LeaseRoster

namespace Duration

/-- A count of microseconds: the whole ones, and what is left. -/
structure Share where
  whole : Int
  rest : Binary64

/-- The microseconds of a number of units of so many microseconds each. -/
def shareOf (factor : Nat) : Datum → Except Fault Share
  | .whole value => .ok ⟨value * factor, .zero⟩
  | .flag value => .ok ⟨if value then factor else 0, .zero⟩
  | .real (.finite negative units) =>
    let scaled := (Binary64.nearest negative (units % Binary64.unitsPerOne * factor) 1).units
    .ok
      ⟨Binary64.signedUnits negative
          (Binary64.wholePart units * factor + Binary64.wholePart scaled),
        .finite negative (scaled % Binary64.unitsPerOne)⟩
  | .real (.infinite _) => .error .beyondRange
  | .real .notANumber => .error (.value .unreadableNumber)
  | _ => .error .wrongKind

/-- The whole microseconds nearest to some shares together. -/
def nearestTo (shares : List Share) : Int :=
  let whole := shares.foldr (fun share total => share.whole + total) 0
  let rest := shares.foldl (fun total share => total.add share.rest) Binary64.zero
  let count :=
    match rest with
    | .finite negative units =>
      whole * Binary64.unitsPerOne + Binary64.signedUnits negative units
    | _ => whole * Binary64.unitsPerOne
  Binary64.signedUnits (count < 0)
    (Binary64.roundHalfEven count.natAbs Binary64.unitsPerOne)

/-- The duration of some days, seconds and microseconds together, if it is in range. -/
def ofGiven (days seconds micros : Datum) : Except Fault Duration := do
  let least ← shareOf 1 micros
  let middle ← shareOf microsPerSecond seconds
  let greatest ← shareOf microsPerDay days
  match ofMicros? (nearestTo [least, middle, greatest]) with
  | some duration => return duration
  | none => throw .beyondRange

end Duration

end LeaseRoster
