import LeaseRoster.Text.Hex

/-!
# Binary floating-point numbers

A number of 64 bits is kept as a sign and a count of its smallest unit,
`2 ^ -1074`, so every operation is exact arithmetic followed by one rounding to
the nearest representable count, ties to the even one.
-/

namespace LeaseRoster

/-- A binary floating-point number of 64 bits. -/
inductive Binary64
  | finite (negative : Bool) (units : Nat)
  | infinite (negative : Bool)
  | notANumber
deriving DecidableEq, Repr

namespace Binary64

def unitExponent : Nat := 1074

def unitsPerOne : Nat := Nat.pow 2 unitExponent

/-- The first count of units that is too large. -/
def unitsLimit : Nat := Nat.pow 2 (unitExponent + 1024)

/-- The integer nearest to a quotient, ties to the even one. -/
def roundHalfEven (numerator denominator : Nat) : Nat :=
  let whole := numerator / denominator
  let rest := 2 * (numerator % denominator)
  if rest < denominator then whole
  else if denominator < rest then whole + 1
  else if whole % 2 == 0 then whole
  else whole + 1

def nearest (negative : Bool) (numerator denominator : Nat) : Binary64 :=
  let spare := Nat.pow 2 ((numerator / denominator).log2 - 52)
  let units := roundHalfEven numerator (denominator * spare) * spare
  if units < unitsLimit then .finite negative units else .infinite negative

def ofRatio (negative : Bool) (numerator denominator : Nat) : Binary64 :=
  nearest negative (numerator * unitsPerOne) denominator

def ofInt (value : Int) : Binary64 := ofRatio (value < 0) value.natAbs 1

/-- The number nearest to `coefficient * 10 ^ exponent`.  Magnitudes far outside
the range are recognised before any power is computed. -/
def ofDecimal (negative : Bool) (coefficient : Nat) (exponent : Int) : Binary64 :=
  let places : Int := (Text.decimal coefficient).length
  if coefficient == 0 then .finite negative 0
  else if 400 < exponent + places then .infinite negative
  else if exponent + places < -400 then .finite negative 0
  else if 0 ≤ exponent then
    ofRatio negative (coefficient * Nat.pow 10 exponent.toNat) 1
  else ofRatio negative coefficient (Nat.pow 10 (-exponent).toNat)

def zero : Binary64 := .finite false 0

def signedUnits (negative : Bool) (units : Nat) : Int :=
  if negative then -(units : Int) else units

def isZero : Binary64 → Bool
  | .finite _ units => units == 0
  | _ => false

def add : Binary64 → Binary64 → Binary64
  | .finite leftNegative leftUnits, .finite rightNegative rightUnits =>
    let total :=
      signedUnits leftNegative leftUnits + signedUnits rightNegative rightUnits
    if total == 0 then .finite (leftNegative && rightNegative) 0
    else nearest (total < 0) total.natAbs 1
  | .infinite leftNegative, .infinite rightNegative =>
    if leftNegative == rightNegative then .infinite leftNegative else .notANumber
  | .infinite negative, .finite _ _ => .infinite negative
  | .finite _ _, .infinite negative => .infinite negative
  | .notANumber, _ => .notANumber
  | _, .notANumber => .notANumber

/-- The product of a number and a positive factor. -/
def scale (number : Binary64) (factor : Nat) : Binary64 :=
  match number with
  | .finite negative units => nearest negative (units * factor) 1
  | other => other

/-- The product of a number and a positive factor in units. -/
def times (number : Binary64) (factor : Nat) : Binary64 :=
  match number with
  | .finite negative units => nearest negative (units * factor) unitsPerOne
  | other => other

def units : Binary64 → Nat
  | .finite _ units => units
  | _ => 0

/-- The number nearest to the product of two magnitudes in units. -/
def ofProduct (negative : Bool) (left right : Nat) : Binary64 :=
  nearest negative (left * right) unitsPerOne

/-- The number nearest to the quotient of two magnitudes in units. -/
def ofQuotient (negative : Bool) (left right : Nat) : Binary64 :=
  nearest negative (left * unitsPerOne) right

def neg : Binary64 → Binary64
  | .finite negative units => .finite (!negative) units
  | .infinite negative => .infinite (!negative)
  | .notANumber => .notANumber

def lt : Binary64 → Binary64 → Bool
  | .notANumber, _ => false
  | _, .notANumber => false
  | .infinite left, .infinite right => left && !right
  | .infinite left, .finite _ _ => left
  | .finite _ _, .infinite right => !right
  | .finite leftNegative leftUnits, .finite rightNegative rightUnits =>
    signedUnits leftNegative leftUnits < signedUnits rightNegative rightUnits

def wholePart (units : Nat) : Nat := units / unitsPerOne

def isWhole (units : Nat) : Bool := units % unitsPerOne == 0

def toInt? : Binary64 → Option Int
  | .finite negative units =>
    if isWhole units then some (signedUnits negative (wholePart units)) else none
  | _ => none

/-- The greatest integer that is not above a number in units. -/
def floorPart (negative : Bool) (units : Nat) : Int :=
  Int.fdiv (signedUnits negative units) unitsPerOne

/-- The fraction of a magnitude in units, scaled to millionths as a number of its
own. -/
def fractionMillionths (units : Nat) : Nat :=
  (nearest false (units % unitsPerOne * 1000000) 1).units

/-- A magnitude in units counted in millionths, rounded to the nearest one, ties to
the even. -/
def millionths (units : Nat) : Nat :=
  roundHalfEven
    (wholePart units * 1000000 * unitsPerOne + fractionMillionths units) unitsPerOne

/-- The integer nearest to a magnitude in units, a half rounded up. -/
def roundHalfUp (units : Nat) : Nat := (2 * units + unitsPerOne) / (2 * unitsPerOne)

end Binary64

end LeaseRoster
