import LeaseRoster.Number.Binary64

/-!
# Numbers with a wide significand

Some conversions pass through numbers whose significand has 64 bits.  Such a number is
a natural count of a power of two; every operation is exact arithmetic followed by one
rounding to 64 significant bits, ties to the even one.  The numbers here are not
negative, and nothing bounds their exponents.
-/

namespace LeaseRoster

/-- The number `significand * 2 ^ exponent`. -/
structure Extended where
  significand : Nat
  exponent : Int
deriving DecidableEq, Repr

namespace Extended

def width : Nat := 64

/-- The number nearest to a quotient that is counted in a power of two. -/
def nearest (numerator denominator : Nat) (exponent : Int) : Extended :=
  -- The quotient is widened first, so that the bits to be dropped are all in it.
  let widening := denominator.log2 + width + 2 - numerator.log2
  let widened := numerator * Nat.pow 2 widening
  let spare := (widened / denominator).log2 + 1 - width
  ⟨Binary64.roundHalfEven widened (denominator * Nat.pow 2 spare),
    exponent - widening + spare⟩

/-- A natural number that fits the significand. -/
def ofNat (value : Nat) : Extended := nearest value 1 0

/-- The magnitude of a finite floating-point number of 64 bits. -/
def ofBinary64 (number : Binary64) : Extended :=
  ⟨number.units, -(Binary64.unitExponent : Int)⟩

/-- The floating-point number of 64 bits nearest to a power of ten. -/
def roundedTen (exponent : Int) : Extended :=
  ofBinary64 (Binary64.ofDecimal false 1 exponent)

/-- The floating-point number of 64 bits nearest to a number. -/
def toBinary64 (negative : Bool) (number : Extended) : Binary64 :=
  let places := number.exponent + Binary64.unitExponent
  if 0 ≤ places then
    Binary64.nearest negative (number.significand * Nat.pow 2 places.toNat) 1
  else Binary64.nearest negative number.significand (Nat.pow 2 (-places).toNat)

/-- The count of a power of two, no greater than that of its own exponent, that a
number is. -/
def countIn (exponent : Int) (number : Extended) : Nat :=
  number.significand * Nat.pow 2 (number.exponent - exponent).toNat

def mul (left right : Extended) : Extended :=
  nearest (left.significand * right.significand) 1 (left.exponent + right.exponent)

def div (left right : Extended) : Extended :=
  nearest left.significand right.significand (left.exponent - right.exponent)

def add (left right : Extended) : Extended :=
  let exponent := min left.exponent right.exponent
  nearest (left.countIn exponent + right.countIn exponent) 1 exponent

def le (left right : Extended) : Bool :=
  let exponent := min left.exponent right.exponent
  left.countIn exponent ≤ right.countIn exponent

def floor (number : Extended) : Nat :=
  number.countIn 0 / Nat.pow 2 (-number.exponent).toNat

def fraction (number : Extended) : Extended :=
  ⟨number.countIn 0 % Nat.pow 2 (-number.exponent).toNat, min number.exponent 0⟩

/-- A power, multiplied by a number, through repeated squaring. -/
def powerTimes (base result : Extended) (exponent : Nat) : Extended :=
  if exponent = 0 then result
  else
    powerTimes (base.mul base) (if exponent % 2 == 1 then result.mul base else result)
      (exponent / 2)
termination_by exponent

/-- A power of ten, reached through repeated squaring. -/
def powerOfTen (exponent : Nat) : Extended := powerTimes (ofNat 10) (ofNat 1) exponent

end Extended

end LeaseRoster
