import LeaseRoster.Time.Duration
import Mathlib.Algebra.Order.Ring.Nat

/-!
# Whole numbers in floating point

Whole numbers below two to the power of 53 are floating-point numbers, so sums and products of
them are exact as long as they stay below it.  What leaves these bounds does not come back:
numbers are rounded in their order, and the bound is a number.  So a sum of whole numbers is
exact or known to be large, and a large one is no duration.
-/

namespace LeaseRoster

namespace Binary64

/-! ## Rounding -/

theorem roundHalfEven_mul (count : Nat) {denominator : Nat} (positive : 0 < denominator) :
    roundHalfEven (count * denominator) denominator = count := by
  simp [roundHalfEven, Nat.mul_div_cancel _ positive, positive]

theorem div_le_roundHalfEven (numerator denominator : Nat) :
    numerator / denominator ≤ roundHalfEven numerator denominator := by
  unfold roundHalfEven
  dsimp only
  split
  · exact le_rfl
  · split
    · exact Nat.le_succ _
    · split
      · exact le_rfl
      · exact Nat.le_succ _

/-- The distance between the numbers near a count of units. -/
def spacing (units : Nat) : Nat := 2 ^ (units.log2 - 52)

theorem spacing_pos (units : Nat) : 0 < spacing units := Nat.two_pow_pos _

theorem nearest_eq (negative : Bool) (units : Nat) :
    nearest negative units 1 =
      if roundHalfEven units (spacing units) * spacing units < unitsLimit then
        .finite negative (roundHalfEven units (spacing units) * spacing units)
      else .infinite negative := by
  simp only [nearest, Nat.div_one, Nat.one_mul]
  rfl

theorem nearest_of_spacing_dvd (negative : Bool) {units : Nat} (fits : spacing units ∣ units)
    (inRange : units < unitsLimit) : nearest negative units 1 = .finite negative units := by
  have exact : roundHalfEven units (spacing units) * spacing units = units := by
    obtain ⟨count, same⟩ := fits
    rw [Nat.mul_comm] at same
    nth_rewrite 1 [same]
    rw [roundHalfEven_mul count (spacing_pos units), ← same]
  rw [nearest_eq, exact, if_pos inRange]

/-- A power of two is a number, so that rounding does not pass it. -/
theorem two_pow_le_rounded {exponent units : Nat} (least : 2 ^ exponent ≤ units) :
    2 ^ exponent ≤ roundHalfEven units (spacing units) * spacing units := by
  have positive : units ≠ 0 := (Nat.two_pow_pos exponent).trans_le least |>.ne'
  have spaced : spacing units ≤ units :=
    (Nat.pow_le_pow_right (by decide) (Nat.sub_le _ _)).trans (Nat.log2_self_le positive)
  have whole : units / spacing units * spacing units ≤
      roundHalfEven units (spacing units) * spacing units :=
    Nat.mul_le_mul_right _ (div_le_roundHalfEven _ _)
  refine le_trans ?_ whole
  rcases Nat.le_total exponent (units.log2 - 52) with fine | coarse
  · have once : 1 ≤ units / spacing units :=
      (Nat.one_le_div_iff (spacing_pos units)).mpr spaced
    calc 2 ^ exponent ≤ spacing units := Nat.pow_le_pow_right (by decide) fine
      _ ≤ units / spacing units * spacing units := Nat.le_mul_of_pos_left _ once
  · have split : 2 ^ exponent = 2 ^ (exponent - (units.log2 - 52)) * spacing units := by
      rw [spacing, ← pow_add, Nat.sub_add_cancel coarse]
    rw [split] at least ⊢
    exact Nat.mul_le_mul_right _ ((Nat.le_div_iff_mul_le (spacing_pos units)).mpr least)

/-! ## Counts -/

/-- The first whole number whose successor is no floating-point number. -/
def wholeLimit : Nat := 2 ^ 53

/-- Whether units, of which so many make up one, make up a whole number, or both are too large
to tell. -/
inductive AreUnitsOf (one count : Nat) : Nat → Prop
  | exact (small : count < wholeLimit) : AreUnitsOf one count (count * one)
  | large {units : Nat} (large : wholeLimit ≤ count) (most : wholeLimit * one ≤ units) :
    AreUnitsOf one count units

theorem areUnitsOf_mul (one count : Nat) : AreUnitsOf one count (count * one) := by
  rcases Nat.lt_or_ge count wholeLimit with small | large
  · exact .exact small
  · exact .large large (Nat.mul_le_mul_right one large)

namespace AreUnitsOf

variable {one count units other more : Nat}

theorem add (agree : AreUnitsOf one count units) (otherAgree : AreUnitsOf one other more) :
    AreUnitsOf one (count + other) (units + more) := by
  cases agree with
  | exact =>
    cases otherAgree with
    | exact =>
      rw [← Nat.add_mul]
      exact areUnitsOf_mul one _
    | large large most => exact .large (Nat.le_add_left_of_le large) (Nat.le_add_left_of_le most)
  | large large most => exact .large (Nat.le_add_right_of_le large) (Nat.le_add_right_of_le most)

theorem mul (agree : AreUnitsOf one count units) {factor : Nat} (positive : 0 < factor) :
    AreUnitsOf one (count * factor) (units * factor) := by
  cases agree with
  | exact =>
    rw [Nat.mul_right_comm]
    exact areUnitsOf_mul one _
  | large large most =>
    exact .large (large.trans (Nat.le_mul_of_pos_right _ positive))
      (most.trans (Nat.le_mul_of_pos_right _ positive))

end AreUnitsOf

/-- Whether a number is a whole number, or both are too large to tell. -/
inductive Counts (count : Nat) : Binary64 → Prop
  | finite {units : Nat} (agree : AreUnitsOf unitsPerOne count units) :
    Counts count (.finite false units)
  | infinite (large : wholeLimit ≤ count) : Counts count (.infinite false)

/-- One is a power of two.  Its exponent is not told, as the power is too large to be computed
wherever it is met. -/
theorem exists_exponent :
    ∃ exponent, unitsPerOne = 2 ^ exponent ∧ wholeLimit * 2 ^ exponent < unitsLimit :=
  ⟨unitExponent, by decide +kernel, by decide +kernel⟩

theorem unitsPerOne_pos : 0 < unitsPerOne := by decide +kernel

theorem nearest_zero (negative : Bool) : nearest negative 0 1 = .finite negative 0 := by
  obtain ⟨_, _, inRange⟩ := exists_exponent
  exact nearest_of_spacing_dvd negative (Nat.dvd_zero _) (Nat.zero_lt_of_lt inRange)

/-- Whole numbers below the limit are numbers. -/
theorem nearest_mul_two_pow (negative : Bool) {count exponent : Nat} (small : count < wholeLimit)
    (inRange : wholeLimit * 2 ^ exponent < unitsLimit) :
    nearest negative (count * 2 ^ exponent) 1 = .finite negative (count * 2 ^ exponent) := by
  rcases Nat.eq_zero_or_pos count with rfl | positive
  · rw [Nat.zero_mul, nearest_zero]
  have below : count * 2 ^ exponent < 2 ^ (53 + exponent) := by
    rw [pow_add]
    exact Nat.mul_lt_mul_of_pos_right small (Nat.two_pow_pos exponent)
  have bits := (Nat.log2_lt (Nat.mul_pos positive (Nat.two_pow_pos exponent)).ne').mpr below
  refine nearest_of_spacing_dvd negative ?_ (lt_trans ?_ inRange)
  · have divides : spacing (count * 2 ^ exponent) ∣ 2 ^ exponent := pow_dvd_pow 2 (by omega)
    exact divides.trans (Nat.dvd_mul_left _ _)
  · exact Nat.mul_lt_mul_of_pos_right small (Nat.two_pow_pos exponent)

theorem counts_nearest {count units : Nat} (agree : AreUnitsOf unitsPerOne count units) :
    Counts count (nearest false units 1) := by
  obtain ⟨exponent, one, inRange⟩ := exists_exponent
  cases agree with
  | exact small =>
    have exact := nearest_mul_two_pow false small inRange
    rw [← one] at exact
    rw [exact]
    exact .finite (areUnitsOf_mul unitsPerOne count)
  | large large most =>
    rw [one, wholeLimit, ← pow_add] at most
    have rounded := two_pow_le_rounded most
    rw [nearest_eq]
    split
    · refine .finite (.large large ?_)
      rwa [one, wholeLimit, ← pow_add]
    · exact .infinite large

theorem counts_zero : Counts 0 zero := by
  have none := areUnitsOf_mul unitsPerOne 0
  rw [Nat.zero_mul] at none
  exact .finite none

/-- Every whole number is read from its digits, unless it is too large. -/
theorem counts_ofDecimal (count : Nat) : Counts count (ofDecimal false count 0) := by
  by_cases zero : count = 0
  · rw [zero]
    exact counts_zero
  · simp only [ofDecimal, beq_iff_eq, zero, if_false]
    by_cases long : (400 : Int) < 0 + (Text.decimal count).length
    · rw [if_pos long]
      refine .infinite (not_lt.mp fun small => ?_)
      have short : (Text.decimal count).length ≤ 16 :=
        (Nat.length_toDigits_le_iff (by decide) (by decide)).mpr (small.trans (by decide))
      omega
    · rw [if_neg long, if_neg (by omega), if_pos le_rfl]
      have power : Nat.pow 10 (0 : Int).toNat = 1 := rfl
      rw [power, Nat.mul_one, ofRatio]
      exact counts_nearest (areUnitsOf_mul unitsPerOne count)

theorem add_finite (units more : Nat) :
    add (.finite false units) (.finite false more) = nearest false (units + more) 1 := by
  have total : signedUnits false units + signedUnits false more = ((units + more : Nat) : Int) :=
    rfl
  simp only [add, total]
  by_cases none : units + more = 0
  · rw [none, nearest_zero]
    rfl
  · rw [if_neg (by rw [beq_iff_eq]; omega), decide_eq_false (by omega)]
    rfl

namespace Counts

variable {count other : Nat} {number more : Binary64}

theorem scale (counts : Counts count number) {factor : Nat} (positive : 0 < factor) :
    Counts (count * factor) (number.scale factor) := by
  cases counts with
  | finite agree =>
    rw [Binary64.scale]
    exact counts_nearest (agree.mul positive)
  | infinite large => exact .infinite (large.trans (Nat.le_mul_of_pos_right _ positive))

theorem add (counts : Counts count number) (otherCounts : Counts other more) :
    Counts (count + other) (number.add more) := by
  cases counts with
  | finite agree =>
    cases otherCounts with
    | finite otherAgree =>
      rw [add_finite]
      exact counts_nearest (agree.add otherAgree)
    | infinite large => exact .infinite (large.trans (Nat.le_add_left _ _))
  | infinite large =>
    have most : wholeLimit ≤ count + other := large.trans (Nat.le_add_right _ _)
    cases otherCounts <;> exact .infinite most

theorem eq_finite (counts : Counts count number) (small : count < wholeLimit) :
    number = .finite false (count * unitsPerOne) := by
  cases counts with
  | finite agree =>
    cases agree with
    | exact => rfl
    | large large => exact absurd small large.not_gt
  | infinite large => exact absurd small large.not_gt

end Counts

/-! ## Seconds -/

theorem wholePart_mul_unitsPerOne (count : Nat) : wholePart (count * unitsPerOne) = count := by
  rw [wholePart, Nat.mul_div_cancel _ unitsPerOne_pos]

theorem fractionMillionths_of_whole {units : Nat} (whole : units % unitsPerOne = 0) :
    fractionMillionths units = 0 := by
  have none : nearest false (units % unitsPerOne * 1000000) 1 = .finite false 0 := by
    rw [whole, Nat.zero_mul, nearest_zero]
  rw [fractionMillionths, none, Binary64.units]

theorem millionths_of_whole {units : Nat} (whole : units % unitsPerOne = 0) :
    millionths units = wholePart units * 1000000 := by
  rw [millionths, fractionMillionths_of_whole whole, Nat.add_zero,
    roundHalfEven_mul _ unitsPerOne_pos]

theorem millionths_mul_unitsPerOne (count : Nat) :
    millionths (count * unitsPerOne) = count * 1000000 := by
  have whole : count * unitsPerOne % unitsPerOne = 0 := Nat.mul_mod_left count unitsPerOne
  rw [millionths_of_whole whole, wholePart_mul_unitsPerOne]

theorem wholePart_mul_le_millionths (units : Nat) :
    wholePart units * 1000000 ≤ millionths units := by
  refine le_trans ?_ (div_le_roundHalfEven _ _)
  exact (Nat.le_div_iff_mul_le unitsPerOne_pos).mpr (Nat.le_add_right _ _)

end Binary64

namespace Duration

open Binary64 (Counts signedUnits wholeLimit)

/-- No duration has as many microseconds as there are in the least large number of seconds. -/
theorem ofMicros?_of_large {micros : Nat} (large : wholeLimit * microsPerSecond ≤ micros)
    (negative : Bool) : ofMicros? (signedUnits negative micros) = none := by
  have most : 1000000000 * microsPerDay < wholeLimit * microsPerSecond := by decide
  have least : 999999999 * microsPerDay < wholeLimit * microsPerSecond := by decide
  rw [ofMicros?, dif_neg]
  rintro ⟨notBelow, notAbove⟩
  cases negative <;> simp only [signedUnits, if_true, if_false, Bool.false_eq_true] at * <;> omega

/-- A whole number of seconds is a duration if its microseconds are. -/
theorem ofSeconds?_of_counts {count : Nat} {number : Binary64} (counts : Counts count number)
    (negative : Bool) :
    ofSeconds? (if negative then number.neg else number) =
      ofMicros? (signedUnits negative (count * microsPerSecond)) := by
  cases counts with
  | @finite units agree =>
    have signed : (if negative then (Binary64.finite false units).neg
        else .finite false units) = .finite negative units := by
      cases negative <;> rfl
    rw [signed, ofSeconds?]
    cases agree with
    | exact =>
      rw [Binary64.millionths_mul_unitsPerOne]
      rfl
    | large large most =>
      have whole : wholeLimit ≤ Binary64.wholePart units :=
        (Nat.le_div_iff_mul_le Binary64.unitsPerOne_pos).mpr most
      rw [ofMicros?_of_large (Nat.mul_le_mul_right microsPerSecond large), ofMicros?_of_large]
      exact (Nat.mul_le_mul_right _ whole).trans (Binary64.wholePart_mul_le_millionths _)
  | infinite large =>
    rw [ofMicros?_of_large (Nat.mul_le_mul_right microsPerSecond large)]
    cases negative <;> rfl

/-- A whole number of seconds that is a duration is below the limit of whole numbers. -/
theorem lt_wholeLimit_of_ofMicros? {count : Nat} {negative : Bool} {duration : Duration}
    (made : ofMicros? (signedUnits negative (count * microsPerSecond)) = some duration) :
    count < wholeLimit := by
  by_contra large
  rw [ofMicros?_of_large (Nat.mul_le_mul_right microsPerSecond (not_lt.mp large))] at made
  cases made

end Duration

end LeaseRoster
