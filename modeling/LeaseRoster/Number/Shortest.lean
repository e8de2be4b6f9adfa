import LeaseRoster.Number.Binary64

/-!
# Decimal text of floating-point numbers

The default text of a number has the fewest significant digits that read back
as the same number and, among those, the ones nearest to it.  Small and large
magnitudes are written with an exponent.  A further form has one place after the
point.
-/

namespace LeaseRoster

namespace Binary64

/-- The number of digits before the point of `numerator / denominator`, given that
it is at least one, or else minus the number of zeros after the point. -/
def decimalPoint (numerator denominator : Nat) : Int :=
  if denominator ≤ numerator then (Text.decimal (numerator / denominator)).length
  else
    -- The quotient turned over has `count` digits, so the value is at least
    -- `10 ^ -count`; one digit more is needed unless it is that power itself.
    let count := (Text.decimal (denominator / numerator)).length
    if numerator * Nat.pow 10 (count - 1) == denominator then 2 - (count : Int)
    else 1 - (count : Int)

/-- The quotient `numerator / denominator` shifted by a power of ten. -/
def shifted (numerator denominator : Nat) (places : Int) : Nat × Nat :=
  if 0 ≤ places then (numerator * Nat.pow 10 places.toNat, denominator)
  else (numerator, denominator * Nat.pow 10 (-places).toNat)

/-- A decimal number `coefficient * 10 ^ exponent`. -/
structure Decimal where
  coefficient : Nat
  exponent : Int
deriving DecidableEq, Repr

/-- The two neighbours of a positive count of units on the decimal grid with the
given number of significant digits, the nearer one first. -/
def neighbours (units digits : Nat) : List Decimal :=
  let places := (digits : Int) - decimalPoint units unitsPerOne
  let (numerator, denominator) := shifted units unitsPerOne places
  let below : Decimal := ⟨numerator / denominator, -places⟩
  let above : Decimal := ⟨numerator / denominator + 1, -places⟩
  let rest := 2 * (numerator % denominator)
  if rest < denominator ||
      (rest == denominator && numerator / denominator % 2 == 0) then
    [below, above]
  else [above, below]

def readsBack (units : Nat) (candidate : Decimal) : Bool :=
  ofDecimal false candidate.coefficient candidate.exponent == .finite false units

/-- The first decimal number with at least `digits` significant digits that reads
back, among `tries` numbers of digits. -/
def shortestFrom (units : Nat) : Nat → Nat → Decimal
  | digits, 0 => ((neighbours units digits).head?).getD ⟨0, 0⟩
  | digits, tries + 1 =>
    match (neighbours units digits).find? (readsBack units) with
    | some candidate => candidate
    | none => shortestFrom units (digits + 1) tries

/-- The decimal number with the fewest digits that reads back as a positive count
of units. -/
def shortest (units : Nat) : Decimal := shortestFrom units 1 17

/-- A decimal number as its significant digits without zeros at the end, and the
place of the point counted from their front. -/
def Decimal.significant (number : Decimal) : List Char × Int :=
  let digits := Text.decimal number.coefficient
  let kept := (digits.reverse.dropWhile (· == '0')).reverse
  (kept, number.exponent + digits.length)

/-- Digits with the point after `point` of them and at least one digit on
either side of it. -/
def positional (digits : List Char) (point : Int) : List Char :=
  if point ≤ 0 then
    '0' :: '.' :: List.replicate (-point).toNat '0' ++ digits
  else
    let whole := digits.take point.toNat
    let fraction := digits.drop point.toNat
    whole ++ List.replicate (point.toNat - whole.length) '0' ++
      '.' :: (if fraction.isEmpty then ['0'] else fraction)

/-- The exponent of a power of ten, with a sign and at least two digits. -/
def exponentText (exponent : Int) : List Char :=
  (if exponent < 0 then '-' else '+') ::
    Text.decimalPadded 2 exponent.natAbs

/-- Digits with the point after the first one, and an exponent.  Where `keepPoint`
is set a single digit is followed by a point and a zero. -/
def scientific (keepPoint : Bool) (digits : List Char) (point : Int) :
    List Char :=
  let mantissa :=
    match digits with
    | [] => ['0']
    | [digit] => if keepPoint then [digit, '.', '0'] else [digit]
    | digit :: rest => digit :: '.' :: rest
  mantissa ++ 'e' :: exponentText (point - 1)

/-- A text after a minus sign, if asked for. -/
def withSign (negative : Bool) (text : List Char) : List Char :=
  if negative then '-' :: text else text

/-- The default text of a number: positional from `0.0001` up to `10 ^ 16`, and
with an exponent outside these bounds. -/
def text : Binary64 → List Char
  | .notANumber => ['n', 'a', 'n']
  | .infinite negative => withSign negative ['i', 'n', 'f']
  | .finite negative units =>
    withSign negative <|
      if units == 0 then ['0', '.', '0']
      else
        let (digits, point) := (shortest units).significant
        if -4 < point && point ≤ 16 then positional digits point
        else scientific false digits point

def textOnePlace : Binary64 → List Char
  | .notANumber => ['n', 'a', 'n']
  | .infinite negative => withSign negative ['i', 'n', 'f']
  | .finite negative units =>
    let tenths := roundHalfEven (units * 10) unitsPerOne
    withSign negative (Text.decimal (tenths / 10) ++ '.' :: Text.decimal (tenths % 10))

end Binary64

end LeaseRoster
