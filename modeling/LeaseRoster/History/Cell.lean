import LeaseRoster.Datum
import LeaseRoster.Fault
import LeaseRoster.Number.Extended
import LeaseRoster.Number.Numeral
import LeaseRoster.Number.Word

/-!
# Cells of the history table

A column of texts keeps numbers as their text, and a column of integers keeps a text
that is a number as that number.  Both conversions pass through numbers with a wide
significand; they are close to the exact result but not always the nearest one.

Other programs may leave bytes in the table that are no text but stand as one.  No such
cell can be fetched.
-/

namespace LeaseRoster

/-- Bytes in the table: a value of their own, or a text that is not UTF-8. -/
inductive RawBytes
  | blob (values : List UInt8)
  | garbled (values : List UInt8) (unread : Text.decodeStrict values = none)
deriving DecidableEq

def RawBytes.values : RawBytes → List UInt8
  | .blob values => values
  | .garbled values _ => values

/-- A value in the table. -/
inductive Cell
  | null
  | integer (value : Int)
  | real (value : Binary64)
  | text (value : String)
  | bytes (value : RawBytes)
deriving DecidableEq

namespace Cell

/-- A value as documents have it, the bytes of a garbled text as bytes. -/
def toDatum : Cell → Datum
  | .null => .null
  | .integer value => .whole value
  | .real value => .real value
  | .text value => .text value
  | .bytes value => .bytes value.values

def garbled? : Cell → Option (List UInt8)
  | .bytes (.garbled values _) => some values
  | _ => none

/-- The cell of a text, which must have a UTF-8 form.  Within the limit of `Text.isEncodable` a text
with a private character that is taken for a half is refused too. -/
def ofText (value : String) : Except Fault Cell :=
  if Text.isEncodable value.toList then .ok (.text value) else .error .unencodable

/-- The cell that a value makes before the column has its say.  Integers must fit a
word of 64 bits. -/
def ofDatum : Datum → Except Fault Cell
  | .null => .ok .null
  | .flag value => .ok (.integer (if value then 1 else 0))
  | .whole value => if fitsWord value then .ok (.integer value) else .error .beyondRange
  | .real .notANumber => .ok .null
  | .real value => .ok (.real value)
  | .text value => ofText value
  | .bytes value => .ok (.bytes (.blob value))
  | _ => .error .misuse

/-! ## Numbers as texts -/

/-- The number of significant digits of a text. -/
def textPlaces : Nat := 15

/-- A half of the last place of a number between one and ten, as a product of two
rounded factors. -/
def halfPlace : Extended :=
  .ofBinary64 <|
    Binary64.ofProduct false (Binary64.ofDecimal false 5 (-5)).units
      (Binary64.ofDecimal false 1 (-10)).units

/-- The greatest product of a scale and powers of `10 ^ places` that is not above a
number, and the exponent reached. -/
def climb (number : Extended) (places : Nat) :
    Nat → Extended × Int → Extended × Int
  | 0, reached => reached
  | fuel + 1, (scale, exponent) =>
    let next := scale.mul (Extended.roundedTen places)
    if next.le number then climb number places fuel (next, exponent + places)
    else (scale, exponent)

/-- A number multiplied by `10 ^ places` as long as it is below `10 ^ -least`, and the
exponent reached. -/
def descend (least : Int) (places : Nat) : Nat → Extended × Int → Extended × Int
  | 0, reached => reached
  | fuel + 1, (number, exponent) =>
    if (Extended.roundedTen (-least)).le number then (number, exponent)
    else
      descend least places fuel
        (number.mul (Extended.roundedTen places), exponent - places)

/-- The magnitude of a number that is not zero as a number between one and ten and the
exponent of the power of ten that it is multiplied by. -/
def normalized (value : Binary64) : Extended × Int :=
  let number := Extended.ofBinary64 value
  let (scale, exponent) :=
    climb number 1 10 (climb number 10 40 (climb number 100 4 (Extended.ofNat 1, 0)))
  descend 0 1 10 (descend 8 8 50 (number.div scale, exponent))

/-- A number between one and ten with a half of its last place added, and the exponent
if it passes ten. -/
def rounded : Extended × Int → Extended × Int
  | (number, exponent) =>
    let raised := number.add halfPlace
    if (Extended.ofNat 10).le raised then
      (raised.mul (Extended.roundedTen (-1)), exponent + 1)
    else (raised, exponent)

/-- The first digits of a number below ten. -/
def digitsFrom : Nat → Extended → List Char
  | 0, _ => []
  | count + 1, number =>
    Char.ofNat (0x30 + number.floor) ::
      digitsFrom count (number.fraction.mul (Extended.ofNat 10))

/-- The text of a number: fifteen significant digits without zeros at the end, and
always a point. -/
def realText : Binary64 → List Char
  | .notANumber => []
  | .infinite negative => Binary64.withSign negative ['I', 'n', 'f']
  | .finite negative units =>
    if units == 0 then ['0', '.', '0']
    else
      let (number, exponent) := rounded (normalized (.finite negative units))
      let digits :=
        ((digitsFrom textPlaces number).reverse.dropWhile (· == '0')).reverse
      Binary64.withSign negative <|
        if -5 < exponent && exponent < textPlaces then
          Binary64.positional digits (exponent + 1)
        else Binary64.scientific true digits (exponent + 1)

def inTextColumn : Cell → Cell
  | .integer value => .text (String.ofList (Text.decimalInt value))
  | .real value => .text (String.ofList (realText value))
  | other => other

/-! ## Texts as numbers -/

/-- Whether a character is a blank around a number in the table. -/
def isBlank (character : Char) : Bool :=
  character == ' ' || (0x09 ≤ character.toNat && character.toNat ≤ 0x0d)

/-- The significand from which on no further digit is taken in. -/
def significandLimit : Nat := 922337203685477579

/-- A significand and a power of ten, with one more digit before the point or behind
it. -/
def takeDigit (isFraction : Bool) : Nat × Int → Char → Nat × Int
  | (significand, exponent), digit =>
    if significand < significandLimit then
      (significand * 10 + (digit.toNat - 0x30),
        if isFraction then exponent - 1 else exponent)
    else (significand, if isFraction then exponent else exponent + 1)

/-- A positive significand multiplied by ten as often as its exponent says, while it
stays a word. -/
def growTens (significand : Nat) : Nat → Nat × Nat
  | 0 => (significand, 0)
  | exponent + 1 =>
    if significandLimit < significand then (significand, exponent + 1)
    else growTens (significand * 10) exponent

/-- A significand divided by ten as often as its exponent says, while it is a multiple
of ten. -/
def shrinkTens (significand : Nat) : Nat → Nat × Nat
  | 0 => (significand, 0)
  | exponent + 1 =>
    if significand % 10 == 0 then shrinkTens (significand / 10) exponent
    else (significand, exponent + 1)

/-- The greatest exponent of a power of ten that is used in one step. -/
def stepExponent : Nat := 308

/-- The magnitude of that power of ten. -/
def stepUnits : Nat := (Binary64.ofDecimal false 1 stepExponent).units

/-- The exponent from which on nothing but zero and infinity is left. -/
def exponentLimit : Nat := 342

/-- The number `significand * 10 ^ exponent`, in two steps for large exponents. -/
def scaledUp (negative : Bool) (significand exponent : Nat) : Binary64 :=
  let product (places : Nat) : Binary64 :=
    ((Extended.ofNat significand).mul (.powerOfTen places)).toBinary64 negative
  if exponent < stepExponent then product exponent
  else if exponent < exponentLimit then
    .ofProduct negative (product (exponent - stepExponent)).units stepUnits
  else .infinite negative

/-- The number `significand / 10 ^ exponent`, in two steps for large exponents. -/
def scaledDown (negative : Bool) (significand exponent : Nat) : Binary64 :=
  let quotient (places : Nat) : Binary64 :=
    ((Extended.ofNat significand).div (.powerOfTen places)).toBinary64 negative
  if exponent < stepExponent then quotient exponent
  else if exponent < exponentLimit then
    .ofQuotient negative (quotient (exponent - stepExponent)).units stepUnits
  else .finite negative 0

/-- The exponent that is used for a written one: of more than five digits only the sign
counts. -/
def usedExponent (exponent : Int) : Int :=
  if exponent.natAbs < 100000 then exponent else exponent.sign * 10000

/-- The number for `significand * 10 ^ exponent`. -/
def realOf (negative : Bool) (significand : Nat) (exponent : Int) : Binary64 :=
  if significand == 0 then .finite negative 0
  else if 0 ≤ exponent then
    let (grown, places) := growTens significand exponent.toNat
    scaledUp negative grown places
  else
    let (shrunk, places) := shrinkTens significand (-exponent).toNat
    scaledDown negative shrunk places

/-- The number that a text is, blanks around it passed over. -/
def numberOf? (text : List Char) : Option Cell :=
  let trimmed := ((text.dropWhile isBlank).reverse.dropWhile isBlank).reverse
  let (negative, unsigned) := Text.splitSign trimmed
  let (whole, fraction, rest) := Numeral.splitNumber unsigned
  if whole.isEmpty && fraction.isEmpty then none
  else
    (Numeral.readExponent? rest).map fun exponent =>
      let digits := Text.signed negative (Numeral.digitsValue whole)
      if unsigned == whole && fitsWord digits then .integer digits
      else
        let (significand, places) :=
          fraction.foldl (takeDigit true) (whole.foldl (takeDigit false) (0, 0))
        .real (realOf negative significand (places + usedExponent exponent))

/-- A number as an integer if it is one that fits a word and is not the least one. -/
def preferInteger : Cell → Cell
  | .real value =>
    match value.toInt? with
    | some whole =>
      if -wordLimit < whole && whole < wordLimit then .integer whole else .real value
    | none => .real value
  | other => other

def inIntegerColumn : Cell → Cell
  | .text value =>
    match numberOf? value.toList with
    | some number => preferInteger number
    | none => .text value
  | other => preferInteger other

end Cell

end LeaseRoster
