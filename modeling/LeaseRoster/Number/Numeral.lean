import LeaseRoster.Number.Binary64
import LeaseRoster.Text.Whole

/-!
# Numbers written as text in a field

Fields that hold a number also take its text: ASCII digits with an optional sign,
blanks around it, and single underscores between digits.  An integer may have zeros
at its front and a fraction of zeros; other numbers may have a fraction and an
exponent, or be one of the words for infinity and for no number.
-/

namespace LeaseRoster

namespace Numeral

def trim (text : List Char) : List Char :=
  ((text.dropWhile Text.isNumeralBlank).reverse.dropWhile
    Text.isNumeralBlank).reverse

/-- Whether underscores stand only between two characters that are none. -/
def underscoresApart : List Char → Bool
  | [] => true
  | ['_'] => false
  | '_' :: '_' :: _ => false
  | _ :: rest => underscoresApart rest

def digitsValue (digits : List Char) : Nat :=
  Text.ofDigits 10 (digits.map fun character => character.toNat - 0x30)

/-- What follows the zeros at the front of a text, after a first character has been
passed: zeros and underscores are passed over together, but the last one is kept before
a point and at the end of the text. -/
def afterZeros? (passed : Char) : List Char → Option (List Char)
  | [] => some [passed]
  | character :: rest =>
    if character == '0' || character == '_' then afterZeros? character rest
    else if character == '.' then some (passed :: '.' :: rest)
    else if character == '-' || Text.isAsciiDigit character then
      some (character :: rest)
    else none

/-- A text without the zeros at its front.  It must start with a digit or a minus
sign. -/
def dropZeros? : List Char → Option (List Char)
  | [] => none
  | '0' :: rest => afterZeros? '0' rest
  | character :: rest =>
    if character == '-' || Text.isAsciiDigit character then some (character :: rest)
    else none

/-- A text without a plus sign at its front, which must not stand before a minus
sign. -/
def dropPlus? : List Char → Option (List Char)
  | '+' :: '-' :: _ => none
  | '+' :: rest => some rest
  | text => some text

/-- A text without a point that only zeros follow. -/
def dropZeroFraction (text : List Char) : List Char :=
  if (text.dropWhile (· != '.')).tail.all (· == '0') then text.takeWhile (· != '.')
  else text

/-- A text without its underscores, if each stands alone and inside it. -/
def dropUnderscores (text : List Char) : List Char :=
  if text.head? != some '_' && underscoresApart text then text.filter (· != '_') else text

/-- Why the text of an integer is refused. -/
inductive IntegerFault
  | malformed
  | tooLong

/-- Whether digits are a single zero or start with another digit. -/
def isCanonical : List Char → Bool
  | [] => false
  | ['0'] => true
  | first :: _ => first != '0'

/-- A minus sign at the front, as whether there is one, and what follows it. -/
def splitMinus : List Char → Bool × List Char
  | '-' :: rest => (true, rest)
  | text => (false, text)

/-- The integer that a text of digits behind an optional minus sign denotes.  Sign and
digits together must not exceed the limit, even if something follows them. -/
def readBare (text : List Char) : Except IntegerFault Int :=
  let (negative, unsigned) := splitMinus text
  let digits := unsigned.takeWhile Text.isAsciiDigit
  let rest := unsigned.dropWhile Text.isAsciiDigit
  if !isCanonical digits then .error .malformed
  else if Text.numeralLimit + rest.length < text.length then .error .tooLong
  else if !rest.isEmpty then .error .malformed
  else .ok (Text.signed negative (digitsValue digits))

/-- The integer that a text denotes: zeros at the front, also before a minus sign,
underscores and a fraction of zeros are passed over. -/
def readInteger (text : List Char) : Except IntegerFault Int :=
  match (dropPlus? (trim text)).bind dropZeros? with
  | some digits => readBare (dropUnderscores (dropZeroFraction digits))
  | none => .error .malformed

/-- A text with the ASCII capitals made small. -/
def lowerAscii (text : List Char) : List Char := text.map Char.toLower

/-- The exponent at the end of a number: none, or a letter, an optional sign and
digits. -/
def readExponent? : List Char → Option Int
  | [] => some 0
  | letter :: text =>
    if letter == 'e' || letter == 'E' then
      let (negative, digits) := Text.splitSign text
      if digits.isEmpty || !digits.all Text.isAsciiDigit then none
      else some (Text.signed negative (digitsValue digits))
    else none

/-- Whole digits, digits of a fraction, and what follows them. -/
def splitNumber (text : List Char) : List Char × List Char × List Char :=
  let whole := text.takeWhile Text.isAsciiDigit
  match text.dropWhile Text.isAsciiDigit with
  | '.' :: rest =>
    (whole, rest.takeWhile Text.isAsciiDigit, rest.dropWhile Text.isAsciiDigit)
  | rest => (whole, [], rest)

/-- The number that a text without blanks and underscores denotes. -/
def readPlain? (text : List Char) : Option Binary64 :=
  let (negative, unsigned) := Text.splitSign text
  let word := String.ofList (lowerAscii unsigned)
  if word == "inf" || word == "infinity" then some (.infinite negative)
  else if word == "nan" then some .notANumber
  else
    let (whole, fraction, rest) := splitNumber unsigned
    if whole.isEmpty && fraction.isEmpty then none
    else
      (readExponent? rest).map fun exponent =>
        Binary64.ofDecimal negative (digitsValue (whole ++ fraction))
          (exponent - fraction.length)

def readNumber? (text : List Char) : Option Binary64 :=
  match readPlain? (trim text) with
  | some number => some number
  | none =>
    if text.contains '_' && text.head? != some '_' && underscoresApart text then
      readPlain? (text.filter (· != '_'))
    else none

end Numeral

end LeaseRoster
