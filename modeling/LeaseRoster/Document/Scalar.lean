import LeaseRoster.Datum
import LeaseRoster.Document.Tag
import LeaseRoster.Number.Numeral

/-!
# Scalars of a document

A text that is not quoted may stand for something else than itself: nothing, a truth
value, a number, a date or a moment.  Which one it is shows in its spelling.  Numbers
may be written in several bases and with underscores, and in groups of sixty.
-/

namespace LeaseRoster

namespace Document

/-! ## Spellings -/

/-- A text without one line break at its end. -/
def dropFinalBreak (text : List Char) : List Char :=
  if text.getLast? == some '\n' then text.dropLast else text

def isDigitOrUnderscore (character : Char) : Bool :=
  Text.isAsciiDigit character || character == '_'

/-- Whether some digits can be a group of minutes or seconds. -/
def isSixtieth : List Char → Bool
  | [digit] => Text.isAsciiDigit digit
  | [tens, digit] => '0' ≤ tens && tens ≤ '5' && Text.isAsciiDigit digit
  | _ => false

/-- What stands behind the groups of sixty at the front of a text, of which there must
be one at least. -/
def afterSixtieths : Nat → Bool → List Char → Option (List Char)
  | fuel + 1, _, ':' :: rest =>
    let digits := rest.takeWhile Text.isAsciiDigit
    if isSixtieth digits then afterSixtieths fuel true (rest.drop digits.length)
    else none
  | _, found, text => if found then some text else none

/-- The groups of sixty at the front of a text left out. -/
def dropSixtieths? (text : List Char) : Option (List Char) :=
  afterSixtieths text.length false text

/-- Whether a text is nothing or an exponent with its sign. -/
def isExponent : List Char → Bool
  | [] => true
  | letter :: sign :: digits =>
    (letter == 'e' || letter == 'E') && (sign == '+' || sign == '-') &&
      !digits.isEmpty && digits.all Text.isAsciiDigit
  | _ => false

/-- Whether a text consists of some characters at least once. -/
def isRunOf (accepts : Char → Bool) (text : List Char) : Bool :=
  !text.isEmpty && text.all accepts

/-- Whether a text without its sign is the spelling of an integer. -/
def isUnsignedInteger : List Char → Bool
  | [] => false
  | ['0'] => true
  | '0' :: 'b' :: rest =>
    isRunOf (fun character => character == '0' || character == '1' || character == '_') rest
  | '0' :: 'x' :: rest =>
    isRunOf (fun character => (Text.hexValue? character).isSome || character == '_') rest
  | '0' :: rest =>
    isRunOf (fun character => ('0' ≤ character && character ≤ '7') || character == '_') rest
  | first :: rest =>
    Text.isAsciiDigit first &&
      let behind := rest.dropWhile isDigitOrUnderscore
      behind.isEmpty || dropSixtieths? behind == some []

def isInteger (text : List Char) : Bool := isUnsignedInteger (Text.splitSign text).2

/-- Whether what follows the whole digits of a number completes it. -/
def isNumberTail (text : List Char) : Bool :=
  match text with
  | '.' :: rest => isExponent (rest.dropWhile isDigitOrUnderscore)
  | _ =>
    match dropSixtieths? text with
    | some ('.' :: rest) => rest.all isDigitOrUnderscore
    | _ => false

/-- Whether a text is the spelling of a number with a point. -/
def isNumber (text : List Char) : Bool :=
  let unsigned := (Text.splitSign text).2
  let startsWithDigit := unsigned.head?.any Text.isAsciiDigit
  if startsWithDigit then isNumberTail (unsigned.dropWhile isDigitOrUnderscore)
  else if [".inf", ".Inf", ".INF"].contains (String.ofList unsigned) then true
  else
    match text with
    | '.' :: digit :: rest =>
      (Text.isAsciiDigit digit && isExponent (rest.dropWhile isDigitOrUnderscore)) ||
        [".nan", ".NaN", ".NAN"].contains (String.ofList text)
    | _ => false

def nullWords : List String := ["~", "null", "Null", "NULL"]

def flagWords : List String :=
  ["yes", "Yes", "YES", "no", "No", "NO", "true", "True", "TRUE", "false", "False",
   "FALSE", "on", "On", "ON", "off", "Off", "OFF"]

/-! ## Dates and moments -/

/-- The parts of the spelling of a date or moment, as texts of digits. -/
structure StampText where
  year : List Char
  month : List Char
  day : List Char
  clock : Option (List Char × List Char × List Char)
  fraction : List Char
  zone : Option (Bool × List Char × List Char)

/-- The digits at the front of a text, of which there are at least and at most so many,
and what follows them. -/
def digitsBetween (least greatest : Nat) (text : List Char) :
    Option (List Char × List Char) :=
  let digits := (text.take greatest).takeWhile Text.isAsciiDigit
  if least ≤ digits.length then some (digits, text.drop digits.length) else none

/-- What follows a character at the front of a text. -/
def behindChar (character : Char) : List Char → Option (List Char)
  | [] => none
  | first :: rest => if first == character then some rest else none

/-- The distance from universal time that is the rest of a spelling. -/
def zoneText? (text : List Char) : Option (Option (Bool × List Char × List Char)) :=
  match text.dropWhile fun character => character == ' ' || character == '\t' with
  | [] => if text.isEmpty then some none else none
  | ['Z'] => some (some (false, [], []))
  | sign :: rest =>
    if sign == '+' || sign == '-' then
      match digitsBetween 1 2 rest with
      | some (hours, []) => some (some (sign == '-', hours, []))
      | some (hours, ':' :: more) =>
        match digitsBetween 2 2 more with
        | some (minutes, []) => some (some (sign == '-', hours, minutes))
        | _ => none
      | _ => none
    else none

def clockStart? : List Char → Option (List Char)
  | [] => none
  | first :: rest =>
    if first == 'T' || first == 't' then some rest
    else if first == ' ' || first == '\t' then
      some (rest.dropWhile fun character => character == ' ' || character == '\t')
    else none

def stampText? (text : List Char) : Option StampText := do
  let (year, rest) ← digitsBetween 4 4 text
  let (month, rest) ← digitsBetween 1 2 (← behindChar '-' rest)
  let (day, rest) ← digitsBetween 1 2 (← behindChar '-' rest)
  if rest.isEmpty then return ⟨year, month, day, none, [], none⟩
  let (hour, rest) ← digitsBetween 1 2 (← clockStart? rest)
  let (minute, rest) ← digitsBetween 2 2 (← behindChar ':' rest)
  let (second, rest) ← digitsBetween 2 2 (← behindChar ':' rest)
  let (fraction, rest) :=
    match rest with
    | '.' :: more => (more.takeWhile Text.isAsciiDigit, more.dropWhile Text.isAsciiDigit)
    | _ => ([], rest)
  let zone ← zoneText? rest
  return ⟨year, month, day, some (hour, minute, second), fraction, zone⟩

/-- Whether a text is the spelling of a date or moment.  A date alone has two digits
for the month and the day. -/
def isStamp (text : List Char) : Bool :=
  match stampText? text with
  | some parts => parts.clock.isSome || (parts.month.length == 2 && parts.day.length == 2)
  | none => false

def spelledTag (text : List Char) : Tag :=
  let word := dropFinalBreak text
  let name := String.ofList word
  if text.isEmpty || nullWords.contains name then .null
  else if flagWords.contains name then .flag
  else if isNumber word then .number
  else if isInteger word then .integer
  else if name == "<<" then .merge
  else if name == "=" then .value
  else if isStamp word then .moment
  else if ["!", "&", "*"].contains name then .other (Tag.coreStart ++ "yaml")
  else .text

/-! ## Values -/

def unreadable {α : Type} : Except Fault α := .error (.value .unreadableNumber)

/-- The value of a digit in bases up to sixteen, of any script. -/
def digitValue? (base : Nat) (character : Char) : Option Nat :=
  let value := (Text.decimalValue? character).or (Text.hexValue? character)
  value.filter fun digit => digit < base

def dropBaseMark (marks : List Char) : List Char → List Char
  | '0' :: mark :: rest => if marks.contains mark then rest else '0' :: mark :: rest
  | text => text

/-- The integer that a text denotes in a base with some marks. -/
def readInBase (base : Nat) (marks : List Char) (text : List Char) : Except Fault Int :=
  let (negative, unsigned) := Text.splitSign (Numeral.trim text)
  let digits := dropBaseMark marks unsigned
  match digits.mapM (digitValue? base) with
  | some (first :: rest) =>
    .ok (Text.signed negative (Text.ofDigits base (first :: rest)))
  | _ => unreadable

def readDecimal (text : List Char) : Except Fault Int :=
  match Text.readInt text with
  | .ok value => .ok value
  | .error fault => .error (.value (.numeral fault))

/-- The sum of numbers of which each counts sixty times as much as the next one. -/
def sumOfSixtieths (numbers : List Int) : Int :=
  numbers.foldl (fun total number => total * 60 + number) 0

/-- The integer that a text denotes when its sign is left out. -/
def readUnsigned (text : List Char) : Except Fault Int :=
  match text with
  | [] => .error .missingItem
  | ['0'] => .ok 0
  | '0' :: 'b' :: rest => readInBase 2 ['b', 'B'] rest
  | '0' :: 'x' :: rest => readInBase 16 ['x', 'X'] rest
  | '0' :: _ => readInBase 8 ['o', 'O'] text
  | _ =>
    if text.contains ':' then
      sumOfSixtieths <$> (Text.pieces (· == ':') text).mapM readDecimal
    else readDecimal text

def dropUnderscores (text : List Char) : List Char := text.filter (· != '_')

def readInteger (text : List Char) : Except Fault Datum :=
  let digits := dropUnderscores text
  let (negative, unsigned) := Text.splitSign digits
  if digits.isEmpty then .error .missingItem
  else
    (readUnsigned unsigned).map fun value => .whole (if negative then -value else value)

/-- A text with the digits of every script as those of ASCII. -/
def withAsciiDigits (text : List Char) : List Char :=
  text.map fun character =>
    match Text.decimalValue? character with
    | some digit => Char.ofNat (0x30 + digit)
    | none => character

/-- The number that a text without underscores denotes in base ten. -/
def readPlainNumber (text : List Char) : Except Fault Binary64 :=
  match Numeral.readPlain? (withAsciiDigits (Numeral.trim text)) with
  | some number => .ok number
  | none => unreadable

/-- The product of a number and a factor, which must be finite. -/
def scaledBy (number : Binary64) : Binary64 → Except Fault Binary64
  | .finite _ units => .ok (number.times units)
  | _ => .error .beyondRange

/-- The product of a number and a factor, which must have a floating-point number near
it. -/
def scaled (number : Binary64) (factor : Nat) : Except Fault Binary64 :=
  scaledBy number (Binary64.ofInt factor)

/-- The sum of numbers, the last one first, of which each counts sixty times as much as
the one before. -/
def sumFrom (total : Binary64) (base : Nat) : List Binary64 → Except Fault Binary64
  | [] => .ok total
  | number :: rest => do
    let share ← scaled number base
    sumFrom (total.add share) (base * 60) rest

/-- The number that a text denotes when its sign is left out. -/
def readUnsignedNumber (text : List Char) : Except Fault Binary64 :=
  if text == ".inf".toList then .ok (.infinite false)
  else if text == ".nan".toList then .ok .notANumber
  else if text.contains ':' then do
    let numbers ← (Text.pieces (· == ':') text).mapM readPlainNumber
    sumFrom Binary64.zero 1 numbers.reverse
  else readPlainNumber text

def readNumber (text : List Char) : Except Fault Datum :=
  let digits := Numeral.lowerAscii (dropUnderscores text)
  let (negative, unsigned) := Text.splitSign digits
  if digits.isEmpty then .error .missingItem
  else
    (readUnsignedNumber unsigned).map fun value =>
      .real (if negative then value.neg else value)

def readFlag (text : List Char) : Except Fault Datum :=
  let word := String.ofList (Numeral.lowerAscii text)
  if ["yes", "true", "on"].contains word then .ok (.flag true)
  else if ["no", "false", "off"].contains word then .ok (.flag false)
  else .error .missingKey

/-- The microseconds that the digits of a fraction stand for. -/
def fractionMicros (digits : List Char) : Nat :=
  let kept := digits.take 6
  Numeral.digitsValue kept * Nat.pow 10 (6 - kept.length)

/-- The distance from universal time that the parts of a spelling give, in
microseconds; it is less than a day. -/
def zoneOffset : Option (Bool × List Char × List Char) → Except Fault (Option Int)
  | none => .ok none
  | some (negative, hours, minutes) =>
    let total := Numeral.digitsValue hours * 60 + Numeral.digitsValue minutes
    if total < 1440 then
      .ok (some (Text.signed negative (total * 60 * microsPerSecond)))
    else .error (.value .unreadableMoment)

/-- The date or moment that the parts of a spelling give. -/
def stampValue (parts : StampText) : Except Fault Datum :=
  let number := Numeral.digitsValue
  match Date.of? (number parts.year) (number parts.month) (number parts.day),
      parts.clock with
  | none, none => .error (.value .unreadableMoment)
  | some date, none => .ok (.date date)
  | found, some (hour, minute, second) => do
    let offset ← zoneOffset parts.zone
    let some date := found | throw (.value .unreadableMoment)
    if 23 < number hour || 59 < number minute || 59 < number second then
      throw (.value .unreadableMoment)
    let wall := Moment.microsOf date.number (number hour) (number minute) (number second)
      (fractionMicros parts.fraction)
    match Moment.of? wall offset with
    | some moment => return .moment moment
    | none => throw (.value .unreadableMoment)

def readStamp (text : List Char) : Except Fault Datum :=
  match stampText? (dropFinalBreak text) with
  | some parts => stampValue parts
  | none => .error .foreignValue

/-! ## Bytes -/

def base64Value? (character : Char) : Option Nat :=
  let code := character.toNat
  if 'A' ≤ character && character ≤ 'Z' then some (code - 0x41)
  else if 'a' ≤ character && character ≤ 'z' then some (code - 0x61 + 26)
  else if Text.isAsciiDigit character then some (code - 0x30 + 52)
  else if character == '+' then some 62
  else if character == '/' then some 63
  else none

/-- The bytes of a text in base 64, given how many digits of the present group of four
there are and the bits that they leave.  Other characters are passed over; padding that
completes a group ends the text. -/
def readBase64 : (place left pads : Nat) → List Char → Option (List UInt8)
  | place, _, _, [] => if place == 0 then some [] else none
  | place, left, pads, character :: rest =>
    if character == '=' then
      if 2 ≤ place && 4 ≤ place + pads + 1 then some []
      else readBase64 place left (if 2 ≤ place then pads + 1 else pads) rest
    else
      match base64Value? character with
      | none => readBase64 place left pads rest
      | some digit =>
        if place == 0 then readBase64 1 digit 0 rest
        else if place == 1 then
          (readBase64 2 (digit % 16) 0 rest).map (UInt8.ofNat (left * 4 + digit / 16) :: ·)
        else if place == 2 then
          (readBase64 3 (digit % 4) 0 rest).map (UInt8.ofNat (left * 16 + digit / 4) :: ·)
        else (readBase64 0 0 0 rest).map (UInt8.ofNat (left * 64 + digit) :: ·)

def readBytes (text : List Char) : Except Fault Datum :=
  if text.all fun character => character.toNat < 0x80 then
    match readBase64 0 0 0 text with
    | some bytes => .ok (.bytes bytes)
    | none => .error (.document .malformedBytes)
  else .error (.document .malformedBytes)

def scalarValue (tag : Tag) (text : List Char) : Except Fault Datum :=
  match tag with
  | .null => .ok .null
  | .flag => readFlag text
  | .integer => readInteger text
  | .number => readNumber text
  | .bytes => readBytes text
  | .moment => readStamp text
  | _ => .ok (.text (String.ofList text))

end Document

end LeaseRoster
