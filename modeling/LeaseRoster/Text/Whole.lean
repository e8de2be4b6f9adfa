import LeaseRoster.Text.Blank
import LeaseRoster.Text.Digit
import LeaseRoster.Text.Hex
import LeaseRoster.Text.Quoted

/-!
# Integers written as text

An integer is written with an optional sign and decimal digits of any script,
with at most one underscore between two digits and blanks around it.  Numerals
of more than 4300 digits are neither read nor written.
-/

namespace LeaseRoster

namespace Text

/-- Why a text is not read as an integer, or an integer not written as a text. -/
inductive NumeralFault
  | malformed (shown : String)
  | tooLong (digits : Nat)
  | tooLarge
deriving DecidableEq, Repr

def NumeralFault.message : NumeralFault → String
  | .malformed shown => "invalid literal for int() with base 10: " ++ shown
  | .tooLong digits =>
    "Exceeds the limit (4300 digits) for integer string conversion: value has " ++
      toString digits ++
      " digits; use sys.set_int_max_str_digits() to increase the limit"
  | .tooLarge =>
    "Exceeds the limit (4300 digits) for integer string conversion; " ++
      "use sys.set_int_max_str_digits() to increase the limit"

def numeralLimit : Nat := 4300

/-- Whether an integer is not too large to be written as a numeral. -/
def hasNumeral (value : Int) : Bool := value.natAbs < Nat.pow 10 numeralLimit

/-- The greatest number of characters that a message shows of what is no numeral. -/
def shownLimit : Nat := 200

/-- Whether a character may stand around a numeral.  The ASCII separators are
blanks elsewhere, but not here. -/
def isNumeralBlank (character : Char) : Bool :=
  let code := character.toNat
  (0x09 ≤ code && code ≤ 0x0d) || code == 0x20 ||
    (0x7f ≤ code && isBlank character)

def startsWithDigit : List Char → Bool
  | [] => false
  | character :: _ => isDecimal character

/-- The digits at the front of a text, single underscores between them passed
over, and what follows.  `none` when an underscore does not stand between two
digits. -/
def digitRun (afterDigit : Bool) :
    List Char → Option (List Nat × List Char)
  | [] => some ([], [])
  | character :: rest =>
    match decimalValue? character with
    | some digit =>
      (digitRun true rest).map fun (digits, remaining) =>
        (digit :: digits, remaining)
    | none =>
      if character == '_' then
        if afterDigit && startsWithDigit rest then digitRun false rest
        else none
      else some ([], character :: rest)

/-- A leading sign, as whether it is a minus sign, and what follows it. -/
def splitSign : List Char → Bool × List Char
  | '-' :: rest => (true, rest)
  | '+' :: rest => (false, rest)
  | text => (false, text)

def signed (negative : Bool) (magnitude : Nat) : Int :=
  if negative then -(magnitude : Int) else magnitude

def readInt (text : List Char) : Except NumeralFault Int :=
  let fault := NumeralFault.malformed (String.ofList ((quoted text).take shownLimit))
  let (negative, unsigned) := splitSign (text.dropWhile isNumeralBlank)
  match digitRun false unsigned with
  | none => .error fault
  | some (digits, remaining) =>
    if digits.isEmpty then .error fault
    else if numeralLimit < digits.length then .error (.tooLong digits.length)
    else if remaining.all isNumeralBlank then
      .ok (signed negative (ofDigits 10 digits))
    else .error fault

end Text

end LeaseRoster
