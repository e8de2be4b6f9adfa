import LeaseRoster.Text.Blank
import LeaseRoster.Text.Hex

/-!
# Hardware addresses

A hardware address is twelve hexadecimal digits.  It is read in any of the usual
spellings and has one written form, six pairs of lower-case digits with colons
between them; tables are keyed by the address itself, so the spelling never
matters.
-/

namespace LeaseRoster

/-- A hardware address of six bytes. -/
structure MacAddress where
  digits : List (Fin 16)
  length_eq : digits.length = 12
deriving DecidableEq

namespace MacAddress

/-- The hexadecimal digit of either case that a character is. -/
def digit? (character : Char) : Option (Fin 16) :=
  match read : Text.hexValue? character with
  | some value => some ⟨value, Text.hexValue?_lt_sixteen read⟩
  | none => none

/-- Whether a character may separate the digits of an address. -/
def isSeparator (character : Char) : Bool :=
  character == '-' || character == ':' || character == '.'

/-- A text without one line feed at its end. -/
def dropLineFeed (text : List Char) : List Char :=
  if text.getLast? == some '\n' then text.dropLast else text

/-- The characters of a spelling that count: those left without the blanks
around it, the separators, and a line feed uncovered at the end. -/
def significant (text : List Char) : List Char :=
  dropLineFeed ((Text.strip text).filter fun character => !isSeparator character)

/-- The address with the given digits, if there are twelve of them. -/
def ofDigits? (digits : List (Fin 16)) : Option MacAddress :=
  if length_eq : digits.length = 12 then some ⟨digits, length_eq⟩ else none

def read? (text : List Char) : Option MacAddress :=
  ((significant text).mapM digit?).bind ofDigits?

def pairsText : List (Fin 16) → List Char
  | [] => []
  | [digit] => [Text.hexDigit digit]
  | [high, low] => [Text.hexDigit high, Text.hexDigit low]
  | high :: low :: rest =>
    Text.hexDigit high :: Text.hexDigit low :: ':' :: pairsText rest

def text (mac : MacAddress) : List Char := pairsText mac.digits

def toString (mac : MacAddress) : String := String.ofList mac.text

def value (mac : MacAddress) : Nat :=
  Text.ofDigits 16 (mac.digits.map Fin.val)

/-- Whether two texts spell the same address. -/
def sameSpelled (left right : List Char) : Bool :=
  match read? left, read? right with
  | some leftMac, some rightMac => leftMac == rightMac
  | _, _ => false

theorem ofDigits?_digits (mac : MacAddress) : ofDigits? mac.digits = some mac := by
  simp [ofDigits?, mac.length_eq]

end MacAddress

end LeaseRoster
