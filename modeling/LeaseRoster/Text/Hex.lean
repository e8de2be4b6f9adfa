import LeaseRoster.Text.Digit

/-!
# Digits and fixed widths

Numbers are written in base ten and sixteen with lower-case letters, padded with
zeros on the left where a format fixes the width.
-/

namespace LeaseRoster

namespace Text

def hexDigit (value : Nat) : Char :=
  if value < 10 then Char.ofNat (0x30 + value) else Char.ofNat (0x57 + value)

/-- The value of an ASCII hexadecimal digit of either case. -/
def hexValue? (character : Char) : Option Nat :=
  let code := character.toNat
  if 0x30 ≤ code && code ≤ 0x39 then some (code - 0x30)
  else if 0x61 ≤ code && code ≤ 0x66 then some (code - 0x57)
  else if 0x41 ≤ code && code ≤ 0x46 then some (code - 0x37)
  else none

/-- The last `width` hexadecimal digits of a number. -/
def hexPadded : Nat → Nat → List Char
  | 0, _ => []
  | width + 1, value =>
    hexPadded width (value / 16) ++ [hexDigit (value % 16)]

def decimal (value : Nat) : List Char := Nat.toDigits 10 value

/-- The decimal digits of an integer, after a minus sign if it is negative. -/
def decimalInt : Int → List Char
  | .ofNat value => decimal value
  | .negSucc value => '-' :: decimal (value + 1)

/-- The decimal digits of a number, with zeros in front up to a width. -/
def decimalPadded (width value : Nat) : List Char :=
  let digits := decimal value
  List.replicate (width - digits.length) '0' ++ digits

/-- The number that a list of digit values denotes in a base. -/
def ofDigits (base : Nat) (digits : List Nat) : Nat :=
  digits.foldl (fun value digit => value * base + digit) 0

/-- The number that a text of hexadecimal digits denotes. -/
def hexNumber? (text : List Char) : Option Nat :=
  (text.mapM hexValue?).map (ofDigits 16)

theorem hexValue?_lt_sixteen {character : Char} {value : Nat}
    (read : hexValue? character = some value) : value < 16 := by
  unfold hexValue? at read
  simp only [Bool.and_eq_true, decide_eq_true_eq] at read
  split at read
  · cases read; omega
  split at read
  · cases read; omega
  split at read
  · cases read; omega
  · cases read

end Text

end LeaseRoster
