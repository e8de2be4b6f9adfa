import LeaseRoster.Network.Address
import LeaseRoster.Text.Whole

/-!
# Netmasks

A netmask tells how many leading bits the addresses of a network share.  It is
written as that number, or as an address whose leading bits are ones and whose
other bits are zeros.
-/

namespace LeaseRoster

namespace Netmask

/-- The number of ones among the last `width` bits of a number. -/
def onesIn : Nat → Nat → Nat
  | 0, _ => 0
  | width + 1, value => value % 2 + onesIn width (value / 2)

/-- The number of `width` bits that starts with `length` ones and goes on with
zeros. -/
def mask (width length : Nat) : Nat :=
  (Nat.pow 2 length - 1) * Nat.pow 2 (width - length)

/-- The number of leading ones of an address that is a mask of `width` bits. -/
def ofAddress? (width : Nat) (address : IpAddress) : Option Nat :=
  if address.width == width then
    let ones := onesIn width address.bits
    if ones != 0 && address.bits == mask width ones then some ones else none
  else none

/-- The number of leading bits that a text names for addresses of `width` bits.
A text of digits may fail to be a numeral at all. -/
def read (text : List Char) (width : Nat) :
    Except Text.NumeralFault (Option Nat) := do
  let stripped := Text.strip text
  if !stripped.isEmpty && stripped.all Text.isDigitLike then
    let length ← Text.readInt stripped
    return if 0 < length ∧ length ≤ width then some length.toNat else none
  else return (IpAddress.readStripped? stripped).bind (ofAddress? width)

end Netmask

end LeaseRoster
