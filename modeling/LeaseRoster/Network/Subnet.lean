import LeaseRoster.Network.Netmask

/-!
# Networks

A network is written as one of its addresses, a slash and the number of leading bits that its
addresses share.  The other bits of the address in front of the slash are passed over, and so
is its scope.
-/

namespace LeaseRoster

/-- A network: its first address, and how many leading bits all its addresses share. -/
structure Subnet where
  address : IpAddress
  length : Nat
deriving DecidableEq

namespace Subnet

/-- The first address of the network of the first `length` bits of an address. -/
def firstAddress (length : Nat) : IpAddress → IpAddress
  | .v4 bits =>
    .v4 ⟨bits.val &&& Netmask.mask 32 length, Nat.lt_of_le_of_lt Nat.and_le_left bits.isLt⟩
  | .v6 bits _ =>
    .v6 ⟨bits.val &&& Netmask.mask 128 length,
      Nat.lt_of_le_of_lt Nat.and_le_left bits.isLt⟩ none

/-- The number of leading bits that plain digits name, if addresses have so many. -/
def readLength? (width : Nat) (text : List Char) : Option Nat :=
  if text.isEmpty || !text.all Text.isAsciiDigit || Text.numeralLimit < text.length then none
  else
    let length :=
      Text.ofDigits 10 (text.map fun character => character.toNat - 0x30)
    if length ≤ width then some length else none

def read? (text : List Char) : Option Subnet :=
  match Text.pieces (· == '/') text with
  | [before, behind] => do
    let address ← IpAddress.read? before
    let length ← readLength? address.width behind
    some ⟨firstAddress length address, length⟩
  | _ => none

def written (address : IpAddress) (length : Nat) : List Char :=
  address.text ++ '/' :: Text.decimal length

def contains (subnet : Subnet) (address : IpAddress) : Bool :=
  address.version == subnet.address.version &&
    (address.bits &&& Netmask.mask address.width subnet.length) == subnet.address.bits

end Subnet

end LeaseRoster
