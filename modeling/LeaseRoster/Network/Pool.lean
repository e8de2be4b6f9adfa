import LeaseRoster.Network.Address

/-!
# Address ranges and pools

A range runs from a first to a last address, both included; it is valid when
both are known and of one version.  A pool is a list of ranges.  The size of a
pool counts an address once for every range that holds it, and is given only if
it fits a signed word of 64 bits.
-/

namespace LeaseRoster

/-- The addresses from a first to a last one. -/
structure AddressRange where
  first : Option IpAddress
  last : Option IpAddress
deriving DecidableEq

def sizeLimit : Nat := 9223372036854775807

/-- A count of addresses, unless it exceeds the limit. -/
def withinLimit (count : Nat) : Option Nat :=
  if sizeLimit < count then none else some count

namespace AddressRange

/-- The range between the addresses that two texts denote. -/
def ofTexts (first last : List Char) : AddressRange :=
  ⟨IpAddress.readStripped? first, IpAddress.readStripped? last⟩

/-- Whether both ends are known and of one version. -/
def isValid (range : AddressRange) : Bool :=
  match range.first, range.last with
  | some first, some last => first.version == last.version
  | _, _ => false

def containsOctets (range : AddressRange) (octets : Octets) : Bool :=
  match range.first, range.last with
  | some first, some last =>
    first.version == last.version && Octets.le first.octets octets &&
      Octets.le octets last.octets
  | _, _ => false

def contains (range : AddressRange) (address : Option IpAddress) : Bool :=
  match address with
  | some address => range.containsOctets address.octets
  | none => false

def exactSize (range : AddressRange) : Nat :=
  match range.first, range.last with
  | some first, some last =>
    if first.version == last.version then
      last.octets.toNat + 1 - first.octets.toNat
    else 0
  | _, _ => 0

/-- The number of addresses in a range, if it is within the limit. -/
def size? (range : AddressRange) : Option Nat := withinLimit range.exactSize

def endText (address : Option IpAddress) : List Char :=
  (address.map IpAddress.text).getD ['N', 'o', 'n', 'e']

def text (range : AddressRange) : List Char :=
  endText range.first ++ '-' :: endText range.last

end AddressRange

/-- The ranges from which addresses are leased. -/
structure AddressPool where
  ranges : List AddressRange
deriving DecidableEq

namespace AddressPool

/-- Whether all ranges are valid; a pool without ranges is. -/
def isValid (pool : AddressPool) : Bool := pool.ranges.all AddressRange.isValid

def contains (pool : AddressPool) (address : Option IpAddress) : Bool :=
  pool.ranges.any (·.contains address)

def exactSize (pool : AddressPool) : Nat :=
  (pool.ranges.map AddressRange.exactSize).foldr (· + ·) 0

/-- The sum of the sizes of all ranges, if it is within the limit. -/
def size? (pool : AddressPool) : Option Nat := withinLimit pool.exactSize

theorem contains_iff (pool : AddressPool) (address : Option IpAddress) :
    pool.contains address = true ↔
      ∃ range ∈ pool.ranges, range.contains address = true := by
  simp [contains]

end AddressPool

end LeaseRoster
