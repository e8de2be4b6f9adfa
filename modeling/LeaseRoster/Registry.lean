import LeaseRoster.Index
import LeaseRoster.Notice

/-!
# The registry

The registry finds reservations by internet address and by hardware address, and
friendly names by hardware address.  Of several reservations with one address of
either kind the last one counts; both ways of looking one up agree.
-/

namespace LeaseRoster

/-- The configured reservations and friendly names. -/
structure Registry where
  byAddress : Index Octets Reservation
  byMac : Index MacAddress Reservation
  names : Index MacAddress FriendlyName

namespace Registry

def empty : Registry := ⟨Index.empty, Index.empty, Index.empty⟩

/-! ## Reservations -/

/-- The reservations by internet address without the earlier one of a hardware
address. -/
def clearMac (registry : Registry) (mac : MacAddress) : Index Octets Reservation :=
  match registry.byMac.find? mac with
  | some earlier =>
    if registry.byAddress.find? earlier.address.octets = some earlier then
      registry.byAddress.erase earlier.address.octets
    else registry.byAddress
  | none => registry.byAddress

/-- The reservation of another hardware address that stands in the way of one. -/
def rival? (byAddress : Index Octets Reservation) (reservation : Reservation) :
    Option Reservation :=
  (byAddress.find? reservation.address.octets).filter fun earlier =>
    earlier.mac ≠ reservation.mac

/-- The reservations by hardware address without the earlier one of an internet
address. -/
def clearAddress (byMac : Index MacAddress Reservation) :
    Option Reservation → Index MacAddress Reservation
  | some rival =>
    if byMac.find? rival.mac = some rival then byMac.erase rival.mac else byMac
  | none => byMac

/-- The registry with one more reservation, which takes both its addresses from
earlier ones. -/
def reserve (registry : Registry) (reservation : Reservation) : Registry :=
  let byAddress := registry.clearMac reservation.mac
  let byMac := clearAddress registry.byMac (rival? byAddress reservation)
  { registry with
    byAddress := byAddress.insert reservation.address.octets reservation
    byMac := byMac.insert reservation.mac reservation }

/-- The notices about earlier reservations of the same addresses. -/
def reserveNotices (registry : Registry) (reservation : Reservation) : List Notice :=
  let mac :=
    (registry.byMac.find? reservation.mac).map fun earlier =>
      Notice.macReservedTwice reservation.mac earlier.address reservation.address
  let address :=
    (rival? (registry.clearMac reservation.mac) reservation).map fun rival =>
      Notice.addressReservedTwice reservation.address rival.mac reservation.mac
  mac.toList ++ address.toList

/-- The notices of reservations made one after the other. -/
def reservingNotices (registry : Registry) : List Reservation → List Notice
  | [] => []
  | reservation :: rest =>
    registry.reserveNotices reservation ++
      (registry.reserve reservation).reservingNotices rest

/-! ## The whole registry -/

/-- The registry with one more friendly name. -/
def name (registry : Registry) (entry : FriendlyName) : Registry :=
  { registry with names := registry.names.insert entry.mac entry }

/-- The registry of some reservations and friendly names. -/
def build (reservations : List Reservation) (friendlyNames : List FriendlyName) :
    Registry :=
  friendlyNames.foldl name (reservations.foldl reserve empty)

/-- The notices about reservations that share addresses. -/
def buildNotices (reservations : List Reservation) : List Notice :=
  empty.reservingNotices reservations

def reservationCount (registry : Registry) : Nat := registry.byAddress.size

def nameCount (registry : Registry) : Nat := registry.names.size

def forAddress (registry : Registry) (address : Option IpAddress) :
    Option Reservation :=
  address.bind fun known => registry.byAddress.find? known.octets

def forMac (registry : Registry) (mac : Option MacAddress) : Option Reservation :=
  mac.bind registry.byMac.find?

def nameFor (registry : Registry) (mac : Option MacAddress) : Option FriendlyName :=
  mac.bind registry.names.find?

/-- The hardware address that a value spells, none if it is a text that spells
none. -/
def macKey (datum : Datum) : Except Fault (Option MacAddress) :=
  match Field.readMac datum with
  | .ok mac => .ok (some mac)
  | .error (.value _) => .ok none
  | .error fault => .error fault

end Registry

end LeaseRoster
