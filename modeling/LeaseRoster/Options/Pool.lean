import LeaseRoster.JsonValue
import LeaseRoster.Network.Pool
import LeaseRoster.Network.Private
import LeaseRoster.Network.Subnet
import LeaseRoster.Record.Field

/-!
# Configured pools

A pool is configured by the texts of its first and last address.  With a gateway
and a netmask it must also be coherent: all addresses private and inside one
network.
-/

namespace LeaseRoster

/-- A range of addresses as it is configured. -/
structure PoolOptions where
  interface : String
  first : String
  last : String
  gateway : Option String
  netmask : Option String
deriving DecidableEq

namespace PoolOptions

def fields (record : Datum) : Checked PoolOptions :=
  PoolOptions.mk <$> Field.withDefault record "interface" "" Field.text
    <*> Field.required record "start" Field.text
    <*> Field.required record "end" Field.text
    <*> Field.withDefault record "gateway" none (Field.optional Field.text)
    <*> Field.withDefault record "netmask" none (Field.optional Field.text)

def read : Field.Reader PoolOptions := Field.record "DhcpPoolConfig" fields

def range (pool : PoolOptions) : AddressRange :=
  .ofTexts pool.first.toList pool.last.toList

def shownOptional (text : Option String) : String := text.getD "None"

def describe (pool : PoolOptions) : String :=
  "Interface: " ++ pool.interface ++ ", Start: " ++ pool.first ++ ", End: " ++
    pool.last ++ ", Gateway: " ++ shownOptional pool.gateway ++ ", Netmask: " ++
    shownOptional pool.netmask

/-- A text that is set and not empty. -/
def setText? (text : Option String) : Option String :=
  text.filter fun value => !value.isEmpty

/-- Whether the last address and the gateway belong to the network of the first
`length` bits of the first address. -/
def checkSubnet (pool : PoolOptions) (length : Nat) (first last gateway : IpAddress) :
    Except Fault Unit :=
  let written := Subnet.written first length
  match Subnet.read? written with
  | none => .error (.value (.malformedSubnet (String.ofList (Text.quoted written))))
  | some subnet =>
    if !subnet.contains last then .error (.value (.endOutside pool.describe))
    else if !subnet.contains gateway then .error (.value (.gatewayOutside pool.describe))
    else .ok ()

/-- Whether the addresses of a pool are private and inside one network, given both
ends, the gateway and the netmask. -/
def checkCoherence (pool : PoolOptions) (first last : IpAddress)
    (gatewayText netmask : String) : Except Fault Unit :=
  match IpAddress.readStripped? gatewayText.toList with
  | none => .error (.value (.foreignGateway pool.describe))
  | some gateway =>
    if gateway.version != first.version then .error (.value (.foreignGateway pool.describe))
    else if !(first.isPrivate && last.isPrivate && gateway.isPrivate) then
      .error (.value (.publicNetwork pool.describe))
    else
      match Netmask.read netmask.toList first.width with
      | .error fault => .error (.value (.numeral fault))
      | .ok none => .error (.value (.malformedNetmask pool.describe))
      | .ok (some length) => pool.checkSubnet length first last gateway

/-- Whether a pool with a gateway and a netmask is coherent; one without is. -/
def checkNetwork (pool : PoolOptions) : Except Fault Unit :=
  match setText? pool.gateway, setText? pool.netmask with
  | some gateway, some netmask =>
    match pool.range.first, pool.range.last with
    | some first, some last => checkCoherence pool first last gateway netmask
    | _, _ => .error .foreignValue
  | _, _ => .ok ()

def check (pool : PoolOptions) : Except Fault Unit :=
  if pool.range.isValid then pool.checkNetwork
  else .error (.value (.invalidRange pool.first pool.last))

def toJson (pool : PoolOptions) : JsonValue :=
  .object
    [("interface", .text pool.interface),
     ("start", .text pool.first),
     ("end", .text pool.last),
     ("gateway", .optionalText pool.gateway),
     ("netmask", .optionalText pool.netmask)]

end PoolOptions

end LeaseRoster
