import LeaseRoster.Lease
import LeaseRoster.Sighting

/-!
# Clients

A live client holds a lease; a past client is known from the history alone.  Both
are published with what the configuration adds to them.
-/

namespace LeaseRoster

/-- A client that holds a lease. -/
structure LiveClient where
  lease : Lease
  hasStaticAddress : Bool
  isInsidePool : Bool
  friendlyName : String
  link : String
deriving DecidableEq

/-- A client that was seen once and holds no lease now. -/
structure PastClient where
  sighting : Sighting
  hasStaticAddress : Bool
  friendlyName : String
  note : String
deriving DecidableEq

namespace LiveClient

/-- A live client around the members of its lease as published. -/
def withLease (client : LiveClient) (lease : List (String × JsonValue)) : JsonValue :=
  .object
    [("lease", .object lease),
     ("has_static_ip", .flag client.hasStaticAddress),
     ("is_inside_pool", .flag client.isInsidePool),
     ("friendly_name", .text client.friendlyName),
     ("evaluated_link", .text client.link)]

def toJson (client : LiveClient) : JsonValue := client.withLease client.lease.members

/-- Whether a client comes no later than another one: by the bytes of the internet
address, then by the hardware address. -/
def le (left right : LiveClient) : Bool :=
  if left.lease.address.octets = right.lease.address.octets then
    left.lease.mac.value ≤ right.lease.mac.value
  else Octets.le left.lease.address.octets right.lease.address.octets

end LiveClient

namespace PastClient

def toJson (client : PastClient) : JsonValue :=
  .object
    [("past_info", client.sighting.toJson),
     ("has_static_ip", .flag client.hasStaticAddress),
     ("friendly_name", .text client.friendlyName),
     ("notes", .text client.note)]

/-- Whether a client comes no later than another one: by the last sighting, then by
the hardware address. -/
def le (left right : PastClient) : Bool :=
  let leftSeen := left.sighting.lastSeen.instant
  let rightSeen := right.sighting.lastSeen.instant
  if leftSeen = rightSeen then left.sighting.mac.value ≤ right.sighting.mac.value
  else leftSeen < rightSeen

end PastClient

end LeaseRoster
