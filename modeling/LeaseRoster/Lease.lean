import LeaseRoster.JsonValue
import LeaseRoster.Record.Field

/-!
# Leases

A lease gives an internet address to a hardware address until it expires, or for
ever.  A client that reports no name of its own is listed under an asterisk.
-/

namespace LeaseRoster

/-- The lease of one address. -/
structure Lease where
  mac : MacAddress
  address : IpAddress
  hostname : String
  expires : Option Moment
  clientId : Option String
deriving DecidableEq

namespace Lease

/-- What stands for the name of a client that reports none. -/
def missingHostname : String := "*"

def hasHostname (lease : Lease) : Bool := lease.hostname != missingHostname

/-- The name that a client reports, empty if it reports none. -/
def reportedHostname (lease : Lease) : String :=
  if lease.hasHostname then lease.hostname else ""

/-- The name of a client, where everything empty stands for none. -/
def hostnameField : Field.Reader String := fun datum =>
  if datum.isTruthy then Field.text datum else .accepted missingHostname

def fields (record : Datum) : Checked Lease :=
  Lease.mk <$> Field.required record "mac" Field.mac
    <*> Field.required record "ip" Field.address
    <*> Field.withDefault record "hostname" missingHostname hostnameField
    <*> Field.withDefault record "expires" none (Field.optional Field.moment)
    <*> Field.withDefault record "client_id" none (Field.optional Field.text)

def read : Field.Reader Lease := Field.record "Lease" fields

def members (lease : Lease) : List (String × JsonValue) :=
  [("mac", .text lease.mac.toString),
   ("ip", .text lease.address.toString),
   ("hostname", .text lease.hostname),
   ("expires", .optionalText (lease.expires.map fun moment =>
      String.ofList moment.publishedText)),
   ("client_id", .optionalText lease.clientId)]

def toJson (lease : Lease) : JsonValue := .object lease.members

end Lease

end LeaseRoster
