import LeaseRoster.JsonValue
import LeaseRoster.Record.Field

/-!
# Sightings

The history knows every hardware address that ever held a lease: the name that its
client last reported, when it was last seen, and the number of the server run in
which that was.
-/

namespace LeaseRoster

/-- The last sighting of a client. -/
structure Sighting where
  mac : MacAddress
  hostname : String
  lastSeen : Moment
  epoch : Int
deriving DecidableEq

namespace Sighting

def fields (record : Datum) : Checked Sighting :=
  Sighting.mk <$> Field.required record "mac" Field.mac
    <*> Field.withDefault record "hostname" "" Field.text
    <*> Field.required record "last_seen" Field.moment
    <*> Field.withDefault record "generation_epoch" 0 Field.integer

def read : Field.Reader Sighting := Field.record "HistoryRecord" fields

def toJson (sighting : Sighting) : JsonValue :=
  .object
    [("mac", .text sighting.mac.toString),
     ("hostname", .text sighting.hostname),
     ("last_seen", .text (String.ofList sighting.lastSeen.publishedText)),
     ("generation_epoch", .integer sighting.epoch)]

/-- The address and the name of a client as messages show them. -/
def brief (sighting : Sighting) : String :=
  sighting.mac.toString ++ " (" ++
    (if sighting.hostname.isEmpty then "?" else sighting.hostname) ++ ")"

end Sighting

end LeaseRoster
