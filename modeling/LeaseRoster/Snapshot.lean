import LeaseRoster.Client

/-!
# Snapshots

A snapshot lists the live and the past clients at one moment.  It is published with
the time that every lease has left.
-/

namespace LeaseRoster

/-- The live and the past clients at one moment. -/
structure Snapshot where
  current : List LiveClient
  past : List PastClient
  generatedAt : Moment

namespace Snapshot

/-- What is left of the size of a number without its fraction. -/
def cutOff : Binary64 → Nat
  | .finite _ units => Binary64.wholePart units
  | _ => 0

/-- The whole seconds in a number of microseconds, which is first turned into a
floating-point number of seconds. -/
def wholeSeconds (micros : Nat) : Nat :=
  cutOff (Binary64.ofRatio false micros microsPerSecond)

/-- A number with at least two digits and a letter behind it. -/
def lettered (value : Nat) (letter : Char) : List Char :=
  Moment.twoDigits value ++ [letter]

/-- Seconds as days, hours, minutes and seconds; days and hours are left out when
they and all before them are zero. -/
def remainingText (seconds : Nat) : List Char :=
  let days := seconds / 86400
  let hours := seconds % 86400 / 3600
  let minutes := seconds % 3600 / 60
  let tail := [lettered minutes 'm', lettered (seconds % 60) 's']
  Datum.commaSeparated <|
    if 0 < days then lettered days 'd' :: lettered hours 'h' :: tail
    else if 0 < hours then lettered hours 'h' :: tail
    else tail

/-- The time that a lease has left.  Clocks of which only one has a known distance
from universal time cannot be compared. -/
def expiryText (expires : Option Moment) (now : Moment) : Except Fault (List Char) :=
  match expires with
  | none => .ok "Never expires".toList
  | some moment =>
    if moment.isAware != now.isAware then .error .wrongKind
    else
      let left := moment.instant - now.instant
      if left < 0 then .ok "Expired".toList
      else .ok (remainingText (wholeSeconds left.toNat))

/-- A live client as published, with the time that its lease has left. -/
def clientJson (now : Moment) (client : LiveClient) : Except Fault JsonValue := do
  let left ← expiryText client.lease.expires now
  return client.withLease
    (client.lease.members ++ [("expires_in", .text (String.ofList left))])

def sizeJson : Option Nat → JsonValue
  | some size => .integer size
  | none => .null

/-- The members that describe a snapshot as a whole. -/
def summary (snapshot : Snapshot) (poolSize : Option Nat) : JsonValue :=
  .object
    [("type", .text "dhcp_clients"),
     ("created_at", .text (String.ofList snapshot.generatedAt.isoText)),
     ("schema_version", .text "1.0"),
     ("summary", .object
       [("current_clients", .integer snapshot.current.length),
        ("past_clients", .integer snapshot.past.length),
        ("dhcp_pool_size", sizeJson poolSize)])]

def toJson (snapshot : Snapshot) (poolSize : Option Nat) : Except Fault JsonValue := do
  let current ← snapshot.current.mapM (clientJson snapshot.generatedAt)
  return .object
    [("snapshot", snapshot.summary poolSize),
     ("current_clients", .list current),
     ("past_clients", .list (snapshot.past.map PastClient.toJson))]

end Snapshot

end LeaseRoster
