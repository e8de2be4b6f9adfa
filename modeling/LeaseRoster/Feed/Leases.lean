import LeaseRoster.Feed.Lines
import LeaseRoster.Lease
import LeaseRoster.Notice
import LeaseRoster.Text.Utf8
import LeaseRoster.Time.Timestamp

/-!
# Leases of a feed

The entries of a feed become leases one by one.  An entry that makes no lease is
left out with a notice; only an entry that is not even a mapping, or whose fields
are of kinds that no feed has, stops the reading.
-/

namespace LeaseRoster

namespace Feed

/-- When an entry expires: never for everything empty, such as zero. -/
def expiryOf (datum : Datum) : Except Fault Datum :=
  if datum.isTruthy then (Moment.ofTimestamp datum).map Datum.moment
  else .ok .null

def leaseOfEntry (entry : Datum) : Except Fault Lease := do
  let expires ← expiryOf (entry.get "expires")
  (Lease.fields (.mapping
    [(.text "mac", entry.get "mac"), (.text "ip", entry.get "ip"),
     (.text "hostname", entry.get "hostname"), (.text "expires", expires),
     (.text "client_id", entry.get "client_id")])).result

/-- Whether a fault only means that an entry is left out. -/
def isSkippable : Fault → Bool
  | .value _ => true
  | .invalid _ => true
  | .beyondRange => true
  | .beyondClock => true
  | _ => false

/-- The leases of a feed and the notices about entries left out. -/
structure Outcome where
  leases : List Lease
  notices : List Notice

/-- An outcome with the lease of an earlier entry in front. -/
def Outcome.withLease (outcome : Outcome) (lease : Lease) : Outcome :=
  { outcome with leases := lease :: outcome.leases }

/-- An outcome with the notice about an earlier entry in front. -/
def Outcome.withNotice (outcome : Outcome) (notice : Notice) : Outcome :=
  { outcome with notices := notice :: outcome.notices }

def leasesOfEntries (source : String) : List Datum → Except Fault Outcome
  | [] => .ok ⟨[], []⟩
  | .mapping members :: rest =>
    match leaseOfEntry (.mapping members) with
    | .ok lease =>
      (leasesOfEntries source rest).map fun outcome => outcome.withLease lease
    | .error fault =>
      if isSkippable fault then
        (leasesOfEntries source rest).map fun outcome =>
          outcome.withNotice (.entrySkipped source (.mapping members) fault)
      else .error fault
  | _ :: _ => .error .foreignValue

/-- The values that come one by one when a value is gone through. -/
def iterated : Datum → Except Fault (List Datum)
  | .list items => .ok items
  | .set items => .ok items
  | .pair first second => .ok [first, second]
  | .mapping members => .ok (members.map Prod.fst)
  | .text value =>
    .ok (value.toList.map fun character => .text (String.singleton character))
  | _ => .error .wrongKind

def normalize (source : String) : Datum → Except Fault Outcome
  | .mapping members => do
    match (Datum.mapping members).get? leasesKey with
    | none => return ⟨[], []⟩
    | some listed =>
      let items ← iterated listed
      leasesOfEntries source items
  | _ => .error .foreignValue

def leasesOfText (text : List Char) : Except Fault Outcome :=
  normalize source (parse leasesKey.toList text)

/-- The leases of the bytes of a lease file, whatever they are. -/
def leasesOfBytes (bytes : List UInt8) : Except Fault Outcome :=
  leasesOfText (Text.unifyNewlines (Text.decodeLenient bytes))

end Feed

end LeaseRoster
