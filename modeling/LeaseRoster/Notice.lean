import LeaseRoster.LogLevel
import LeaseRoster.Number.Shortest
import LeaseRoster.Reservation
import LeaseRoster.Sighting

/-!
# Notices

Whatever is worth a line in the log is a value here, named for what happened.  The
level and the text of the line are functions of it.
-/

namespace LeaseRoster

/-- What is worth a line in the log. -/
inductive Notice
  | entrySkipped (source : String) (entry : Datum) (fault : Fault)
  | formatReplaced (key name : String)
  | macReservedTwice (mac : MacAddress) (earlier later : IpAddress)
  | addressReservedTwice (address : IpAddress) (earlier later : MacAddress)
  | leasedElsewhere (address mac : String) (reserved : MacAddress)
  | linkNotRendered (template mac : String) (fault : Fault)
  | linkRefused (template rendered : String)
  | clientNotTracked (mac : MacAddress) (fault : Fault)
  | historyNotRead (fault : Fault)
  | epochAhead (mac : MacAddress) (epoch current : Int)
  | rowSkipped (mac : Datum) (fault : Fault)
  | rowDropped (mac : Datum)
  | historyOpened (path : String)
  | purgeFailed (fault : Fault)
  | purged (sightings : List Sighting) (retention : Option Duration)
  | purgeDisabled
  | purgeStarted (retention : Option Duration) (interval : Datum)
  | batchApplied (number before after : Nat)
  | batchesAwaited
  | snapshotSaved (current past : Nat) (path : String)
  | snapshotNotWritten (path : String) (fault : Fault)
  | leaseFileMissing (path : String)
  | leaseFileUnreadable (path : String) (fault : Fault)
  | leaseFileChanged (number : Nat) (path : String) (leases : Nat)
  | leaseFileWatched (path : String) (interval : Binary64)
  | poolsConfigured (count : Nat)
  | reservationsConfigured (count : Nat)
  | friendlyNamesConfigured (count : Nat)
  | retentionConfigured (retention : Option Duration)
  | epochRead (epoch : Int)
  | poolSized (ranges : Nat) (size : Option Nat)
  | signalReceived (number : Nat)
  | stopped (seconds : Nat)
  | startFailed (fault : Fault)

namespace Notice

/-- How the faults and the raw entries in a notice are worded. -/
structure Wording where
  fault : Fault → String
  entry : Datum → String

def Wording.full : Wording := ⟨Fault.message, Datum.shownText⟩

def level : Notice → LogLevel
  | .entrySkipped _ _ _ => .warning
  | .formatReplaced _ _ => .warning
  | .macReservedTwice _ _ _ => .warning
  | .addressReservedTwice _ _ _ => .warning
  | .leasedElsewhere _ _ _ => .warning
  | .linkNotRendered _ _ _ => .warning
  | .linkRefused _ _ => .warning
  | .clientNotTracked _ _ => .warning
  | .historyNotRead _ => .warning
  | .epochAhead _ _ _ => .error
  | .rowSkipped _ _ => .warning
  | .rowDropped _ => .warning
  | .purgeFailed _ => .warning
  | .snapshotNotWritten _ _ => .warning
  | .leaseFileUnreadable _ _ => .warning
  | .startFailed _ => .critical
  | _ => .info

def shownRetention (retention : Option Duration) : String :=
  String.ofList (Duration.brief retention)

def text (wording : Wording) : Notice → String
  | .entrySkipped source entry fault =>
    "[DHCP NORMALIZER] Skipping invalid " ++ source ++ " lease " ++
      wording.entry entry ++ ": " ++ wording.fault fault
  | .formatReplaced key name =>
    "[PARSERS] Parser for " ++ key ++ " replaced by " ++ name
  | .macReservedTwice mac earlier later =>
    "[CONFIG] MAC " ++ mac.toString ++ " reserved twice (" ++ earlier.toString ++
      " and " ++ later.toString ++ "), keeping " ++ later.toString
  | .addressReservedTwice address earlier later =>
    "[CONFIG] IP " ++ address.toString ++ " reserved twice (for " ++
      earlier.toString ++ " and " ++ later.toString ++ "), keeping " ++
      later.toString
  | .leasedElsewhere address mac reserved =>
    "[MERGE] IP " ++ address ++ " was leased to MAC " ++ mac ++
      ", but in configuration it is reserved for MAC " ++ reserved.toString
  | .linkNotRendered template mac fault =>
    "[MERGE] Failed to render the link template [" ++ template ++ "] for " ++ mac ++
      ": " ++ wording.fault fault
  | .linkRefused template rendered =>
    "[MERGE] Rendering [" ++ template ++ "] produced an invalid URI [" ++ rendered ++
      "]"
  | .clientNotTracked mac fault =>
    "[TRACKER DB] Failed to track " ++ mac.toString ++ ": " ++ wording.fault fault
  | .historyNotRead fault =>
    "[TRACKER DB] Failed to get list of past DHCP clients: " ++ wording.fault fault
  | .epochAhead mac epoch current =>
    "[TRACKER DB] Client " ++ mac.toString ++
      " is tagged with DHCP server start epoch " ++ toString epoch ++
      " while current epoch is " ++ toString current
  | .rowSkipped mac fault =>
    "[TRACKER DB] Skipping malformed row for " ++ mac.shownText ++ ": " ++
      wording.fault fault
  | .rowDropped mac => "[TRACKER DB] Dropping malformed row for " ++ mac.shownText
  | .historyOpened path =>
    "[TRACKER DB] Opened DHCP clients tracking DB at " ++ path
  | .purgeFailed fault =>
    "[TRACKER DB] Failed to purge past clients: " ++ wording.fault fault
  | .purged sightings retention =>
    "[TRACKER DB] Purged " ++ toString sightings.length ++
      " past DHCP clients, last seen more than " ++ shownRetention retention ++
      " ago: " ++ String.intercalate ", " (sightings.map Sighting.brief)
  | .purgeDisabled =>
    "[TRACKER DB] Retention not configured, past clients are kept forever"
  | .purgeStarted retention interval =>
    "[TRACKER DB] Purging past clients older than " ++ shownRetention retention ++
      " every " ++ String.ofList interval.plain ++ "s"
  | .batchApplied number before after =>
    "[COORDINATOR] Lease batch #" ++ toString number ++
      " applied: list size before=" ++ toString before ++ ", after=" ++
      toString after ++ " clients"
  | .batchesAwaited => "[COORDINATOR] Waiting for lease batches"
  | .snapshotSaved current past path =>
    "[SNAPSHOT] Saved " ++ toString current ++ "/" ++ toString past ++
      " current/past DHCP clients to " ++ path
  | .snapshotNotWritten path fault =>
    "Failed to write snapshot " ++ path ++ ": " ++ wording.fault fault
  | .leaseFileMissing path =>
    "[LEASES] Lease file " ++ path ++ " not found, assuming no leases"
  | .leaseFileUnreadable path fault =>
    "[LEASES] Failed to read lease file " ++ path ++ ", will retry: " ++
      wording.fault fault
  | .leaseFileChanged number path leases =>
    "[LEASES] Change #" ++ toString number ++ " detected in lease file " ++ path ++
      ": " ++ toString leases ++ " leases"
  | .leaseFileWatched path interval =>
    "[LEASES] Watching lease file " ++ path ++ " every " ++
      String.ofList interval.textOnePlace ++ "s"
  | .poolsConfigured count =>
    "[CONFIG] Acquired " ++ toString count ++ " DHCP network/ranges"
  | .reservationsConfigured count =>
    "[CONFIG] Acquired " ++ toString count ++ " IP address reservations"
  | .friendlyNamesConfigured count =>
    "[CONFIG] Acquired " ++ toString count ++ " friendly name definitions"
  | .retentionConfigured retention =>
    "[CONFIG] Cleanup threshold for past DHCP clients set to " ++
      shownRetention retention
  | .epochRead epoch =>
    "[CONFIG] The current DHCP server start epoch is " ++ toString epoch
  | .poolSized ranges size =>
    "DHCP pool: " ++ toString ranges ++ " ranges, " ++
      (size.map toString).getD "too many" ++ " addresses"
  | .signalReceived number =>
    "Received signal " ++ toString number ++ ", shutting down"
  | .stopped seconds => "Stopped after " ++ toString seconds ++ " s"
  | .startFailed fault => "Startup failed: " ++ wording.fault fault

def line (wording : Wording) (notice : Notice) : String :=
  notice.level.name ++ " " ++ notice.text wording

end Notice

end LeaseRoster
