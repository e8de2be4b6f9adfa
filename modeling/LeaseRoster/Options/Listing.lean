import LeaseRoster.Options.Basic
import LeaseRoster.Registry

/-!
# Options as published

The options in force, with the values that hold where nothing is configured, can be
listed.  A duration is listed by its days, seconds and microseconds; a size that may
exceed a word is listed as a text.
-/

namespace LeaseRoster

def Duration.toJson (duration : Duration) : JsonValue :=
  .object
    [("days", .integer duration.days), ("seconds", .integer duration.seconds),
     ("microseconds", .integer duration.microseconds)]

def Duration.optionalJson : Option Duration → JsonValue
  | some duration => duration.toJson
  | none => .null

def JsonValue.size : Option Nat → JsonValue
  | some value => .text (String.ofList (Text.decimal value))
  | none => .null

def ServerOptions.toJson (options : ServerOptions) : JsonValue :=
  .object
    [("lease_file", .text options.leaseFile),
     ("tracker_db", .text options.historyFile),
     ("start_epoch_file", .text options.epochFile),
     ("forget_past_clients_after", Duration.optionalJson options.retention),
     ("purge_interval_sec", .integer options.purgeInterval),
     ("poll_interval_sec", .text (String.ofList options.pollInterval.text))]

def NameServerOptions.toJson (options : NameServerOptions) : JsonValue :=
  .object
    [("enable", .flag options.enabled), ("dns_domain", .text options.domain),
     ("port", .integer options.port)]

def SnapshotOptions.toJson (options : SnapshotOptions) : JsonValue :=
  .object
    [("path", .text options.path),
     ("refresh_interval_sec", .integer options.refreshInterval)]

/-- The registry of what the options reserve and name. -/
def Options.registry (options : Options) : Registry :=
  Registry.build options.reservations options.friendlyNames

/-- All options as published, with what follows from them. -/
def Options.members (options : Options) : List (String × JsonValue) :=
  [("dhcp_pools", .list (options.pools.map PoolOptions.toJson)),
   ("reservations", .list (options.reservations.map Reservation.toJson)),
   ("friendly_names", .list (options.friendlyNames.map FriendlyName.toJson)),
   ("dhcp_server", options.server.toJson),
   ("dns_server", options.nameServer.toJson),
   ("snapshot", options.snapshot.toJson),
   ("log_level", .text options.logLevel.name),
   ("pool_size", .size options.addressPool.size?),
   ("reservation_count", .integer options.registry.reservationCount),
   ("friendly_name_count", .integer options.registry.nameCount)]

end LeaseRoster
