import LeaseRoster.LogLevel
import LeaseRoster.Options.Pool
import LeaseRoster.Reservation

/-!
# Options

Everything that the configuration file sets, with the values that hold where it
sets nothing.
-/

namespace LeaseRoster

/-- Where the address server keeps its files, and how often they are looked at. -/
structure ServerOptions where
  leaseFile : String
  historyFile : String
  epochFile : String
  retention : Option Duration
  purgeInterval : Int
  pollInterval : Binary64
deriving DecidableEq

namespace ServerOptions

/-- The options of a server of which nothing is configured. -/
def defaults : ServerOptions where
  leaseFile := "/data/dnsmasq.leases"
  historyFile := "/data/trackerdb.sqlite3"
  epochFile := "/data/startepoch"
  retention := none
  purgeInterval := 3600
  pollInterval := Binary64.ofInt 1

def fields (record : Datum) : Checked ServerOptions :=
  ServerOptions.mk
    <$> Field.withDefault record "lease_file" defaults.leaseFile Field.text
    <*> Field.withDefault record "tracker_db" defaults.historyFile Field.text
    <*> Field.withDefault record "start_epoch_file" defaults.epochFile Field.text
    <*> Field.withDefault record "forget_past_clients_after" none Field.duration
    <*> Field.withDefault record "purge_interval_sec" defaults.purgeInterval
      Field.positive
    <*> Field.withDefault record "poll_interval_sec" defaults.pollInterval
      Field.positiveNumber

def read : Field.Reader ServerOptions := Field.record "DhcpServerConfig" fields

end ServerOptions

/-- The name server whose domain completes the names of clients. -/
structure NameServerOptions where
  enabled : Bool
  domain : String
  port : Int
deriving DecidableEq

namespace NameServerOptions

/-- The options of a name server of which nothing is configured. -/
def defaults : NameServerOptions := ⟨false, "", 53⟩

def fields (record : Datum) : Checked NameServerOptions :=
  NameServerOptions.mk <$> Field.withDefault record "enable" false Field.flag
    <*> Field.withDefault record "dns_domain" "" Field.text
    <*> Field.withDefault record "port" defaults.port (Field.positiveUpTo 65535)

def read : Field.Reader NameServerOptions := Field.record "DnsServerConfig" fields

end NameServerOptions

/-- Where snapshots are written, and how often without a change. -/
structure SnapshotOptions where
  path : String
  refreshInterval : Int
deriving DecidableEq

namespace SnapshotOptions

/-- The options of snapshots of which nothing is configured. -/
def defaults : SnapshotOptions :=
  ⟨"data/snapshots/dhcp_clients_snapshot.json", 0⟩

def fields (record : Datum) : Checked SnapshotOptions :=
  SnapshotOptions.mk <$> Field.withDefault record "path" defaults.path Field.text
    <*> Field.withDefault record "refresh_interval_sec" defaults.refreshInterval
      Field.natural

def read : Field.Reader SnapshotOptions := Field.record "SnapshotConfig" fields

end SnapshotOptions

/-- All options. -/
structure Options where
  pools : List PoolOptions
  reservations : List Reservation
  friendlyNames : List FriendlyName
  server : ServerOptions
  nameServer : NameServerOptions
  snapshot : SnapshotOptions
  logLevel : LogLevel
deriving DecidableEq

namespace Options

/-- Whether every pool is valid and coherent; the first one that is not decides. -/
def checkPools (pools : List PoolOptions) : Except Fault Unit :=
  pools.forM PoolOptions.check

def fields (record : Datum) : Checked Options :=
  Options.mk
    <$> Field.withDefault record "dhcp_pools" [] (Field.list PoolOptions.read)
    <*> Field.withDefault record "dhcp_ip_address_reservations" []
      (Field.list Reservation.read)
    <*> Field.withDefault record "dhcp_clients_friendly_names" []
      (Field.list FriendlyName.read)
    <*> Field.withDefault record "dhcp_server" .defaults ServerOptions.read
    <*> Field.withDefault record "dns_server" .defaults NameServerOptions.read
    <*> Field.withDefault record "snapshot" .defaults SnapshotOptions.read
    <*> Field.withDefault record "log_level" .info LogLevel.read

/-- The options read from a document.  The rule on pools is tried only when all
fields are fine. -/
def read : Field.Reader Options :=
  Field.record "Options" fun record =>
    (fields record).thenCheck fun options =>
      (Checked.ofExcept (checkPools options.pools)).map fun _ => options

def addressPool (options : Options) : AddressPool :=
  ⟨options.pools.map PoolOptions.range⟩

end Options

end LeaseRoster
