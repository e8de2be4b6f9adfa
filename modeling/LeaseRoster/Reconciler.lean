import LeaseRoster.Client
import LeaseRoster.History.Store
import LeaseRoster.Link.Rendering
import LeaseRoster.Network.Pool

/-!
# Reconciling leases, configuration and history

The reconciler knows what is configured.  It turns each lease into a live client,
and the sightings of the history whose clients hold no lease into past clients.
-/

namespace LeaseRoster

/-- What is configured about clients, and the number of the present server run.
`workers` says how many leases may be looked at side by side; no result depends on
it. -/
structure Reconciler where
  pool : AddressPool
  registry : Registry
  epoch : Int
  domain : String
  workers : Int

namespace Reconciler

/-- The text of the ranges of a pool that are not valid. -/
def invalidRanges (pool : AddressPool) : String :=
  String.intercalate ", "
    ((pool.ranges.filter fun range => !range.isValid).map fun range =>
      String.ofList range.text)

/-- The reconciler of a valid pool.  The numbers may be given in any form that
stands for an integer. -/
def create (pool : AddressPool) (registry : Registry) (epoch : Datum)
    (domain : String) (workers : Datum) : Except Fault Reconciler := do
  if !pool.isValid then
    throw (.configuration (.invalidPool (invalidRanges pool)))
  let number ← History.toInteger epoch
  let count ← History.toInteger workers
  return ⟨pool, registry, number, domain, max 1 count⟩

/-! ## Live clients -/

/-- The name of a client: the configured one, or else the one it reports, if any. -/
def friendlyName (reconciler : Reconciler) (mac : MacAddress) (hostname : String) :
    String :=
  match reconciler.registry.nameFor (some mac) with
  | some entry => entry.name
  | none => if hostname == Lease.missingHostname then "" else hostname

/-- Whether the internet address of a lease is reserved for its hardware address. -/
def hasStaticAddress (reconciler : Reconciler) (lease : Lease) : Bool :=
  match reconciler.registry.forAddress (some lease.address) with
  | some reservation => reservation.mac == lease.mac
  | none => false

/-- The notice that an address is leased past its reservation. -/
def staticNotices (reconciler : Reconciler) (lease : Lease) : List Notice :=
  match reconciler.registry.forAddress (some lease.address) with
  | some reservation =>
    if reservation.mac == lease.mac then []
    else
      [.leasedElsewhere lease.address.toString lease.mac.toString reservation.mac]
  | none => []

def linkOutcome (reconciler : Reconciler) (lease : Lease) : Link.Outcome :=
  Link.evaluate (reconciler.registry.nameFor (some lease.mac))
    (reconciler.registry.forAddress (some lease.address))
    lease.mac.text lease.address.text lease.hostname.toList reconciler.domain.toList

def enrichLease (reconciler : Reconciler) (lease : Lease) : LiveClient where
  lease := lease
  hasStaticAddress := reconciler.hasStaticAddress lease
  isInsidePool := reconciler.pool.contains (some lease.address)
  friendlyName := reconciler.friendlyName lease.mac lease.hostname
  link := (reconciler.linkOutcome lease).link

def leaseNotices (reconciler : Reconciler) (lease : Lease) : List Notice :=
  reconciler.staticNotices lease ++
    (reconciler.linkOutcome lease).notices lease.mac.text

/-- The live clients of a batch of leases, in their published order. -/
def enrich (reconciler : Reconciler) (leases : List Lease) : List LiveClient :=
  (leases.map reconciler.enrichLease).mergeSort LiveClient.le

def enrichNotices (reconciler : Reconciler) (leases : List Lease) : List Notice :=
  leases.flatMap reconciler.leaseNotices

/-! ## Past clients -/

/-- What the order of two server runs says about a client that was last seen in the
first of them while the second is the present one. -/
def orderNote : Option Ordering → String
  | some .lt => "Last seen in a previous run of the DHCP server"
  | some .eq =>
    "Seen after last DHCP server restart but it missed DHCP renewal " ++
      "or it cannot reach the network anymore"
  | _ => "Tagged with an inconsistent DHCP server start epoch"

/-- How the server run of a sighting relates to the present one. -/
def epochNote (epoch current : Int) : String := orderNote (some (compare epoch current))

/-- How two values relate that tell a server run and the present one. -/
def noteOf (epoch current : Datum) : Except Fault String :=
  (Datum.order epoch current).map orderNote

/-- What stands for the name of a past client without one. -/
def notAvailable : String := "N/A"

/-- The text unless it is empty, and otherwise another one. -/
def textOrElse (text other : String) : String := if text.isEmpty then other else text

/-- The name of a past client: the name of its reservation is better than the bare
name that it reported. -/
def pastName (reconciler : Reconciler) (sighting : Sighting) : String :=
  let friendly := reconciler.friendlyName sighting.mac sighting.hostname
  let chosen :=
    match reconciler.registry.forMac (some sighting.mac) with
    | some reservation =>
      if friendly = sighting.hostname then textOrElse reservation.name friendly
      else friendly
    | none => friendly
  textOrElse chosen notAvailable

def describePast (reconciler : Reconciler) (sighting : Sighting) : PastClient where
  sighting := sighting
  hasStaticAddress := (reconciler.registry.forMac (some sighting.mac)).isSome
  friendlyName := reconciler.pastName sighting
  note := epochNote sighting.epoch reconciler.epoch

/-- The notice about a sighting in a later server run than the present one. -/
def pastNotices (reconciler : Reconciler) (sighting : Sighting) : List Notice :=
  if reconciler.epoch < sighting.epoch then
    [.epochAhead sighting.mac sighting.epoch reconciler.epoch]
  else []

/-- The latest sightings with one more taken into account, unless its client is
alive.  Of two equally late ones the earlier row counts. -/
def keepLatest (alive : List MacAddress) (latest : Index MacAddress Sighting)
    (sighting : Sighting) : Index MacAddress Sighting :=
  if alive.contains sighting.mac then latest
  else
    match latest.find? sighting.mac with
    | none => latest.insert sighting.mac sighting
    | some known =>
      if known.lastSeen.instant < sighting.lastSeen.instant then
        latest.insert sighting.mac sighting
      else latest

/-- The latest sighting of every client that is not alive. -/
def latestSightings (alive : List MacAddress) (sightings : List Sighting) :
    List Sighting :=
  (sightings.foldl (keepLatest alive) Index.empty).values

def pastAmong (reconciler : Reconciler) (alive : List MacAddress)
    (sightings : List Sighting) : List PastClient :=
  ((latestSightings alive sightings).map reconciler.describePast).mergeSort
    PastClient.le

/-- The past clients of the history, with the notices about it.  A history that
cannot be read has none. -/
def pastClients (reconciler : Reconciler) (history : History)
    (alive : List MacAddress) : History.Found (List PastClient) :=
  match history.fetchAll with
  | .error fault => ⟨[], [.historyNotRead fault]⟩
  | .ok found =>
    ⟨reconciler.pastAmong alive found.value,
      found.notices ++
        (latestSightings alive found.value).flatMap reconciler.pastNotices⟩

/-! ## Questions about raw values -/

/-- The hardware addresses that values spell, those that spell none left out. -/
def aliveOf : List Datum → Except Fault (List MacAddress)
  | [] => .ok []
  | datum :: rest => do
    let key ← Registry.macKey datum
    let others ← aliveOf rest
    return key.toList ++ others

/-- The name of the client with a raw hardware address and a raw name. -/
def rawFriendlyName (reconciler : Reconciler) (mac hostname : Datum) :
    Except Fault Datum := do
  let key ← Registry.macKey mac
  match reconciler.registry.nameFor key with
  | some entry => return .text entry.name
  | none =>
    if hostname.isText Lease.missingHostname then return .text ""
    else return Row.orElse hostname (.text "")

/-- Whether a raw internet address is reserved for a raw hardware address, and the
notice if it is reserved for another one. -/
def rawStatic (reconciler : Reconciler) (address mac : Datum) :
    Except Fault (History.Found Bool) :=
  match reconciler.registry.forAddress (Field.shownAddress? address) with
  | none => .ok ⟨false, []⟩
  | some reservation => do
    let key ← Registry.macKey mac
    if key = some reservation.mac then return ⟨true, []⟩
    else
      return ⟨false, [.leasedElsewhere (String.ofList address.plain)
        (String.ofList mac.plain) reservation.mac]⟩

/-- What becomes of the link of a client given by raw values. -/
def rawLink (reconciler : Reconciler) (hostname address mac : Datum) :
    Except Fault (History.Found String) := do
  let key ← Registry.macKey mac
  let outcome :=
    Link.evaluate (reconciler.registry.nameFor key)
      (reconciler.registry.forAddress (Field.shownAddress? address))
      mac.plain address.plain hostname.plain reconciler.domain.toList
  return ⟨outcome.link, outcome.notices mac.plain⟩

end Reconciler

end LeaseRoster
