import LeaseRoster.Proofs.StaticAddresses

/-!
# Configured names of live and past clients

A client with a configured name goes by it while it is live, whatever name it reports and
whatever is reserved for it.  A past client does so too, but for one case: a reservation gives
its own name to a client whose name is no other than the one it reported, and a configured
name that equals the reported one is not told from it.
-/

namespace LeaseRoster

namespace Registry

/-- The name of the reservation of a hardware address, empty if it has none. -/
def reservedName (registry : Registry) (mac : MacAddress) : String :=
  ((registry.forMac (some mac)).map Reservation.name).getD ""

theorem reservedName_of_forMac {registry : Registry} {mac : MacAddress}
    {reservation : Reservation} (found : registry.forMac (some mac) = some reservation) :
    registry.reservedName mac = reservation.name := by
  rw [reservedName, found]
  rfl

end Registry

namespace Reconciler

theorem textOrElse_of_ne {text : String} (filled : text ≠ "") (other : String) :
    textOrElse text other = text := by
  simp [textOrElse, filled]

section Named

variable {reconciler : Reconciler} {mac : MacAddress} {entry : FriendlyName}
  (named : reconciler.registry.nameFor (some mac) = some entry)
include named

theorem friendlyName_of_named (hostname : String) :
    reconciler.friendlyName mac hostname = entry.name := by
  rw [friendlyName, named]

/-- The name of a past client whose name is configured. -/
theorem pastName_of_named (filled : entry.name ≠ "") {sighting : Sighting}
    (own : sighting.mac = mac) :
    reconciler.pastName sighting =
      if sighting.hostname = entry.name ∧ reconciler.registry.reservedName mac ≠ "" then
        reconciler.registry.reservedName mac
      else entry.name := by
  subst own
  unfold pastName
  simp only [friendlyName_of_named named]
  cases found : reconciler.registry.forMac (some sighting.mac) with
  | none =>
    have unreserved : reconciler.registry.reservedName sighting.mac = "" := by
      rw [Registry.reservedName, found]
      rfl
    simp [unreserved, textOrElse_of_ne filled]
  | some reservation =>
    rw [Registry.reservedName_of_forMac found]
    by_cases reported : sighting.hostname = entry.name
    · by_cases unnamed : reservation.name = ""
      · simp [reported, unnamed, textOrElse, filled]
      · simp [reported, unnamed, textOrElse_of_ne unnamed]
    · simp [reported, Ne.symm reported, textOrElse_of_ne filled]

end Named

/-- A configured name stays with its client.  A live client goes by it whatever name it reports;
a past one does so too, unless the name that it reported last is the configured one and its
reservation has a name, by which it then goes.  So both are published under one name exactly if
the reservation has no other name for a client that reports the configured one. -/
theorem configured_name_stays_unless_reported (reconciler : Reconciler)
    (reservations : List Reservation) (friendlyNames : List FriendlyName) (mac : MacAddress)
    (entry : FriendlyName)
    (named : (Registry.build reservations friendlyNames).nameFor (some mac) = some entry)
    (filled : entry.name ≠ "") :
    let known := { reconciler with registry := Registry.build reservations friendlyNames }
    let reserved := known.registry.reservedName mac
    (∀ leases, ∀ live ∈ known.enrich leases, live.lease.mac = mac →
      live.friendlyName = entry.name) ∧
    (∀ history alive, ∀ past ∈ (known.pastClients history alive).value,
      past.sighting.mac = mac →
        past.friendlyName =
          if past.sighting.hostname = entry.name ∧ reserved ≠ "" then reserved
          else entry.name) ∧
    ∀ leases history alive, ∀ live ∈ known.enrich leases,
      ∀ past ∈ (known.pastClients history alive).value,
        live.lease.mac = mac → past.sighting.mac = mac →
          (live.friendlyName = past.friendlyName ↔
            (past.sighting.hostname = entry.name → reserved = "" ∨ reserved = entry.name)) := by
  intro known reserved
  have entered : known.registry.nameFor (some mac) = some entry := named
  have live_name : ∀ leases, ∀ live ∈ known.enrich leases, live.lease.mac = mac →
      live.friendlyName = entry.name := by
    rintro leases live current rfl
    obtain ⟨lease, -, rfl⟩ := (mem_enrich_iff known leases live).mp current
    exact friendlyName_of_named entered lease.hostname
  have past_name : ∀ history alive, ∀ past ∈ (known.pastClients history alive).value,
      past.sighting.mac = mac →
        past.friendlyName =
          if past.sighting.hostname = entry.name ∧ reserved ≠ "" then reserved
          else entry.name := by
    intro history alive past gone own
    rw [← describePast_of_mem_pastClients gone]
    exact pastName_of_named entered filled own
  refine ⟨live_name, past_name, ?_⟩
  intro leases history alive live current past gone liveOwn pastOwn
  rw [live_name leases live current liveOwn, past_name history alive past gone pastOwn]
  by_cases reported : past.sighting.hostname = entry.name
  · by_cases unnamed : reserved = ""
    · simp [unnamed]
    · simp [reported, unnamed, eq_comm]
  · simp [reported]

/-- A client that reports a name of its own keeps the configured one when it is past, although
its reservation has a third name. -/
theorem configured_name_kept_beside_reservation :
    let mac : MacAddress := ⟨List.replicate 12 7, rfl⟩
    let reservations : List Reservation := [⟨"attic", mac, .v4 9, none⟩]
    let entry : FriendlyName := ⟨"printer", mac, none⟩
    let reconciler : Reconciler := ⟨⟨[]⟩, Registry.empty, 5, "lan", 1⟩
    let known := { reconciler with registry := Registry.build reservations [entry] }
    let lease : Lease := ⟨mac, .v4 9, "np-7", none, none⟩
    let clock : Moment := ⟨0, some 0, by decide⟩
    let start := Roster.initial (History.create "clients.db")
    let seen := (Roster.applyBatch known clock start [lease]).roster
    let gone := (Roster.applyBatch known clock seen []).roster
    let live := known.enrichLease lease
    let past := known.describePast ⟨mac, "np-7", clock, 5⟩
    (Registry.build reservations [entry]).nameFor (some mac) = some entry ∧ entry.name ≠ "" ∧
      live ∈ known.enrich [lease] ∧ past ∈ (known.pastClients gone.history []).value ∧
      live.friendlyName = past.friendlyName := by
  intro mac reservations entry reconciler known lease clock start seen gone live past
  have named : (Registry.build reservations [entry]).nameFor (some mac) = some entry := by
    decide +kernel
  have filled : entry.name ≠ "" := by decide
  have current : live ∈ known.enrich [lease] := by decide +kernel
  have left : past ∈ (known.pastClients gone.history []).value := by decide +kernel
  have unlike : past.sighting.hostname ≠ entry.name := by decide
  have same : live.friendlyName = past.friendlyName ↔
      (past.sighting.hostname = entry.name →
        known.registry.reservedName mac = "" ∨ known.registry.reservedName mac = entry.name) :=
    (configured_name_stays_unless_reported reconciler reservations [entry] mac entry named
      filled).2.2 [lease] gone.history [] live current past left rfl rfl
  exact ⟨named, filled, current, left, same.mpr fun reported => absurd reported unlike⟩

/-- A client that reports the very name that is configured for it loses this name to the one of
its reservation when it is past. -/
theorem configured_name_lost_when_reported :
    let mac : MacAddress := ⟨List.replicate 12 7, rfl⟩
    let entry : FriendlyName := ⟨"printer", mac, none⟩
    let known : Reconciler :=
      ⟨⟨[]⟩, Registry.build [⟨"attic", mac, .v4 9, none⟩] [entry], 5, "lan", 1⟩
    let lease : Lease := ⟨mac, .v4 9, "printer", none, none⟩
    let clock : Moment := ⟨0, some 0, by decide⟩
    let start := Roster.initial (History.create "clients.db")
    let seen := (Roster.applyBatch known clock start [lease]).roster
    let gone := (Roster.applyBatch known clock seen []).roster
    known.registry.nameFor (some mac) = some entry ∧
      (seen.published.map fun client => (client.lease.mac, client.friendlyName)) =
        [(mac, "printer")] ∧
      ((known.pastClients gone.history []).value.map fun client =>
        (client.sighting.mac, client.sighting.hostname, client.friendlyName)) =
          [(mac, "printer", "attic")] := by
  intro mac entry known lease clock start seen gone
  have named : known.registry.nameFor (some mac) = some entry := by decide +kernel
  have live : (seen.published.map fun client => (client.lease.mac, client.friendlyName)) =
      [(mac, "printer")] := by
    decide +kernel
  have past : ((known.pastClients gone.history []).value.map fun client =>
      (client.sighting.mac, client.sighting.hostname, client.friendlyName)) =
        [(mac, "printer", "attic")] := by
    decide +kernel
  exact ⟨named, live, past⟩

end Reconciler

end LeaseRoster
