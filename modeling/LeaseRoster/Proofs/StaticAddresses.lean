import LeaseRoster.Proofs.RegistrySurvivors
import LeaseRoster.Proofs.SightingWrites

/-!
# Static addresses of live and past clients

A live client is looked up by the internet address of its lease, a past client by its
hardware address.  The two indexes of the registry mirror each other, so both ways lead to
the same reservation: a client has a static address when it is past exactly if there is an
address at which it would have had one while it was live, and this is the reserved one.
-/

namespace LeaseRoster

namespace Reconciler

section Held

variable {reconciler : Reconciler} {kept : List Reservation}
  (holds : reconciler.registry.Holds kept)
include holds

/-- The address of a lease is static exactly if it is held for the hardware address. -/
theorem hasStaticAddress_iff (lease : Lease) :
    reconciler.hasStaticAddress lease = true ↔
      ∃ reservation, reconciler.registry.forMac (some lease.mac) = some reservation ∧
        lease.address.octets = reservation.address.octets := by
  simp only [holds.forMac_iff, Option.some.injEq]
  unfold hasStaticAddress
  cases found : reconciler.registry.forAddress (some lease.address) with
  | none =>
    constructor
    · intro static
      cases static
    · rintro ⟨reservation, ⟨member, -⟩, octets⟩
      have present := (holds.forAddress_iff (some lease.address) reservation).mpr
        ⟨member, congrArg some octets⟩
      rw [present] at found
      cases found
  | some reservation =>
    obtain ⟨member, octets⟩ := (holds.forAddress_iff _ reservation).mp found
    have same : lease.address.octets = reservation.address.octets := Option.some.inj octets
    dsimp only
    rw [beq_iff_eq]
    constructor
    · intro own
      exact ⟨reservation, ⟨member, own.symm⟩, same⟩
    · rintro ⟨other, ⟨otherKept, own⟩, otherOctets⟩
      rw [holds.unique_octets member otherKept (same.symm.trans otherOctets), own]

/-- Two leases with static addresses of the same bytes have one hardware address. -/
theorem mac_eq_of_hasStaticAddress {first second : Lease}
    (octets : first.address.octets = second.address.octets)
    (firstStatic : reconciler.hasStaticAddress first = true)
    (secondStatic : reconciler.hasStaticAddress second = true) : first.mac = second.mac := by
  obtain ⟨one, oneFound, oneOctets⟩ := (hasStaticAddress_iff holds first).mp firstStatic
  obtain ⟨other, otherFound, otherOctets⟩ := (hasStaticAddress_iff holds second).mp secondStatic
  obtain ⟨oneKept, oneMac⟩ := (holds.forMac_iff _ one).mp oneFound
  obtain ⟨otherKept, otherMac⟩ := (holds.forMac_iff _ other).mp otherFound
  have same : one = other := holds.unique_octets oneKept otherKept
    (oneOctets.symm.trans (octets.trans otherOctets))
  rw [Option.some.inj oneMac, Option.some.inj otherMac, same]

/-- A hardware address has a reservation exactly if one of its leases would be static. -/
theorem isSome_forMac_iff (mac : MacAddress) :
    (reconciler.registry.forMac (some mac)).isSome = true ↔
      ∃ lease : Lease, lease.mac = mac ∧ reconciler.hasStaticAddress lease = true := by
  constructor
  · intro present
    obtain ⟨reservation, found⟩ := Option.isSome_iff_exists.mp present
    let lease : Lease := ⟨mac, reservation.address, Lease.missingHostname, none, none⟩
    exact ⟨lease, rfl, (hasStaticAddress_iff holds lease).mpr ⟨reservation, found, rfl⟩⟩
  · rintro ⟨lease, rfl, static⟩
    obtain ⟨reservation, found, -⟩ := (hasStaticAddress_iff holds lease).mp static
    rw [found]
    rfl

/-- Raw values are asked about as leases are: of a text that spells no hardware address and of
a value that shows no internet address nothing is static. -/
theorem rawStatic_text (address : Datum) (spelled : String) :
    ∃ found, reconciler.rawStatic address (.text spelled) = .ok found ∧
      (found.value = true ↔
        ∃ reservation,
          reconciler.registry.forMac (MacAddress.read? spelled.toList) = some reservation ∧
          (Field.shownAddress? address).map IpAddress.octets =
            some reservation.address.octets) := by
  simp only [holds.forMac_iff]
  unfold rawStatic
  cases found : reconciler.registry.forAddress (Field.shownAddress? address) with
  | none =>
    refine ⟨⟨false, []⟩, rfl, iff_of_false Bool.false_ne_true ?_⟩
    rintro ⟨reservation, ⟨member, -⟩, octets⟩
    rw [(holds.forAddress_iff _ reservation).mpr ⟨member, octets⟩] at found
    cases found
  | some reservation =>
    obtain ⟨member, octets⟩ := (holds.forAddress_iff _ reservation).mp found
    rw [Registry.macKey_text]
    by_cases own : MacAddress.read? spelled.toList = some reservation.mac
    · refine ⟨⟨true, []⟩, ?_, iff_of_true rfl ⟨reservation, ⟨member, own⟩, octets⟩⟩
      simp only [bind, Except.bind, if_pos own]
      rfl
    · refine ⟨⟨false, [.leasedElsewhere (String.ofList address.plain)
        (String.ofList (Datum.text spelled).plain) reservation.mac]⟩, ?_,
          iff_of_false Bool.false_ne_true ?_⟩
      · simp only [bind, Except.bind, if_neg own]
        rfl
      · rintro ⟨other, ⟨otherKept, otherMac⟩, otherOctets⟩
        have same : reservation = other := holds.unique_octets member otherKept
          (Option.some.inj (octets.symm.trans otherOctets))
        exact own (same ▸ otherMac)

end Held

/-- Every past client is what its sighting makes it. -/
theorem describePast_of_mem_pastClients {reconciler : Reconciler} {history : History}
    {alive : List MacAddress} {client : PastClient}
    (member : client ∈ (reconciler.pastClients history alive).value) :
    reconciler.describePast client.sighting = client := by
  unfold pastClients at member
  split at member
  · cases member
  · rw [pastAmong, (List.mergeSort_perm _ _).mem_iff] at member
    obtain ⟨sighting, -, rfl⟩ := List.mem_map.mp member
    rfl

/-- Live and past clients agree on static addresses, whatever addresses the reservations
share.  A reservation is found by a hardware address exactly if a lease of it would be static
at some address, and then at the bytes of the reserved address and at no others; so a client
that is static while live is static once past, and no two hardware addresses are static at
one address. -/
theorem static_past_iff_static_live (reconciler : Reconciler) (reservations : List Reservation)
    (friendlyNames : List FriendlyName) :
    let known := { reconciler with registry := Registry.build reservations friendlyNames }
    (∀ mac, (known.registry.forMac (some mac)).isSome = true ↔
      ∃ lease : Lease, lease.mac = mac ∧ (known.enrichLease lease).hasStaticAddress = true) ∧
    (∀ mac reservation, known.registry.forMac (some mac) = some reservation →
      ∀ lease : Lease, lease.mac = mac →
        ((known.enrichLease lease).hasStaticAddress = true ↔
          lease.address.octets = reservation.address.octets)) ∧
    (∀ spelled address, ∃ found, known.rawStatic address (.text spelled) = .ok found ∧
      (found.value = true ↔ ∃ reservation,
        known.registry.forMac (MacAddress.read? spelled.toList) = some reservation ∧
          (Field.shownAddress? address).map IpAddress.octets =
            some reservation.address.octets)) ∧
    (∀ sighting, (known.describePast sighting).hasStaticAddress = true ↔
      ∃ lease : Lease, lease.mac = sighting.mac ∧
        (known.enrichLease lease).hasStaticAddress = true) ∧
    (∀ leases history alive, ∀ live ∈ known.enrich leases,
      ∀ past ∈ (known.pastClients history alive).value,
        live.lease.mac = past.sighting.mac → live.hasStaticAddress = true →
          past.hasStaticAddress = true) ∧
    ∀ leases others, ∀ first ∈ known.enrich leases, ∀ second ∈ known.enrich others,
      first.lease.address.octets = second.lease.address.octets →
        first.hasStaticAddress = true → second.hasStaticAddress = true →
          first.lease.mac = second.lease.mac := by
  intro known
  have holds : known.registry.Holds (Reservation.survivors reservations) :=
    Registry.holds_build reservations friendlyNames
  refine ⟨isSome_forMac_iff holds, ?_, fun spelled address => rawStatic_text holds address spelled,
    fun sighting => isSome_forMac_iff holds sighting.mac, ?_, ?_⟩
  · rintro mac reservation found lease rfl
    refine (hasStaticAddress_iff holds lease).trans ⟨?_, fun octets => ⟨reservation, found, octets⟩⟩
    rintro ⟨other, otherFound, octets⟩
    rw [octets, Option.some.inj (otherFound.symm.trans found)]
  · intro leases history alive live current past gone sameMac static
    obtain ⟨lease, -, rfl⟩ := (mem_enrich_iff known leases live).mp current
    rw [← describePast_of_mem_pastClients gone]
    exact (isSome_forMac_iff holds past.sighting.mac).mpr ⟨lease, sameMac, static⟩
  · intro leases others first firstCurrent second secondCurrent octets firstStatic secondStatic
    obtain ⟨lease, -, rfl⟩ := (mem_enrich_iff known leases first).mp firstCurrent
    obtain ⟨other, -, rfl⟩ := (mem_enrich_iff known others second).mp secondCurrent
    exact mac_eq_of_hasStaticAddress holds octets firstStatic secondStatic

/-- A client with a reservation is static at the reserved address, at no other one, and once it is
past. -/
example :
    let mac : MacAddress := ⟨[0, 0, 1, 1, 2, 2, 3, 3, 4, 4, 10, 11], rfl⟩
    let registry := Registry.build [⟨"attic", mac, .v4 0xc0a80002, none⟩] []
    let reconciler : Reconciler := ⟨⟨[]⟩, registry, 1, "lan", 1⟩
    let lease (address : IpAddress) : Lease := ⟨mac, address, "laser", none, none⟩
    (reconciler.enrichLease (lease (.v4 0xc0a80002))).hasStaticAddress = true ∧
      (reconciler.enrichLease (lease (.v4 0xc0a80003))).hasStaticAddress = false ∧
      (reconciler.describePast ⟨mac, "laser", ⟨0, some 0, by decide⟩, 1⟩).hasStaticAddress =
        true := by
  decide +kernel

end Reconciler

end LeaseRoster
