import LeaseRoster.Proofs.HistoryLedger
import LeaseRoster.Roster.Basic

/-!
# Writing sightings of leases

A lease whose name can be stored is written to every history that can be used, at any
time that has a reading in universal time.  The live clients of a batch have the leases
of the batch, so what can be stored of the one can be stored of the other.
-/

namespace LeaseRoster

namespace Lease

/-- Whether the history can keep the name that a lease reports.  Names with one of the private
characters U+10D800 to U+10DFFF are left out as well, since they are taken for halves. -/
def isStorable (lease : Lease) : Bool := Text.isEncodable lease.hostname.toList

theorem isEncodable_reportedHostname {lease : Lease} (storable : lease.isStorable = true) :
    Text.isEncodable lease.reportedHostname.toList = true := by
  unfold reportedHostname
  split
  · exact storable
  · rfl

/-- What the history learns when a lease is seen. -/
def entryAt (lease : Lease) (now : Moment) (epoch : Int) : LedgerEntry :=
  ⟨lease.reportedHostname, now.instant, epoch⟩

end Lease

namespace Reconciler

theorem mem_enrich_iff (reconciler : Reconciler) (leases : List Lease) (client : LiveClient) :
    client ∈ reconciler.enrich leases ↔
      ∃ lease ∈ leases, reconciler.enrichLease lease = client := by
  rw [enrich, (List.mergeSort_perm _ _).mem_iff, List.mem_map]

/-- The live clients of a batch have the hardware addresses of its leases. -/
theorem mem_macs_enrich_iff (reconciler : Reconciler) (leases : List Lease) (mac : MacAddress) :
    mac ∈ (reconciler.enrich leases).map (fun client => client.lease.mac) ↔
      mac ∈ leases.map Lease.mac := by
  have sorted := List.mergeSort_perm (leases.map reconciler.enrichLease) LiveClient.le
  rw [enrich, (sorted.map fun client => client.lease.mac).mem_iff, List.map_map]
  rfl

theorem isStorable_of_mem_enrich (reconciler : Reconciler) {leases : List Lease}
    (storable : ∀ lease ∈ leases, lease.isStorable = true) {client : LiveClient}
    (member : client ∈ reconciler.enrich leases) : client.lease.isStorable = true := by
  obtain ⟨lease, inBatch, rfl⟩ := (reconciler.mem_enrich_iff leases client).mp member
  exact storable lease inBatch

end Reconciler

namespace Roster

section Write

variable {history : History} {lease : Lease} {now : Moment} {epoch : Int}
  (fits : fitsWord epoch = true) (convertible : now.toUniversal?.isSome = true)
  (storable : lease.isStorable = true)
include fits convertible storable

/-- A history that can be used takes a sighting that can be stored. -/
theorem writeSighting_eq (usable : history.isOpen = true) :
    ∃ row, row.Holds (lease.mac, lease.entryAt now epoch) ∧
      writeSighting epoch lease now history =
        .ok (history.withRows (History.putRow row history.rows)) := by
  obtain ⟨universal, converted⟩ := Option.isSome_iff_exists.mp convertible
  obtain ⟨stored, written, _⟩ := Moment.readStored?_storedText converted
  have name := Lease.isEncodable_reportedHostname storable
  refine ⟨_, Row.holds_ofSighting lease.mac lease.reportedHostname epoch converted written, ?_⟩
  simp [writeSighting, History.put, History.whenOpen, usable, written, Cell.ofText, name, fits,
    bind, Except.bind, pure, Except.pure]

/-- A sighting that can be stored is entered in the ledger. -/
theorem writeSighting_mirrors {ledger : Ledger} (mirrors : history.Mirrors ledger) :
    ∃ next, writeSighting epoch lease now history = .ok next ∧
      next.Mirrors (ledger.insert lease.mac (lease.entryAt now epoch)) := by
  obtain ⟨row, holds, written⟩ := writeSighting_eq fits convertible storable mirrors.usable
  exact ⟨_, written, mirrors.putRow holds⟩

end Write

end Roster

end LeaseRoster
