import LeaseRoster.Proofs.HistoryLedger
import LeaseRoster.Roster.Basic

/-!
# Whose past clients are listed

The past clients are the clients with a sighting that are not alive, each of them once,
however many sightings they have and in whatever order the list is published.
-/

namespace LeaseRoster

namespace Reconciler

section KeepLatest

variable (alive : List MacAddress)

theorem keys_keepLatest (latest : Index MacAddress Sighting) (sighting : Sighting) :
    (keepLatest alive latest sighting).keys =
      if sighting.mac ∈ alive ∨ sighting.mac ∈ latest.keys then latest.keys
      else latest.keys ++ [sighting.mac] := by
  unfold keepLatest
  by_cases lives : sighting.mac ∈ alive
  · simp [lives]
  · simp only [List.contains_eq_mem, lives, decide_false, Bool.false_eq_true, if_false,
      false_or]
    cases known : latest.find? sighting.mac with
    | none =>
      have absent := (Index.find?_eq_none_iff latest sighting.mac).mp known
      rw [Index.keys_insert, if_neg absent]
    | some earlier =>
      have present : sighting.mac ∈ latest.keys := by
        by_contra absent
        rw [(Index.find?_eq_none_iff latest sighting.mac).mpr absent] at known
        cases known
      dsimp only
      rw [if_pos present]
      split
      · rw [Index.keys_insert, if_pos present]
      · rfl

theorem find?_keepLatest {latest : Index MacAddress Sighting} {sighting found : Sighting}
    {mac : MacAddress}
    (keyed : ∀ mac known, latest.find? mac = some known → known.mac = mac)
    (kept : (keepLatest alive latest sighting).find? mac = some found) : found.mac = mac := by
  have inserted : (latest.insert sighting.mac sighting).find? mac = some found →
      found.mac = mac := by
    intro present
    rw [Index.find?_insert] at present
    split at present
    · rename_i own
      rw [← Option.some.inj present, own]
    · exact keyed mac found present
  unfold keepLatest at kept
  split at kept
  · exact keyed mac found kept
  · split at kept
    · exact inserted kept
    · split at kept
      · exact inserted kept
      · exact keyed mac found kept

/-- The index of latest sightings has each hardware address that is seen and not alive as
a key, and keeps every sighting under its own. -/
theorem foldl_keepLatest (latest : Index MacAddress Sighting) (sightings : List Sighting)
    (distinct : latest.keys.Nodup)
    (keyed : ∀ mac known, latest.find? mac = some known → known.mac = mac) :
    let last := sightings.foldl (keepLatest alive) latest
    last.keys.Nodup ∧ (∀ mac known, last.find? mac = some known → known.mac = mac) ∧
      ∀ mac, mac ∈ last.keys ↔
        mac ∈ latest.keys ∨ (mac ∈ sightings.map Sighting.mac ∧ mac ∉ alive) := by
  induction sightings generalizing latest with
  | nil => exact ⟨distinct, keyed, by simp⟩
  | cons sighting rest ih =>
    have keys := keys_keepLatest alive latest sighting
    have nextDistinct : (keepLatest alive latest sighting).keys.Nodup := by
      rw [keys]
      split
      · exact distinct
      · rename_i absent
        rw [List.nodup_append_comm, List.singleton_append, List.nodup_cons]
        exact ⟨fun present => absent (Or.inr present), distinct⟩
    obtain ⟨lastDistinct, lastKeyed, members⟩ := ih (keepLatest alive latest sighting)
      nextDistinct (fun mac known => find?_keepLatest alive keyed)
    refine ⟨lastDistinct, lastKeyed, fun mac => ?_⟩
    rw [List.foldl_cons, members, keys]
    by_cases own : mac = sighting.mac
    · subst own
      by_cases lives : sighting.mac ∈ alive <;> by_cases present : sighting.mac ∈ latest.keys <;>
        simp [lives, present]
    · split <;> simp [own]

end KeepLatest

/-- The latest sightings are of the hardware addresses that are seen and not alive, one of
each. -/
theorem macs_latestSightings (alive : List MacAddress) (sightings : List Sighting) :
    ((latestSightings alive sightings).map Sighting.mac).Nodup ∧
      ∀ mac, mac ∈ (latestSightings alive sightings).map Sighting.mac ↔
        mac ∈ sightings.map Sighting.mac ∧ mac ∉ alive := by
  obtain ⟨distinct, keyed, members⟩ := foldl_keepLatest alive Index.empty sightings
    List.nodup_nil (by simp)
  rw [latestSightings, Index.map_values distinct keyed]
  exact ⟨distinct, fun mac => by simpa using members mac⟩

/-- The hardware addresses of the past clients, in their published order. -/
def pastMacs (reconciler : Reconciler) (history : History) (alive : List MacAddress) :
    List MacAddress :=
  (reconciler.pastClients history alive).value.map fun client => client.sighting.mac

/-- The past clients over a ledger are those of its addresses that are not alive, one of
each. -/
theorem pastMacs_of_mirrors (reconciler : Reconciler) {history : History} {ledger : Ledger}
    (mirrors : history.Mirrors ledger) (alive : List MacAddress) :
    (reconciler.pastMacs history alive).Nodup ∧
      ∀ mac, mac ∈ reconciler.pastMacs history alive ↔ mac ∈ ledger.keys ∧ mac ∉ alive := by
  obtain ⟨fetched, keyed⟩ := mirrors.fetchAll_eq
  have seen : (history.rows.filterMap Row.sighting?).map Sighting.mac = ledger.keys := by
    rw [Index.keys, ← keyed, Sighting.macs_keyed]
  obtain ⟨distinct, members⟩ :=
    macs_latestSightings alive (history.rows.filterMap Row.sighting?)
  have listed : (reconciler.pastMacs history alive).Perm
      ((latestSightings alive (history.rows.filterMap Row.sighting?)).map Sighting.mac) := by
    rw [pastMacs, pastClients, fetched]
    have sorted := List.mergeSort_perm
      ((latestSightings alive (history.rows.filterMap Row.sighting?)).map
        reconciler.describePast) PastClient.le
    refine (sorted.map _).trans ?_
    rw [List.map_map]
    exact List.Perm.refl _
  refine ⟨listed.nodup_iff.mpr distinct, fun mac => ?_⟩
  rw [listed.mem_iff, members, seen]

end Reconciler

end LeaseRoster
