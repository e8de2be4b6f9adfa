import LeaseRoster.Proofs.LatestSightings

/-!
# Past clients behind a purge

A purge works row by row, while past clients are derived from the latest of all rows of a
client and then sorted.  Whatever the table holds, the two can change places: the past
clients behind a purge are those before it without the ones that were last seen before the
cutoff.  Of a client with several rows the purge may take some; it takes the latest only
together with all others.
-/

namespace LeaseRoster

namespace PastClient

theorem le_iff (left right : PastClient) :
    left.le right = true ↔
      left.sighting.lastSeen.instant < right.sighting.lastSeen.instant ∨
        (left.sighting.lastSeen.instant = right.sighting.lastSeen.instant ∧
          left.sighting.mac.value ≤ right.sighting.mac.value) := by
  unfold le
  dsimp only
  split
  · rename_i same
    simp [same]
  · rename_i different
    simp [different]

theorem le_trans {first second third : PastClient} (earlier : first.le second = true)
    (later : second.le third = true) : first.le third = true := by
  rw [le_iff] at earlier later ⊢
  omega

theorem le_total (left right : PastClient) : (left.le right || right.le left) = true := by
  rw [Bool.or_eq_true, le_iff, le_iff]
  omega

/-- Past clients that may stand on either side of each other have one hardware address. -/
theorem mac_eq_of_le_of_le {left right : PastClient} (before : left.le right = true)
    (behind : right.le left = true) : left.sighting.mac = right.sighting.mac := by
  rw [le_iff] at before behind
  apply MacAddress.value_injective
  omega

theorem pairwise_mergeSort_le (clients : List PastClient) :
    (clients.mergeSort le).Pairwise fun left right => left.le right = true := by
  apply List.pairwise_mergeSort
  · intro first second third earlier later
    exact le_trans earlier later
  · exact le_total

end PastClient

namespace Reconciler

/-- The latest of the sightings since a cutoff are the latest of all that are since the
cutoff, up to their order. -/
theorem latestSightings_filter_perm (alive : List MacAddress) (cutoff : Int)
    (sightings : List Sighting) :
    (latestSightings alive (sightings.filter (Sighting.isSince cutoff))).Perm
      ((latestSightings alive sightings).filter (Sighting.isSince cutoff)) := by
  apply (List.perm_ext_iff_of_nodup (nodup_latestSightings alive _)
    ((nodup_latestSightings alive sightings).filter _)).mpr
  intro sighting
  rw [mem_latestSightings_iff, List.mem_filter, mem_latestSightings_iff,
    Sighting.latestOf_filter, Option.filter_eq_some_iff, and_assoc]

/-- The published order of past clients is determined by who is among them. -/
theorem sorted_eq_of_perm {first second : List PastClient}
    (distinct : (first.map fun client => client.sighting.mac).Nodup)
    (sorted : first.Pairwise fun left right => left.le right = true)
    (alsoSorted : second.Pairwise fun left right => left.le right = true)
    (same : first.Perm second) : first = second := by
  refine List.Perm.eq_of_pairwise ?_ sorted alsoSorted same
  intro left right member other before behind
  exact List.inj_on_of_nodup_map distinct member (same.mem_iff.mpr other)
    (PastClient.mac_eq_of_le_of_le before behind)

theorem macs_map_describePast (reconciler : Reconciler) (sightings : List Sighting) :
    (sightings.map reconciler.describePast).map (fun client => client.sighting.mac) =
      sightings.map Sighting.mac := by
  rw [List.map_map]
  rfl

/-- Leaving out old sightings before past clients are derived or old past clients
afterwards comes to the same list. -/
theorem pastAmong_filter (reconciler : Reconciler) (alive : List MacAddress) (cutoff : Int)
    (sightings : List Sighting) :
    reconciler.pastAmong alive (sightings.filter (Sighting.isSince cutoff)) =
      (reconciler.pastAmong alive sightings).filter
        fun client => client.sighting.isSince cutoff := by
  have described : ((latestSightings alive sightings).filter (Sighting.isSince cutoff)).map
      reconciler.describePast =
        ((latestSightings alive sightings).map reconciler.describePast).filter
          fun client => client.sighting.isSince cutoff := by
    rw [List.filter_map]
    rfl
  have sortedFirst := List.mergeSort_perm
    ((latestSightings alive (sightings.filter (Sighting.isSince cutoff))).map
      reconciler.describePast) PastClient.le
  have sortedLast := List.mergeSort_perm
    ((latestSightings alive sightings).map reconciler.describePast) PastClient.le
  unfold pastAmong
  refine sorted_eq_of_perm ?_ (PastClient.pairwise_mergeSort_le _)
    ((PastClient.pairwise_mergeSort_le _).filter _) ?_
  · apply (sortedFirst.map _).nodup_iff.mpr
    rw [macs_map_describePast]
    exact (macs_latestSightings alive _).1
  · refine sortedFirst.trans (.trans ?_ (sortedLast.filter _).symm)
    rw [← described]
    exact (latestSightings_filter_perm alive cutoff sightings).map _

end Reconciler

namespace History

/-- The rows that a purge keeps make the sightings since its cutoff. -/
theorem sightings_purgeBefore (history : History) (cutoff : Int) :
    (history.purgeBefore cutoff).history.rows.filterMap Row.sighting? =
      (history.rows.filterMap Row.sighting?).filter (Sighting.isSince cutoff) := by
  rw [purgeBefore, rows_withRows, List.filterMap_filter, List.filter_filterMap]
  refine List.filterMap_congr fun row _ => ?_
  cases made : row.sighting? with
  | none => simp [isKept, made]
  | some sighting => simp [isKept, made, Option.filter, Sighting.isSince]

/-- What a purge leaves can be scanned, since every row that it keeps makes a sighting. -/
theorem scanCause?_purgeBefore (history : History) {cutoff : Int}
    (sound : history.scanCause? = none) :
    (history.purgeBefore cutoff).history.scanCause? = none := by
  rw [scanCause?_eq_none_iff] at sound ⊢
  exact ⟨sound.1, fun row member => sound.2 row (List.mem_filter.mp member).1⟩

end History

namespace Reconciler

/-- The past clients of a history that can be scanned are those among its sightings, and one that
cannot be scanned has none. -/
theorem value_pastClients (reconciler : Reconciler) (history : History)
    (alive : List MacAddress) :
    (reconciler.pastClients history alive).value =
      match history.scanCause? with
      | some _ => []
      | none => reconciler.pastAmong alive (history.rows.filterMap Row.sighting?) := by
  rw [pastClients, History.fetchAll_eq]
  cases history.scanCause? <;> rfl

/-- Whatever rows a history has that can be scanned, readable or not, and however often it has a
client: a purge with a positive retention goes through, and the past clients behind it are the past
clients before it without those that were last seen before its cutoff, in the same order and with
the same names, flags and notes.  Where the history cannot be scanned the purge fails, and there
are no past clients before it or behind it. -/
theorem pastClients_purged (reconciler : Reconciler) (history : History)
    (alive : List MacAddress) (retention : Duration) (positive : 0 < retention.micros)
    (now cutoff : Moment) (reached : now.minus? retention = some cutoff) :
    (history.scanCause? = none →
      ∃ purged, history.purgeOlderThan (some retention) now = .ok purged ∧
        (reconciler.pastClients purged.history alive).value =
          (reconciler.pastClients history alive).value.filter fun client =>
            cutoff.instant ≤ client.sighting.lastSeen.instant) ∧
      ∀ cause, history.scanCause? = some cause →
        history.purgeOlderThan (some retention) now = .error (.history .purging cause) ∧
          (reconciler.pastClients history alive).value = [] := by
  have purges := history.purgeOlderThan_eq positive reached
  have listed := reconciler.value_pastClients history alive
  constructor
  · intro sound
    rw [sound] at purges listed
    refine ⟨_, purges, ?_⟩
    rw [listed, value_pastClients, history.scanCause?_purgeBefore sound,
      History.sightings_purgeBefore]
    exact reconciler.pastAmong_filter alive cutoff.instant _
  · intro cause fails
    rw [fails] at purges listed
    exact ⟨purges, listed⟩

/-- A client is in the table twice, in two spellings, beside a row whose time cannot be read:
the purge takes the older of its rows, and the past clients stay. -/
theorem purge_takes_early_row_only :
    let rows : List Row :=
      [⟨.text "AA-BB-CC-DD-EE-FF", .text "old", .text "2024-01-01T00:00:00", .integer 1⟩,
       ⟨.text "aabb.ccdd.eeff", .text "new", .text "2024-03-01T00:00:00", .integer 2⟩,
       ⟨.text "aa:bb:cc:dd:ee:00", .null, .text "soon", .integer 2⟩]
    let history : History := ⟨"clients.db", rows, true⟩
    let reconciler : Reconciler := ⟨⟨[]⟩, Registry.empty, 2, "lan", 1⟩
    let tenDays : Duration := ⟨10 * microsPerDay, by decide⟩
    let now : Moment := ⟨738946 * microsPerDay, some 0, by decide⟩
    let cutoff : Moment := ⟨738936 * microsPerDay, some 0, by decide⟩
    let past (history : History) := (reconciler.pastClients history []).value
    history.scanCause? = none ∧ 0 < tenDays.micros ∧ now.minus? tenDays = some cutoff ∧
      (past history).map (fun client => client.sighting.hostname) = ["new"] ∧
      ∃ purged, history.purgeOlderThan (some tenDays) now = .ok purged ∧
        past purged.history = (past history).filter fun client =>
          cutoff.instant ≤ client.sighting.lastSeen.instant := by
  intro rows history reconciler tenDays now cutoff past
  have positive : 0 < tenDays.micros := by decide
  have reached : now.minus? tenDays = some cutoff := by decide
  have listed : (past history).map (fun client => client.sighting.hostname) = ["new"] := by
    decide +kernel
  have sound : history.scanCause? = none := by decide +kernel
  exact ⟨sound, positive, reached, listed,
    (pastClients_purged reconciler history [] tenDays positive now cutoff reached).1 sound⟩

end Reconciler

end LeaseRoster
