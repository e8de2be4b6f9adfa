import LeaseRoster.Proofs.PastClients

/-!
# The latest sighting of a client

Several rows may be about one client.  The latest of its sightings counts, and of equally
late ones the one that comes first.  What is known about a client that is not alive is
therefore one fold over its own sightings, and that fold does not care whether sightings
from before a cutoff are left out before it or behind it.
-/

namespace LeaseRoster

namespace Sighting

/-- A kept sighting, if any, against another one: it stays unless the other one is later. -/
def laterOf : Option Sighting → Sighting → Option Sighting
  | none, sighting => some sighting
  | some known, sighting =>
    if known.lastSeen.instant < sighting.lastSeen.instant then some sighting else some known

/-- The latest sighting of a hardware address, the first one of those equally late. -/
def latestOf (mac : MacAddress) (sightings : List Sighting) : Option Sighting :=
  (sightings.filter fun sighting => sighting.mac = mac).foldl laterOf none

/-- Whether a sighting is not from before a cutoff. -/
def isSince (cutoff : Int) (sighting : Sighting) : Bool :=
  cutoff ≤ sighting.lastSeen.instant

theorem laterOf_eq_or (known : Option Sighting) (sighting : Sighting) :
    laterOf known sighting = known ∨ laterOf known sighting = some sighting := by
  cases known with
  | none => exact Or.inr rfl
  | some earlier =>
    by_cases later : earlier.lastSeen.instant < sighting.lastSeen.instant
    · exact Or.inr (if_pos later)
    · exact Or.inl (if_neg later)

/-- Taking one more sighting into account and leaving out what is from before a cutoff can
change places. -/
theorem filter_laterOf (cutoff : Int) (known : Option Sighting) (sighting : Sighting) :
    (laterOf known sighting).filter (isSince cutoff) =
      if sighting.isSince cutoff then laterOf (known.filter (isSince cutoff)) sighting
      else known.filter (isSince cutoff) := by
  cases known with
  | none => by_cases since : sighting.isSince cutoff <;> simp [laterOf, Option.filter, since]
  | some earlier =>
    by_cases later : earlier.lastSeen.instant < sighting.lastSeen.instant
    · -- The later one counts, and if it is too old then so is the earlier one.
      have tooOld (early : ¬ sighting.isSince cutoff) : ¬ earlier.isSince cutoff := by
        simp only [isSince, decide_eq_true_eq] at early ⊢
        omega
      by_cases since : sighting.isSince cutoff
      · by_cases held : earlier.isSince cutoff <;>
          simp [laterOf, Option.filter, later, since, held]
      · simp [laterOf, Option.filter, later, since, tooOld since]
    · have recent (since : sighting.isSince cutoff) : earlier.isSince cutoff := by
        simp only [isSince, decide_eq_true_eq] at since ⊢
        omega
      by_cases since : sighting.isSince cutoff
      · simp [laterOf, Option.filter, later, recent since]
      · simp [laterOf, later, since]

/-- The latest of the sightings since a cutoff is the latest of all, if that is since the
cutoff. -/
theorem foldl_laterOf_filter (cutoff : Int) (sightings : List Sighting)
    (known : Option Sighting) :
    (sightings.filter (isSince cutoff)).foldl laterOf (known.filter (isSince cutoff)) =
      (sightings.foldl laterOf known).filter (isSince cutoff) := by
  induction sightings generalizing known with
  | nil => rfl
  | cons sighting rest ih =>
    have step := filter_laterOf cutoff known sighting
    rw [List.foldl_cons, ← ih, step, List.filter_cons]
    by_cases since : sighting.isSince cutoff <;> simp [since]

theorem latestOf_filter (mac : MacAddress) (cutoff : Int) (sightings : List Sighting) :
    latestOf mac (sightings.filter (isSince cutoff)) =
      (latestOf mac sightings).filter (isSince cutoff) := by
  have swapped := List.filter_comm (fun sighting => decide (sighting.mac = mac))
    (isSince cutoff) sightings
  rw [latestOf, swapped]
  exact foldl_laterOf_filter cutoff _ none

theorem mem_of_foldl_laterOf {sightings : List Sighting} {known : Option Sighting}
    {found : Sighting} (latest : sightings.foldl laterOf known = some found) :
    known = some found ∨ found ∈ sightings := by
  induction sightings generalizing known with
  | nil => exact Or.inl latest
  | cons sighting rest ih =>
    rcases ih latest with kept | member
    · rcases laterOf_eq_or known sighting with same | own
      · exact Or.inl (same.symm.trans kept)
      · exact Or.inr (Option.some.inj (own.symm.trans kept) ▸ List.mem_cons_self)
    · exact Or.inr (List.mem_cons_of_mem _ member)

theorem mem_of_latestOf {mac : MacAddress} {sightings : List Sighting} {found : Sighting}
    (latest : latestOf mac sightings = some found) : found ∈ sightings := by
  rcases mem_of_foldl_laterOf latest with none | member
  · cases none
  · exact List.mem_of_mem_filter member

end Sighting

namespace Reconciler

section Gone

variable {alive : List MacAddress} {mac : MacAddress} (gone : mac ∉ alive)
include gone

theorem find?_keepLatest_of_gone (latest : Index MacAddress Sighting) (sighting : Sighting) :
    (keepLatest alive latest sighting).find? mac =
      if sighting.mac = mac then Sighting.laterOf (latest.find? mac) sighting
      else latest.find? mac := by
  by_cases own : sighting.mac = mac
  · subst own
    unfold keepLatest
    rw [if_neg (by simpa using gone), if_pos rfl]
    cases known : latest.find? sighting.mac with
    | none => simp [Sighting.laterOf, Index.find?_insert]
    | some earlier =>
      by_cases later : earlier.lastSeen.instant < sighting.lastSeen.instant
      · simp [Sighting.laterOf, later, Index.find?_insert]
      · simp [Sighting.laterOf, later, known]
  · rw [if_neg own]
    unfold keepLatest
    split
    · rfl
    · have other : (latest.insert sighting.mac sighting).find? mac = latest.find? mac := by
        rw [Index.find?_insert, if_neg own]
      split
      · exact other
      · split
        · exact other
        · rfl

/-- What is kept about a client that is not alive depends on its own sightings only. -/
theorem find?_foldl_keepLatest (sightings : List Sighting) (latest : Index MacAddress Sighting) :
    (sightings.foldl (keepLatest alive) latest).find? mac =
      (sightings.filter fun sighting => sighting.mac = mac).foldl Sighting.laterOf
        (latest.find? mac) := by
  induction sightings generalizing latest with
  | nil => rfl
  | cons sighting rest ih =>
    rw [List.foldl_cons, ih, find?_keepLatest_of_gone gone, List.filter_cons]
    by_cases own : sighting.mac = mac
    · simp [own]
    · simp [own]

end Gone

/-- The latest sightings are those of clients that are not alive which no other sighting of
their client outdoes. -/
theorem mem_latestSightings_iff (alive : List MacAddress) (sightings : List Sighting)
    (sighting : Sighting) :
    sighting ∈ latestSightings alive sightings ↔
      sighting.mac ∉ alive ∧ Sighting.latestOf sighting.mac sightings = some sighting := by
  obtain ⟨distinct, keyed, members⟩ := foldl_keepLatest alive Index.empty sightings
    List.nodup_nil (by simp)
  rw [latestSightings, Index.mem_values_iff distinct keyed]
  by_cases lives : sighting.mac ∈ alive
  · have absent : sighting.mac ∉ (sightings.foldl (keepLatest alive) Index.empty).keys := by
      intro present
      rcases (members sighting.mac).mp present with early | ⟨_, gone⟩
      · cases early
      · exact gone lives
    simp [(Index.find?_eq_none_iff _ _).mpr absent, lives]
  · rw [find?_foldl_keepLatest lives]
    simp [Sighting.latestOf, lives]

theorem mem_of_mem_latestSightings {alive : List MacAddress} {sightings : List Sighting}
    {sighting : Sighting} (member : sighting ∈ latestSightings alive sightings) :
    sighting ∈ sightings :=
  Sighting.mem_of_latestOf ((mem_latestSightings_iff alive sightings sighting).mp member).2

/-- A past client is the description of what the ledger says about a hardware address that
is not alive. -/
theorem sighting_of_mem_pastClients (reconciler : Reconciler) {history : History}
    {ledger : Ledger} (mirrors : history.Mirrors ledger) {alive : List MacAddress}
    {client : PastClient} (member : client ∈ (reconciler.pastClients history alive).value) :
    reconciler.describePast client.sighting = client ∧ client.sighting.mac ∉ alive ∧
      ledger.find? client.sighting.mac = some client.sighting.keyed.2 := by
  obtain ⟨fetched, keyed⟩ := mirrors.fetchAll_eq
  rw [pastClients, fetched] at member
  have sorted := List.mergeSort_perm
    ((latestSightings alive (history.rows.filterMap Row.sighting?)).map
      reconciler.describePast) PastClient.le
  obtain ⟨sighting, latest, rfl⟩ := List.mem_map.mp (sorted.mem_iff.mp member)
  have gone := ((mem_latestSightings_iff _ _ _).mp latest).1
  refine ⟨rfl, gone, ?_⟩
  rw [Index.find?_eq_some_iff mirrors.distinct, ← keyed]
  exact List.mem_map_of_mem (mem_of_mem_latestSightings latest)

theorem nodup_latestSightings (alive : List MacAddress) (sightings : List Sighting) :
    (latestSightings alive sightings).Nodup :=
  (macs_latestSightings alive sightings).1.of_map

end Reconciler

end LeaseRoster
