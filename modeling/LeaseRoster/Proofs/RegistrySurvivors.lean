import LeaseRoster.Proofs.IndexKeys
import LeaseRoster.Registry
import Mathlib.Data.List.Induction

/-!
# Reservations that survive

A new reservation takes its hardware address and its internet address from earlier
ones, so it may evict two of them at once.  The registry of a list therefore holds
exactly the reservations with which no later one clashes, and holds each of them in
both indexes.  Both facts are carried by one invariant, `Holds`, that every step of the
construction preserves.
-/

namespace LeaseRoster

namespace Reservation

/-- Whether two reservations want the same hardware address or the same internet
address. -/
def clashes (first second : Reservation) : Bool :=
  first.mac = second.mac || first.address.octets = second.address.octets

theorem clashes_iff (first second : Reservation) :
    first.clashes second = true ↔
      first.mac = second.mac ∨ first.address.octets = second.address.octets := by
  simp [clashes]

theorem clashes_self (reservation : Reservation) :
    reservation.clashes reservation = true := by
  simp [clashes]

/-- The reservations of a list with which no later one clashes. -/
def survivors : List Reservation → List Reservation
  | [] => []
  | reservation :: later =>
    if later.any reservation.clashes then survivors later
    else reservation :: survivors later

/-- A further reservation evicts those that it clashes with and stays itself. -/
theorem survivors_append_singleton (reservations : List Reservation)
    (last : Reservation) :
    survivors (reservations ++ [last]) =
      (survivors reservations).filter (fun earlier => !earlier.clashes last) ++ [last] := by
  induction reservations with
  | nil => simp [survivors]
  | cons first rest ih =>
    simp only [List.cons_append, survivors, List.any_append, List.any_cons, List.any_nil,
      Bool.or_false, ih]
    cases rest.any first.clashes <;> cases evicted : first.clashes last <;>
      simp [evicted]

/-- What survives stands at a place behind which nothing clashes with it. -/
theorem mem_survivors_iff (reservations : List Reservation) (reservation : Reservation) :
    reservation ∈ survivors reservations ↔
      ∃ place, reservations[place]? = some reservation ∧
        ∀ later ∈ reservations.drop (place + 1), reservation.clashes later = false := by
  induction reservations with
  | nil => simp [survivors]
  | cons first rest ih =>
    have split : (∃ place, (first :: rest)[place]? = some reservation ∧
          ∀ later ∈ (first :: rest).drop (place + 1), reservation.clashes later = false) ↔
        (first = reservation ∧ ∀ later ∈ rest, first.clashes later = false) ∨
          reservation ∈ survivors rest := by
      rw [ih]
      constructor
      · rintro ⟨place, found, clear⟩
        cases place with
        | zero =>
          have equal : first = reservation := by simpa using found
          exact Or.inl ⟨equal, by simpa [equal] using clear⟩
        | succ place => exact Or.inr ⟨place, by simpa using found, by simpa using clear⟩
      · rintro (⟨rfl, clear⟩ | ⟨place, found, clear⟩)
        · exact ⟨0, by simp, by simpa using clear⟩
        · exact ⟨place + 1, by simpa using found, by simpa using clear⟩
    rw [split, survivors]
    by_cases clashing : rest.any first.clashes = true
    · rw [if_pos clashing]
      obtain ⟨later, member, clash⟩ := List.any_eq_true.mp clashing
      have evicted : ¬ ∀ later ∈ rest, first.clashes later = false := by
        intro clear
        rw [clear later member] at clash
        cases clash
      simp [evicted]
    · rw [if_neg clashing]
      have clear : ∀ later ∈ rest, first.clashes later = false := by simpa using clashing
      rw [List.mem_cons, eq_comm]
      exact or_congr_left (iff_self_and.mpr fun _ => clear)

theorem mem_drop_of_getElem? {reservations : List Reservation} {reservation : Reservation}
    {place other : Nat} (found : reservations[other]? = some reservation)
    (behind : place < other) : reservation ∈ reservations.drop (place + 1) := by
  have position : place + 1 + (other - (place + 1)) = other := Nat.add_sub_cancel' behind
  refine List.mem_of_getElem? (i := other - (place + 1)) ?_
  rw [List.getElem?_drop, position]
  exact found

/-- Nothing clashes with a reservation behind its place exactly if it survives and does not
come again. -/
theorem clear_behind_iff {reservations : List Reservation} {reservation : Reservation}
    {place : Nat} (found : reservations[place]? = some reservation) :
    (∀ later ∈ reservations.drop (place + 1), reservation.clashes later = false) ↔
      reservation ∈ survivors reservations ∧ reservation ∉ reservations.drop (place + 1) := by
  have own {behind : List Reservation}
      (clear : ∀ later ∈ behind, reservation.clashes later = false) :
      reservation ∉ behind := by
    intro again
    have clash := clear reservation again
    rw [clashes_self] at clash
    cases clash
  rw [mem_survivors_iff]
  constructor
  · intro clear
    exact ⟨⟨place, found, clear⟩, own clear⟩
  · rintro ⟨⟨other, foundOther, clear⟩, last⟩
    -- The surviving place is the given one: the value does not recur behind either.
    rcases Nat.lt_trichotomy other place with before | rfl | behind
    · exact absurd (mem_drop_of_getElem? found before) (own clear)
    · exact clear
    · exact absurd (mem_drop_of_getElem? foundOther behind) last

/-- No two survivors want the same internet address. -/
theorem nodup_octets_survivors (reservations : List Reservation) :
    ((survivors reservations).map fun kept => kept.address.octets).Nodup := by
  induction reservations with
  | nil => simp [survivors]
  | cons first rest ih =>
    rw [survivors]
    split
    · exact ih
    · rename_i clear
      refine List.nodup_cons.mpr ⟨?_, ih⟩
      intro taken
      obtain ⟨kept, survives, equal⟩ := List.mem_map.mp taken
      obtain ⟨place, found, _⟩ := (mem_survivors_iff rest kept).mp survives
      apply clear
      refine List.any_eq_true.mpr ⟨kept, List.mem_of_getElem? found, ?_⟩
      exact (clashes_iff first kept).mpr (Or.inr equal.symm)

end Reservation

namespace Registry

open Reservation (clashes survivors)

/-! ## One step -/

/-- A registry holds some reservations, each under both its addresses, and nothing
else. -/
structure Holds (registry : Registry) (kept : List Reservation) : Prop where
  distinct : registry.byAddress.keys.Nodup
  byMac_iff : ∀ mac reservation, registry.byMac.find? mac = some reservation ↔
    reservation ∈ kept ∧ reservation.mac = mac
  byAddress_iff : ∀ octets reservation,
    registry.byAddress.find? octets = some reservation ↔
      reservation ∈ kept ∧ reservation.address.octets = octets

theorem holds_empty : empty.Holds [] := by
  refine ⟨List.nodup_nil, ?_, ?_⟩ <;> simp [empty]

section Step

variable {registry : Registry} {kept : List Reservation} (holds : registry.Holds kept)
include holds

theorem Holds.unique_mac {first second : Reservation} (firstKept : first ∈ kept)
    (secondKept : second ∈ kept) (equal : first.mac = second.mac) : first = second := by
  have firstFound := (holds.byMac_iff second.mac first).mpr ⟨firstKept, equal⟩
  have secondFound := (holds.byMac_iff second.mac second).mpr ⟨secondKept, rfl⟩
  exact Option.some.inj (firstFound.symm.trans secondFound)

theorem Holds.unique_octets {first second : Reservation} (firstKept : first ∈ kept)
    (secondKept : second ∈ kept)
    (equal : first.address.octets = second.address.octets) : first = second := by
  have firstFound :=
    (holds.byAddress_iff second.address.octets first).mpr ⟨firstKept, equal⟩
  have secondFound :=
    (holds.byAddress_iff second.address.octets second).mpr ⟨secondKept, rfl⟩
  exact Option.some.inj (firstFound.symm.trans secondFound)

theorem Holds.nodup_keys_clearMac (mac : MacAddress) :
    (registry.clearMac mac).keys.Nodup := by
  unfold clearMac
  split
  · split
    · exact Index.nodup_keys_erase holds.distinct _
    · exact holds.distinct
  · exact holds.distinct

/-- Without the earlier reservation of a hardware address, the others are still found
by internet address. -/
theorem Holds.find?_clearMac (mac : MacAddress) (octets : Octets)
    (reservation : Reservation) :
    (registry.clearMac mac).find? octets = some reservation ↔
      reservation ∈ kept ∧ reservation.address.octets = octets ∧
        reservation.mac ≠ mac := by
  unfold clearMac
  cases found : registry.byMac.find? mac with
  | none =>
    have absent : ∀ other ∈ kept, other.mac ≠ mac := by
      intro other member equal
      rw [(holds.byMac_iff mac other).mpr ⟨member, equal⟩] at found
      cases found
    simp only [holds.byAddress_iff]
    constructor
    · rintro ⟨member, equal⟩
      exact ⟨member, equal, absent _ member⟩
    · rintro ⟨member, equal, _⟩
      exact ⟨member, equal⟩
  | some earlier =>
    obtain ⟨earlierKept, earlierMac⟩ := (holds.byMac_iff mac earlier).mp found
    have mirrored := (holds.byAddress_iff earlier.address.octets earlier).mpr
      ⟨earlierKept, rfl⟩
    simp only [if_pos mirrored, Index.find?_erase]
    by_cases freed : earlier.address.octets = octets
    · simp only [if_pos freed, reduceCtorEq, false_iff, not_and, not_not]
      intro member equal
      rw [holds.unique_octets member earlierKept (equal.trans freed.symm)]
      exact earlierMac
    · rw [if_neg freed, holds.byAddress_iff]
      refine and_congr_right fun member => (and_iff_left_of_imp ?_).symm
      intro equal sameMac
      apply freed
      rw [← holds.unique_mac member earlierKept (sameMac.trans earlierMac.symm)]
      exact equal

/-- The rival of a reservation is the one that holds its internet address for another
hardware address. -/
theorem Holds.rival?_iff (reservation rival : Reservation) :
    rival? (registry.clearMac reservation.mac) reservation = some rival ↔
      rival ∈ kept ∧ rival.address.octets = reservation.address.octets ∧
        rival.mac ≠ reservation.mac := by
  simp only [rival?, Option.filter_eq_some_iff, holds.find?_clearMac, decide_eq_true_eq]
  exact ⟨fun found => found.1, fun found => ⟨found, found.2.2⟩⟩

/-- Without the rival of a reservation, the others are still found by hardware
address. -/
theorem Holds.find?_clearAddress (reservation : Reservation) (mac : MacAddress)
    (other : Reservation) (different : reservation.mac ≠ mac) :
    (clearAddress registry.byMac
        (rival? (registry.clearMac reservation.mac) reservation)).find? mac = some other ↔
      other ∈ kept ∧ other.mac = mac ∧
        other.address.octets ≠ reservation.address.octets := by
  cases rivalry : rival? (registry.clearMac reservation.mac) reservation with
  | none =>
    simp only [clearAddress, holds.byMac_iff]
    refine and_congr_right fun member => (and_iff_left_of_imp ?_).symm
    intro sameMac sameOctets
    have foreign : other.mac ≠ reservation.mac := fun equal =>
      different (equal.symm.trans sameMac)
    rw [(holds.rival?_iff reservation other).mpr ⟨member, sameOctets, foreign⟩] at rivalry
    cases rivalry
  | some rival =>
    obtain ⟨rivalKept, rivalOctets, _⟩ := (holds.rival?_iff reservation rival).mp rivalry
    have mirrored := (holds.byMac_iff rival.mac rival).mpr ⟨rivalKept, rfl⟩
    simp only [clearAddress, if_pos mirrored, Index.find?_erase]
    by_cases freed : rival.mac = mac
    · simp only [if_pos freed, reduceCtorEq, false_iff, not_and, not_not]
      intro member equal
      rw [holds.unique_mac member rivalKept (equal.trans freed.symm)]
      exact rivalOctets
    · rw [if_neg freed, holds.byMac_iff]
      refine and_congr_right fun member => (and_iff_left_of_imp ?_).symm
      intro equal sameOctets
      apply freed
      rw [← holds.unique_octets member rivalKept (sameOctets.trans rivalOctets.symm)]
      exact equal

/-- One more reservation evicts all that it clashes with. -/
theorem Holds.reserve (reservation : Reservation) :
    (registry.reserve reservation).Holds
      (kept.filter (fun earlier => !earlier.clashes reservation) ++ [reservation]) := by
  have remains (other : Reservation) :
      other ∈ kept.filter (fun earlier => !earlier.clashes reservation) ++ [reservation] ↔
        (other ∈ kept ∧ other.mac ≠ reservation.mac ∧
          other.address.octets ≠ reservation.address.octets) ∨ other = reservation := by
    simp [clashes]
  refine ⟨Index.nodup_keys_insert (holds.nodup_keys_clearMac _) _ _, ?_, ?_⟩
  · intro mac other
    simp only [Registry.reserve, Index.find?_insert, remains]
    by_cases own : reservation.mac = mac
    · rw [if_pos own, ← own, Option.some.injEq, eq_comm]
      constructor
      · rintro rfl
        exact ⟨Or.inr rfl, rfl⟩
      · rintro ⟨⟨_, foreign, _⟩ | equal, sameMac⟩
        · exact absurd sameMac foreign
        · exact equal
    · rw [if_neg own, holds.find?_clearAddress reservation mac other own]
      constructor
      · rintro ⟨member, rfl, octets⟩
        exact ⟨Or.inl ⟨member, Ne.symm own, octets⟩, rfl⟩
      · rintro ⟨⟨member, _, octets⟩ | rfl, sameMac⟩
        · exact ⟨member, sameMac, octets⟩
        · exact absurd sameMac own
  · intro octets other
    simp only [Registry.reserve, Index.find?_insert, remains]
    by_cases own : reservation.address.octets = octets
    · rw [if_pos own, ← own, Option.some.injEq, eq_comm]
      constructor
      · rintro rfl
        exact ⟨Or.inr rfl, rfl⟩
      · rintro ⟨⟨_, _, foreign⟩ | equal, sameOctets⟩
        · exact absurd sameOctets foreign
        · exact equal
    · rw [if_neg own, holds.find?_clearMac]
      constructor
      · rintro ⟨member, rfl, foreign⟩
        exact ⟨Or.inl ⟨member, foreign, Ne.symm own⟩, rfl⟩
      · rintro ⟨⟨member, foreign, _⟩ | rfl, sameOctets⟩
        · exact ⟨member, sameOctets, foreign⟩
        · exact absurd sameOctets own

/-- A lookup by hardware address finds what is held under it. -/
theorem Holds.forMac_iff (mac : Option MacAddress) (reservation : Reservation) :
    registry.forMac mac = some reservation ↔
      reservation ∈ kept ∧ mac = some reservation.mac := by
  cases mac with
  | none => simp [forMac]
  | some mac => simp [forMac, holds.byMac_iff, eq_comm]

/-- A lookup by internet address finds what is held under it; an address that could not be
read finds nothing. -/
theorem Holds.forAddress_iff (address : Option IpAddress) (reservation : Reservation) :
    registry.forAddress address = some reservation ↔
      reservation ∈ kept ∧
        address.map IpAddress.octets = some reservation.address.octets := by
  cases address with
  | none => simp [forAddress]
  | some address => simp [forAddress, holds.byAddress_iff, eq_comm]

/-- The reservations that are held are as many as the index by internet address
counts. -/
theorem Holds.reservationCount_eq
    (nodup : (kept.map fun reservation => reservation.address.octets).Nodup) :
    registry.reservationCount = kept.length := by
  have keyed : ∀ octets reservation, registry.byAddress.find? octets = some reservation →
      reservation.address.octets = octets :=
    fun octets reservation found => ((holds.byAddress_iff octets reservation).mp found).2
  have values := Index.map_values holds.distinct keyed
  have valuesNodup : registry.byAddress.values.Nodup :=
    List.Nodup.of_map _ (values ▸ holds.distinct)
  have same : registry.byAddress.values.Perm kept := by
    refine (List.perm_ext_iff_of_nodup valuesNodup (List.Nodup.of_map _ nodup)).mpr ?_
    intro reservation
    rw [Index.mem_values_iff holds.distinct keyed, holds.byAddress_iff]
    exact and_iff_left rfl
  calc
    registry.reservationCount = registry.byAddress.values.length := by
      simp [reservationCount, Index.size, Index.values]
    _ = kept.length := same.length_eq

end Step

/-! ## The whole construction -/

theorem holds_foldl_reserve (reservations : List Reservation) :
    (reservations.foldl reserve empty).Holds (survivors reservations) := by
  induction reservations using List.reverseRecOn with
  | nil => exact holds_empty
  | append_singleton reservations last ih =>
    rw [List.foldl_append, Reservation.survivors_append_singleton]
    exact ih.reserve last

/-- Friendly names leave the reservations alone. -/
theorem Holds.foldl_name {registry : Registry} {kept : List Reservation}
    (holds : registry.Holds kept) (friendlyNames : List FriendlyName) :
    (friendlyNames.foldl name registry).Holds kept := by
  induction friendlyNames generalizing registry with
  | nil => exact holds
  | cons entry rest ih =>
    exact ih ⟨holds.distinct, holds.byMac_iff, holds.byAddress_iff⟩

theorem holds_build (reservations : List Reservation) (friendlyNames : List FriendlyName) :
    (build reservations friendlyNames).Holds (survivors reservations) :=
  (holds_foldl_reserve reservations).foldl_name friendlyNames

theorem names_foldl_reserve (registry : Registry) (reservations : List Reservation) :
    (reservations.foldl reserve registry).names = registry.names := by
  induction reservations generalizing registry with
  | nil => rfl
  | cons reservation rest ih => exact ih (registry.reserve reservation)

theorem find?_names_foldl (registry : Registry) (friendlyNames : List FriendlyName)
    (mac : MacAddress) :
    (friendlyNames.foldl name registry).names.find? mac =
      (friendlyNames.reverse.find? fun entry => entry.mac = mac).or
        (registry.names.find? mac) := by
  induction friendlyNames generalizing registry with
  | nil => simp
  | cons entry rest ih =>
    rw [List.foldl_cons, ih, List.reverse_cons, List.find?_append, Option.or_assoc]
    congr 1
    by_cases same : entry.mac = mac <;> simp [name, Index.find?_insert, same]

/-- The entry found for a hardware address is the last one that names it. -/
theorem find?_names_build (reservations : List Reservation)
    (friendlyNames : List FriendlyName) (mac : MacAddress) :
    (build reservations friendlyNames).names.find? mac =
      friendlyNames.reverse.find? fun entry => entry.mac = mac := by
  rw [build, find?_names_foldl, names_foldl_reserve]
  simp [empty]

/-- A text asks for the hardware address that it spells, if any. -/
@[simp] theorem macKey_text (spelled : String) :
    macKey (.text spelled) = .ok (MacAddress.read? spelled.toList) := by
  cases read : MacAddress.read? spelled.toList <;> simp [macKey, Field.readMac, read]

/-- Of reservations that clash the last one counts, in both indexes alike: a reservation
stays exactly if nothing behind it clashes with it, the lookups find what stays and
nothing else, and so the indexes mirror each other.  Of friendly names of one hardware
address the last one counts. -/
theorem build_last_write_wins (reservations : List Reservation)
    (friendlyNames : List FriendlyName) :
    let registry := build reservations friendlyNames
    (∀ place reservation, reservations[place]? = some reservation →
      ((∀ later ∈ reservations.drop (place + 1), reservation.clashes later = false) ↔
        registry.forMac (some reservation.mac) = some reservation ∧
          registry.forAddress (some reservation.address) = some reservation ∧
          reservation ∉ reservations.drop (place + 1))) ∧
    (∀ address reservation, registry.forAddress address = some reservation ↔
      reservation ∈ survivors reservations ∧
        address.map IpAddress.octets = some reservation.address.octets) ∧
    (∀ spelled, ∃ found,
      (macKey (.text spelled)).map registry.forMac = .ok found ∧
        ∀ reservation, found = some reservation ↔
          reservation ∈ survivors reservations ∧
            MacAddress.read? spelled.toList = some reservation.mac) ∧
    (∀ reservation, registry.forAddress (some reservation.address) = some reservation ↔
      registry.forMac (some reservation.mac) = some reservation) ∧
    (∀ octets reservation, registry.byAddress.find? octets = some reservation →
      reservation.address.octets = octets ∧
        registry.byMac.find? reservation.mac = some reservation) ∧
    (∀ mac reservation, registry.byMac.find? mac = some reservation →
      reservation.mac = mac ∧
        registry.byAddress.find? reservation.address.octets = some reservation) ∧
    registry.reservationCount = (survivors reservations).length ∧
    (∀ spelled, (macKey (.text spelled)).map registry.nameFor =
      .ok ((MacAddress.read? spelled.toList).bind fun mac =>
        friendlyNames.reverse.find? fun entry => entry.mac = mac)) := by
  intro registry
  have holds : registry.Holds (survivors reservations) :=
    holds_build reservations friendlyNames
  have forMac_iff := holds.forMac_iff
  have forAddress_iff := holds.forAddress_iff
  refine ⟨?_, forAddress_iff, ?_, ?_, ?_, ?_, ?_, ?_⟩
  · intro place reservation found
    rw [Reservation.clear_behind_iff found, forMac_iff, forAddress_iff]
    simp
  · intro spelled
    exact ⟨_, by rw [macKey_text]; rfl, forMac_iff _⟩
  · intro reservation
    simp [forMac_iff, forAddress_iff]
  · intro octets reservation found
    obtain ⟨survives, keyed⟩ := (holds.byAddress_iff octets reservation).mp found
    exact ⟨keyed, (holds.byMac_iff _ _).mpr ⟨survives, rfl⟩⟩
  · intro mac reservation found
    obtain ⟨survives, keyed⟩ := (holds.byMac_iff mac reservation).mp found
    exact ⟨keyed, (holds.byAddress_iff _ _).mpr ⟨survives, rfl⟩⟩
  · exact holds.reservationCount_eq (Reservation.nodup_octets_survivors reservations)
  · intro spelled
    rw [macKey_text]
    cases MacAddress.read? spelled.toList with
    | none => rfl
    | some mac => exact congrArg Except.ok (find?_names_build reservations friendlyNames mac)

end Registry

end LeaseRoster
