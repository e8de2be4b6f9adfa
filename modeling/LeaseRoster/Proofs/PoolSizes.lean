import LeaseRoster.Network.Pool
import LeaseRoster.Proofs.PublishedOrder
import Mathlib.Algebra.Order.BigOperators.Group.List
import Mathlib.Data.Set.Card
import Mathlib.Order.Interval.Finset.Nat

/-!
# Sizes of ranges and pools

The size of a range is computed from the numbers of its ends, while an address lies in it if
its bytes lie between theirs.  Sixteen bytes are told by their number, and every number below
2¹²⁸ is that of an address, so the size is the number of the bytes that the range holds.  A
pool adds the sizes of its ranges up, which counts a shared address once for each range.
-/

namespace LeaseRoster

namespace Octets

theorem toNat_lt (octets : Octets) : toNat octets < 256 ^ octets.length := by
  induction octets using List.reverseRecOn with
  | nil => decide
  | append_singleton octets byte ih =>
    have small := byte.toNat_lt
    rw [toNat_append_singleton, List.length_append, List.length_singleton, pow_succ]
    omega

end Octets

namespace IpAddress

theorem number_lt (address : IpAddress) : address.number < addressCount6 := by
  have bound := Octets.toNat_lt address.octets
  rw [address.length_octets] at bound
  exact bound

/-- Every number of 128 bits is that of an address. -/
theorem exists_number {value : Nat} (small : value < addressCount6) :
    ∃ address : IpAddress, address.number = value := by
  refine ⟨.v6 ⟨value, small⟩ none, ?_⟩
  rw [number, octets, Octets.toNat_ofNat]
  exact Nat.mod_eq_of_lt small

end IpAddress

namespace AddressRange

/-- The bytes of the addresses that lie in a range. -/
def members (range : AddressRange) : Set Octets :=
  IpAddress.octets '' {address | range.contains (some address) = true}

/-- Whether no address lies in both of two ranges. -/
def Apart (one other : AddressRange) : Prop :=
  ∀ address, one.contains (some address) = true → other.contains (some address) = false

theorem isValid_iff (range : AddressRange) :
    range.isValid = true ↔
      ∃ first last, range = ⟨some first, some last⟩ ∧ first.version = last.version := by
  obtain ⟨first, last⟩ := range
  cases first <;> cases last <;> simp [isValid]

theorem contains_of_not_isValid {range : AddressRange} (invalid : range.isValid = false)
    (address : Option IpAddress) : range.contains address = false := by
  obtain ⟨first, last⟩ := range
  cases address with
  | none => rfl
  | some address =>
    cases first <;> cases last <;> simp_all [isValid, contains, containsOctets]

theorem exactSize_of_not_isValid {range : AddressRange} (invalid : range.isValid = false) :
    range.exactSize = 0 := by
  obtain ⟨first, last⟩ := range
  cases first <;> cases last <;> simp_all [isValid, exactSize]

section Ends

variable {first last : IpAddress} (same : first.version = last.version)
include same

theorem contains_iff_number (address : IpAddress) :
    (⟨some first, some last⟩ : AddressRange).contains (some address) = true ↔
      first.number ≤ address.number ∧ address.number ≤ last.number := by
  simp [contains, containsOctets, same, IpAddress.le_octets_iff]

theorem exactSize_of_ends :
    (⟨some first, some last⟩ : AddressRange).exactSize = last.number + 1 - first.number := by
  simp [exactSize, same, IpAddress.number]

/-- The numbers of what a range holds are all those from its first address to its last. -/
theorem image_toNat_members :
    Octets.toNat '' (⟨some first, some last⟩ : AddressRange).members =
      Set.Icc first.number last.number := by
  ext value
  simp only [members, Set.mem_image, Set.mem_ofPred_eq, contains_iff_number same, Set.mem_Icc]
  constructor
  · rintro ⟨octets, ⟨address, between, rfl⟩, rfl⟩
    exact between
  · rintro ⟨above, below⟩
    obtain ⟨address, rfl⟩ := IpAddress.exists_number (below.trans_lt last.number_lt)
    exact ⟨address.octets, ⟨address, ⟨above, below⟩, rfl⟩, rfl⟩

end Ends

theorem injOn_toNat_members (range : AddressRange) : Set.InjOn Octets.toNat range.members := by
  rintro _ ⟨one, -, rfl⟩ _ ⟨other, -, rfl⟩ same
  exact (IpAddress.number_eq_iff one other).mp same

theorem members_of_not_isValid {range : AddressRange} (invalid : range.isValid = false) :
    range.members = ∅ := by
  simp [members, contains_of_not_isValid invalid]

theorem finite_members (range : AddressRange) : range.members.Finite := by
  cases valid : range.isValid with
  | false =>
    rw [members_of_not_isValid valid]
    exact Set.finite_empty
  | true =>
    obtain ⟨first, last, rfl, same⟩ := range.isValid_iff.mp valid
    refine Set.Finite.of_finite_image ?_ (injOn_toNat_members _)
    rw [image_toNat_members same]
    exact Set.finite_Icc _ _

/-- The size of a range is the number of the different bytes that it holds. -/
theorem ncard_members (range : AddressRange) : range.members.ncard = range.exactSize := by
  cases valid : range.isValid with
  | false => rw [members_of_not_isValid valid, exactSize_of_not_isValid valid, Set.ncard_empty]
  | true =>
    obtain ⟨first, last, rfl, same⟩ := range.isValid_iff.mp valid
    calc
      (⟨some first, some last⟩ : AddressRange).members.ncard
          = (Set.Icc first.number last.number).ncard := by
        rw [← image_toNat_members same, (injOn_toNat_members _).ncard_image]
      _ = last.number + 1 - first.number := by
        rw [← Finset.coe_Icc, Set.ncard_coe_finset, Nat.card_Icc]
      _ = (⟨some first, some last⟩ : AddressRange).exactSize := (exactSize_of_ends same).symm

theorem apart_iff_inter_eq_empty (one other : AddressRange) :
    one.Apart other ↔ one.members ∩ other.members = ∅ := by
  rw [Set.eq_empty_iff_forall_notMem]
  constructor
  · rintro apart _ ⟨⟨address, within, rfl⟩, ⟨twin, twinWithin, sameOctets⟩⟩
    have outside := apart address within
    have inside : other.contains (some address) = true := by
      rw [contains, ← sameOctets]
      exact twinWithin
    rw [inside] at outside
    cases outside
  · intro disjoint address within
    rw [← Bool.not_eq_true]
    exact fun inside => disjoint _ ⟨⟨address, within, rfl⟩, ⟨address, inside, rfl⟩⟩

end AddressRange

namespace AddressPool

/-- The bytes of the addresses that lie in a pool. -/
def members (pool : AddressPool) : Set Octets :=
  IpAddress.octets '' {address | pool.contains (some address) = true}

theorem members_nil : members ⟨[]⟩ = ∅ := by
  simp [members, contains]

theorem members_cons (range : AddressRange) (ranges : List AddressRange) :
    members ⟨range :: ranges⟩ = range.members ∪ members ⟨ranges⟩ := by
  rw [members, members, AddressRange.members, ← Set.image_union]
  congr 1
  ext address
  simp [contains]

theorem finite_members (ranges : List AddressRange) : (members ⟨ranges⟩).Finite := by
  induction ranges with
  | nil =>
    rw [members_nil]
    exact Set.finite_empty
  | cons range ranges ih =>
    rw [members_cons]
    exact range.finite_members.union ih

theorem inter_members_eq_empty_iff (range : AddressRange) (ranges : List AddressRange) :
    range.members ∩ members ⟨ranges⟩ = ∅ ↔ ∀ other ∈ ranges, range.Apart other := by
  induction ranges with
  | nil => simp [members_nil]
  | cons other ranges ih =>
    rw [members_cons, Set.inter_union_distrib_left, Set.union_empty_iff, ih,
      List.forall_mem_cons, AddressRange.apart_iff_inter_eq_empty]

/-- A pool counts no address too few, and none twice exactly if its ranges are apart. -/
theorem ncard_members (ranges : List AddressRange) :
    (members ⟨ranges⟩).ncard ≤ (ranges.map AddressRange.exactSize).sum ∧
      ((members ⟨ranges⟩).ncard = (ranges.map AddressRange.exactSize).sum ↔
        ranges.Pairwise AddressRange.Apart) := by
  induction ranges with
  | nil => simp [members_nil]
  | cons range ranges ih =>
    obtain ⟨bound, exact⟩ := ih
    -- The sum counts twice exactly what the range shares with the others.
    have together := Set.ncard_union_add_ncard_inter range.members (members ⟨ranges⟩)
      range.finite_members (finite_members ranges)
    have shared : (range.members ∩ members ⟨ranges⟩).ncard = 0 ↔
        ∀ other ∈ ranges, range.Apart other := by
      rw [Set.ncard_eq_zero (range.finite_members.inter_of_left _), inter_members_eq_empty_iff]
    rw [members_cons, List.map_cons, List.sum_cons, List.pairwise_cons, ← shared, ← exact]
    rw [range.ncard_members] at together
    constructor <;> omega

theorem exactSize_eq_sum (pool : AddressPool) :
    pool.exactSize = (pool.ranges.map AddressRange.exactSize).sum := rfl

theorem exactSize_le_of_mem {pool : AddressPool} {range : AddressRange}
    (member : range ∈ pool.ranges) : range.exactSize ≤ pool.exactSize := by
  rw [exactSize_eq_sum]
  exact List.le_sum_of_mem (List.mem_map_of_mem member)

end AddressPool

theorem withinLimit_eq_some_iff (count size : Nat) :
    withinLimit count = some size ↔ count ≤ sizeLimit ∧ count = size := by
  unfold withinLimit
  split <;> simp <;> omega

namespace AddressPool

/-- Sizes and membership agree.  The size of a range is the number of the different bytes that
it holds, none if it is not valid; a pool holds what one of its ranges holds, and its size is
the sum of theirs, unless this exceeds the limit.  The sum is the number of the different
bytes that the pool holds exactly if no address lies in two of the ranges, and more otherwise;
and where it is within the limit, so is every range. -/
theorem size_agrees_with_members (pool : AddressPool) :
    (∀ range : AddressRange,
      range.members.Finite ∧ range.members.ncard = range.exactSize ∧
        (range.isValid = false →
          range.exactSize = 0 ∧ ∀ address, range.contains address = false)) ∧
    (∀ address, pool.contains address = true ↔
      ∃ range ∈ pool.ranges, range.contains address = true) ∧
    (let total := (pool.ranges.map AddressRange.exactSize).sum
     (pool.size? = none ↔ 2 ^ 63 - 1 < total) ∧
     (∀ size, pool.size? = some size → size = total) ∧
     pool.members.Finite ∧ pool.members.ncard ≤ total ∧
     (pool.members.ncard = total ↔ pool.ranges.Pairwise AddressRange.Apart)) ∧
    (pool.size? ≠ none → ∀ range ∈ pool.ranges, range.size? = some range.exactSize) := by
  obtain ⟨bound, exact⟩ := ncard_members pool.ranges
  refine ⟨fun range => ?_, pool.contains_iff, ⟨?_, ?_, finite_members pool.ranges, bound, exact⟩, ?_⟩
  · exact ⟨range.finite_members, range.ncard_members, fun invalid =>
      ⟨AddressRange.exactSize_of_not_isValid invalid,
        AddressRange.contains_of_not_isValid invalid⟩⟩
  · rw [size?, withinLimit, exactSize_eq_sum, sizeLimit]
    split <;> simp <;> omega
  · intro size sized
    exact ((withinLimit_eq_some_iff _ _).mp sized).2.symm
  · intro sized range member
    obtain ⟨size, sized⟩ := Option.ne_none_iff_exists'.mp sized
    have within := ((withinLimit_eq_some_iff _ _).mp sized).1
    exact (withinLimit_eq_some_iff _ _).mpr ⟨(exactSize_le_of_mem member).trans within, rfl⟩

end AddressPool

end LeaseRoster
