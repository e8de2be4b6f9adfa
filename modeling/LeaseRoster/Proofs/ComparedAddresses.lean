import LeaseRoster.Proofs.EnrichedBatches
import LeaseRoster.Proofs.PoolSizes

/-!
# Addresses compared by their bytes

Ranges, registries and lists look at an address only through its sixteen bytes, so values with
the same bytes are never told apart, of whatever version they are and whatever scope they name.
The bytes are ordered as the numbers that they denote, and what cannot be read as an address has
one byte more, all of whose bits are set, and comes behind every address.
-/

namespace LeaseRoster

namespace Octets

theorem toNat_append (front back : Octets) :
    toNat (front ++ back) = toNat front * 256 ^ back.length + toNat back := by
  induction back using List.reverseRecOn with
  | nil => simp [toNat]
  | append_singleton back byte ih =>
    rw [← List.append_assoc, toNat_append_singleton, toNat_append_singleton, ih,
      List.length_append, List.length_singleton, pow_succ]
    ring

/-- Fewer bytes come before bytes of which all bits are set. -/
theorem lt_replicate {octets : Octets} {width : Nat} (short : octets.length < width) :
    octets < List.replicate width 0xff := by
  induction octets generalizing width with
  | nil =>
    obtain ⟨rest, rfl⟩ := Nat.exists_eq_succ_of_ne_zero (Nat.ne_of_gt short)
    exact List.nil_lt_cons _ _
  | cons byte bytes ih =>
    obtain ⟨rest, rfl⟩ := Nat.exists_eq_succ_of_ne_zero (Nat.ne_of_gt (Nat.zero_lt_of_lt short))
    rw [List.replicate_succ, List.cons_lt_cons_iff]
    have greatest : byte ≤ 0xff := UInt8.le_iff_toNat_le.mpr (Nat.le_of_lt_succ byte.toNat_lt)
    rcases UInt8.lt_or_eq_of_le greatest with less | full
    · exact Or.inl less
    · exact Or.inr ⟨full, ih (Nat.lt_of_succ_lt_succ short)⟩

end Octets

namespace IpAddress

/-- An address of version 4 counts as one of version 6 in the fixed block. -/
theorem number_v4 (bits : Fin addressCount4) :
    (IpAddress.v4 bits).number = 0xffff * 2 ^ 32 + bits := by
  have block : Octets.toNat mappedBlock * 256 ^ 4 = 0xffff * 2 ^ 32 := by decide
  rw [number, octets, Octets.toNat_append, Octets.toNat_ofNat, Octets.length_ofNat, block,
    Nat.mod_eq_of_lt (show (bits : Nat) < Nat.pow 256 4 from bits.isLt)]

theorem number_v6 (bits : Fin addressCount6) (scope : Option String) :
    (IpAddress.v6 bits scope).number = bits := by
  rw [number, octets, Octets.toNat_ofNat]
  exact Nat.mod_eq_of_lt bits.isLt

end IpAddress

/-- What is compared as an address: an address, or any other value, which is one if it shows
one when it is written out. -/
inductive AddressValue
  | parsed (address : IpAddress)
  | given (datum : Datum)

namespace AddressValue

/-- The address that a value is, if any. -/
def address? : AddressValue → Option IpAddress
  | .parsed address => some address
  | .given datum => Field.shownAddress? datum

/-- The sixteen bytes of a value, if it is an address. -/
def octets? (value : AddressValue) : Option Octets := value.address?.map IpAddress.octets

/-- The number of a value, if it is an address. -/
def number? (value : AddressValue) : Option Nat := value.address?.map IpAddress.number

/-- The bytes by which a value is sorted. -/
def sortKey (value : AddressValue) : Octets := IpAddress.sortKey value.address?

theorem sortKey_eq (value : AddressValue) :
    value.sortKey = value.octets?.getD IpAddress.unreadableKey := by
  rw [sortKey, octets?]
  cases value.address? <;> rfl

theorem contains_eq (range : AddressRange) (value : AddressValue) :
    range.contains value.address? = value.octets?.any range.containsOctets := by
  rw [octets?]
  cases value.address? <;> rfl

theorem forAddress_eq (registry : Registry) (value : AddressValue) :
    registry.forAddress value.address? = value.octets?.bind registry.byAddress.find? := by
  rw [octets?]
  cases value.address? <;> rfl

theorem exists_address_of_number? {value : AddressValue} {number : Nat}
    (known : value.number? = some number) :
    ∃ address, value.address? = some address ∧ value.sortKey = address.octets ∧
      address.number = number := by
  obtain ⟨address, read, denoted⟩ := Option.map_eq_some_iff.mp known
  exact ⟨address, read, by rw [sortKey, read, IpAddress.sortKey], denoted⟩

section Pair

variable {one other : AddressValue} {first second : Nat} (isFirst : one.number? = some first)
include isFirst

/-- Two addresses are sorted by their numbers. -/
theorem sortKey_lt_iff (isSecond : other.number? = some second) :
    one.sortKey < other.sortKey ↔ first < second := by
  obtain ⟨left, -, leftKey, rfl⟩ := exists_address_of_number? isFirst
  obtain ⟨right, -, rightKey, rfl⟩ := exists_address_of_number? isSecond
  rw [leftKey, rightKey, IpAddress.lt_octets_iff]

theorem sortKey_eq_iff (isSecond : other.number? = some second) :
    one.sortKey = other.sortKey ↔ first = second := by
  obtain ⟨left, -, leftKey, rfl⟩ := exists_address_of_number? isFirst
  obtain ⟨right, -, rightKey, rfl⟩ := exists_address_of_number? isSecond
  rw [leftKey, rightKey, IpAddress.number_eq_iff]

/-- Every address is sorted before what is none. -/
theorem sortKey_lt_of_unread (unread : other.address? = none) :
    one.sortKey < other.sortKey := by
  obtain ⟨address, -, key, -⟩ := exists_address_of_number? isFirst
  rw [key, sortKey, unread]
  exact Octets.lt_replicate (address.length_octets ▸ by decide)

end Pair

theorem contains_iff_number? {start finish : IpAddress}
    (same : start.version = finish.version) (value : AddressValue) :
    (⟨some start, some finish⟩ : AddressRange).contains value.address? = true ↔
      ∃ number, value.number? = some number ∧ start.number ≤ number ∧
        number ≤ finish.number := by
  rw [number?]
  cases value.address? with
  | none => simp [AddressRange.contains]
  | some address => simp [AddressRange.contains_iff_number same]

/-- What is sorted between two values that lie in a range lies in it. -/
theorem contains_of_between {range : AddressRange} {first middle last : AddressValue}
    (firstInside : range.contains first.address? = true)
    (lastInside : range.contains last.address? = true)
    (behind : first.sortKey ≤ middle.sortKey) (before : middle.sortKey ≤ last.sortKey) :
    range.contains middle.address? = true := by
  cases valid : range.isValid with
  | false =>
    rw [AddressRange.contains_of_not_isValid valid] at firstInside
    cases firstInside
  | true =>
    obtain ⟨start, finish, rfl, same⟩ := range.isValid_iff.mp valid
    obtain ⟨low, isLow, above, -⟩ := (contains_iff_number? same first).mp firstInside
    obtain ⟨high, isHigh, -, below⟩ := (contains_iff_number? same last).mp lastInside
    -- A value that is no address is sorted behind the last one.
    have read : middle.address? ≠ none := fun unread =>
      List.not_lt.mpr before (sortKey_lt_of_unread isHigh unread)
    obtain ⟨address, isAddress⟩ := Option.ne_none_iff_exists'.mp read
    have isMiddle : middle.number? = some address.number := by
      rw [number?, isAddress, Option.map_some]
    have lower := mt (sortKey_lt_iff isMiddle isLow).mpr (List.not_lt.mpr behind)
    have upper := mt (sortKey_lt_iff isHigh isMiddle).mpr (List.not_lt.mpr before)
    exact (contains_iff_number? same middle).mpr
      ⟨address.number, isMiddle, by omega, by omega⟩

/-- Addresses are compared by their sixteen bytes alone.  Values with the same bytes lie in the
same ranges and pools, have the same reservation in every registry and are sorted as one.
Addresses are sorted as their numbers of 128 bits, an address of version 4 by that of its
mapped form, and before every value that is none; and what is sorted between two values that a
range holds lies in the range itself. -/
theorem compared_by_octets :
    (∀ one other : AddressValue, one.octets? = other.octets? →
      (∀ range : AddressRange, range.contains one.address? = range.contains other.address?) ∧
      (∀ pool : AddressPool, pool.contains one.address? = pool.contains other.address?) ∧
      (∀ registry : Registry,
        registry.forAddress one.address? = registry.forAddress other.address?) ∧
      one.sortKey = other.sortKey) ∧
    (∀ (one other : AddressValue) (first second : Nat),
      one.number? = some first → other.number? = some second →
        (one.sortKey < other.sortKey ↔ first < second) ∧
        (one.sortKey = other.sortKey ↔ first = second)) ∧
    (∀ bits, (IpAddress.v4 bits).number = 0xffff * 2 ^ 32 + bits) ∧
    (∀ bits scope, (IpAddress.v6 bits scope).number = bits) ∧
    (∀ (one other : AddressValue) (first : Nat), one.number? = some first →
      other.address? = none → one.sortKey < other.sortKey) ∧
    ∀ (range : AddressRange) (first middle last : AddressValue),
      range.contains first.address? = true → range.contains last.address? = true →
        first.sortKey ≤ middle.sortKey → middle.sortKey ≤ last.sortKey →
          range.contains middle.address? = true := by
  refine ⟨?_, fun one other first second isFirst isSecond =>
      ⟨sortKey_lt_iff isFirst isSecond, sortKey_eq_iff isFirst isSecond⟩,
    IpAddress.number_v4, IpAddress.number_v6,
    fun one other first => sortKey_lt_of_unread, fun range first middle last => contains_of_between⟩
  · intro one other same
    have range_contains (range : AddressRange) :
        range.contains one.address? = range.contains other.address? := by
      rw [contains_eq, contains_eq, same]
    refine ⟨range_contains, fun pool => ?_, fun registry => ?_, ?_⟩
    · simp only [AddressPool.contains, range_contains]
    · rw [forAddress_eq, forAddress_eq, same]
    · rw [sortKey_eq, sortKey_eq, same]

/-- A mapped address in a scope lies between two plain ones, however these are given. -/
theorem mapped_between_plain :
    let range := AddressRange.ofTexts "192.168.1.1".toList "192.168.1.100".toList
    let first : AddressValue := .given (.text " 192.168.1.7 ")
    let middle : AddressValue := .given (.text "::ffff:192.168.1.9%eth0")
    let last : AddressValue := .parsed (.v4 0xc0a8010a)
    range.contains first.address? = true ∧ range.contains last.address? = true ∧
      first.sortKey ≤ middle.sortKey ∧ middle.sortKey ≤ last.sortKey ∧
      range.contains middle.address? = true := by
  intro range first middle last
  have firstInside : range.contains first.address? = true := by decide +kernel
  have lastInside : range.contains last.address? = true := by decide +kernel
  have behind : first.sortKey ≤ middle.sortKey := by decide +kernel
  have before : middle.sortKey ≤ last.sortKey := by decide +kernel
  obtain ⟨-, -, -, -, -, between⟩ := compared_by_octets
  exact ⟨firstInside, lastInside, behind, before,
    between range first middle last firstInside lastInside behind before⟩

end AddressValue

end LeaseRoster
