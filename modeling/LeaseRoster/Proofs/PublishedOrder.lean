import LeaseRoster.Client
import LeaseRoster.Proofs.MacSpellings
import Mathlib.Data.String.Basic

/-!
# The orders in which clients are published

Past clients are published by their last sighting, live ones by the bytes of their internet
address, and both then by their hardware address.  The number of a hardware address orders
it as its written form does, and bytes are ordered as lists are, so that the order of live
clients is one that every list can be sorted by, and by its keys it tells two clients apart.
-/

namespace LeaseRoster

namespace MacAddress

open Text (hexDigit)

theorem hexDigit_lt_iff (first second : Fin 16) :
    hexDigit first < hexDigit second ↔ first < second := by
  revert first second
  decide

theorem hexDigit_eq_iff (first second : Fin 16) :
    hexDigit first = hexDigit second ↔ first = second := by
  revert first second
  decide

/-- As many digits are written in the order of the digits. -/
theorem pairsText_lt_iff {first second : List (Fin 16)}
    (length : first.length = second.length) :
    pairsText first < pairsText second ↔ first < second := by
  fun_induction pairsText first generalizing second with
  | case1 =>
    obtain rfl := List.length_eq_zero_iff.mp length.symm
    simp [pairsText]
  | case2 digit =>
    obtain ⟨other, rfl⟩ := List.length_eq_one_iff.mp length.symm
    simp [pairsText, List.cons_lt_cons_iff, hexDigit_lt_iff]
  | case3 high low =>
    obtain ⟨left, right, rfl⟩ := List.length_eq_two.mp length.symm
    simp [pairsText, List.cons_lt_cons_iff, hexDigit_lt_iff, hexDigit_eq_iff]
  | case4 high low rest more ih =>
    match second, length with
    | left :: right :: others, length =>
      have lengths : rest.length = others.length := by simpa using length
      have further : others ≠ [] := by
        rintro rfl
        exact more (List.length_eq_zero_iff.mp lengths)
      rw [pairsText.eq_4 left right others further]
      simp [List.cons_lt_cons_iff, hexDigit_lt_iff, hexDigit_eq_iff, ih lengths]

/-- As many digits come to numbers in the order of the digits. -/
theorem foldl_digits_lt_iff {first second : List (Fin 16)}
    (length : first.length = second.length) (start other : Nat) :
    first.foldl (fun value digit => value * 16 + digit.val) start <
        second.foldl (fun value digit => value * 16 + digit.val) other ↔
      start < other ∨ start = other ∧ first < second := by
  induction first generalizing second start other with
  | nil =>
    obtain rfl := List.length_eq_zero_iff.mp length.symm
    simp
  | cons digit digits ih =>
    obtain ⟨last, rest, rfl⟩ := List.exists_of_length_succ second length.symm
    have lengths : digits.length = rest.length := Nat.succ.inj length
    have digitSmall := digit.isLt
    have lastSmall := last.isLt
    rw [List.foldl_cons, List.foldl_cons, ih lengths, List.cons_lt_cons_iff, Fin.lt_def,
      Fin.ext_iff]
    by_cases behind : digits < rest
    · simp only [behind, and_true]
      omega
    · simp only [behind, and_false, or_false]
      omega

/-- Hardware addresses are ordered by their numbers as by their written forms. -/
theorem toString_lt_iff (first second : MacAddress) :
    first.toString < second.toString ↔ first.value < second.value := by
  have length := first.length_eq.trans second.length_eq.symm
  have numbers := foldl_digits_lt_iff length 0 0
  simp only [lt_irrefl, false_or, true_and] at numbers
  rw [String.lt_iff_toList_lt, toString, toString, String.toList_ofList, String.toList_ofList,
    text, text, pairsText_lt_iff length, ← numbers]
  simp [value, Text.ofDigits, List.foldl_map]

end MacAddress

namespace Octets

/-- As many bytes are ordered as the numbers that they denote. -/
theorem le_iff_toNat_le {left right : Octets} (length : left.length = right.length) :
    le left right = true ↔ toNat left ≤ toNat right := by
  -- The fold carries what the bytes in front denote, and a difference there decides.
  suffices folded : ∀ start other : Nat,
      left.foldl (fun value byte => value * 256 + byte.toNat) start ≤
          right.foldl (fun value byte => value * 256 + byte.toNat) other ↔
        start < other ∨ start = other ∧ le left right = true by
    simpa [toNat] using (folded 0 0).symm
  induction left generalizing right with
  | nil =>
    obtain rfl := List.length_eq_zero_iff.mp length.symm
    intro start other
    simp [le, Nat.le_iff_lt_or_eq]
  | cons byte bytes ih =>
    obtain ⟨last, rest, rfl⟩ := List.exists_of_length_succ right length.symm
    intro start other
    have byteSmall := byte.toNat_lt
    have lastSmall := last.toNat_lt
    rw [List.foldl_cons, List.foldl_cons, ih (Nat.succ.inj length), le]
    simp only [UInt8.lt_iff_toNat_lt]
    split
    · simp only [and_true]
      omega
    · split
      · simp only [Bool.false_eq_true, and_false, or_false]
        omega
      · cases further : le bytes rest with
        | true =>
          simp only [and_true]
          omega
        | false =>
          simp only [Bool.false_eq_true, and_false, or_false]
          omega

theorem le_antisymm {left right : Octets} (before : le left right = true)
    (behind : le right left = true) : left = right := by
  fun_induction le left right with
  | case1 right =>
    cases right with
    | nil => rfl
    | cons byte bytes => cases behind
  | case2 => cases before
  | case3 byte bytes last rest less =>
    have notMore : ¬ last < byte := UInt8.lt_asymm less
    simp [le, less, notMore] at behind
  | case4 => cases before
  | case5 byte bytes last rest notLess notMore ih =>
    simp only [le, notLess, notMore, if_false] at behind
    rw [ih before behind, UInt8.le_antisymm (UInt8.not_lt.mp notMore) (UInt8.not_lt.mp notLess)]

/-- As many bytes are told by the number that they denote. -/
theorem eq_of_toNat_eq {left right : Octets} (length : left.length = right.length)
    (same : toNat left = toNat right) : left = right :=
  le_antisymm ((le_iff_toNat_le length).mpr same.le)
    ((le_iff_toNat_le length.symm).mpr same.ge)

end Octets

namespace IpAddress

/-- The number that the bytes of an address denote. -/
def number (address : IpAddress) : Nat := Octets.toNat address.octets

theorem number_eq_iff (left right : IpAddress) :
    left.number = right.number ↔ left.octets = right.octets := by
  have length := left.length_octets.trans right.length_octets.symm
  exact ⟨Octets.eq_of_toNat_eq length, congrArg Octets.toNat⟩

theorem le_octets_iff (left right : IpAddress) :
    Octets.le left.octets right.octets = true ↔ left.number ≤ right.number :=
  Octets.le_iff_toNat_le (left.length_octets.trans right.length_octets.symm)

end IpAddress

namespace LiveClient

theorem le_iff (left right : LiveClient) :
    left.le right = true ↔
      left.lease.address.number < right.lease.address.number ∨
        left.lease.address.number = right.lease.address.number ∧
          left.lease.mac.value ≤ right.lease.mac.value := by
  have told := IpAddress.number_eq_iff left.lease.address right.lease.address
  unfold le
  by_cases same : left.lease.address.octets = right.lease.address.octets
  · simp [same, told.mpr same]
  · have different := mt told.mp same
    rw [if_neg same, IpAddress.le_octets_iff]
    omega

theorem le_trans {first second third : LiveClient} (earlier : first.le second = true)
    (later : second.le third = true) : first.le third = true := by
  rw [le_iff] at earlier later ⊢
  omega

theorem le_total (left right : LiveClient) : (left.le right || right.le left) = true := by
  rw [Bool.or_eq_true, le_iff, le_iff]
  omega

end LiveClient

end LeaseRoster
