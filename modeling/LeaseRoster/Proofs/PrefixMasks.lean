import LeaseRoster.Proofs.AddressTexts
import LeaseRoster.Proofs.Numerals
import Mathlib.Data.List.DropRight
import Mathlib.Data.Nat.Bitwise

/-!
# Netmasks and the prefixes that they name

A netmask is recognised by counting its ones and comparing it with the mask of as many leading
ones.  This accepts exactly the addresses whose leading bits are ones and whose other bits are
zeros, and tells how many ones there are.  A netmask written as a number is its decimal
digits, of any script; no such text is an address.
-/

namespace LeaseRoster

namespace Text

theorem strip_strip (text : List Char) : strip (strip text) = strip text := by
  have kept : (strip text).dropWhile isBlank = strip text := by
    rw [List.dropWhile_eq_self_iff]
    intro positive
    have front : strip text <+: text.dropWhile isBlank := List.rdropWhile_prefix _ _
    have opened : 0 < (text.dropWhile isBlank).length := positive.trans_le front.length_le
    rw [front.getElem positive]
    exact List.dropWhile_get_zero_not isBlank text opened
  rw [strip, kept]
  exact List.rdropWhile_idempotent isBlank _

end Text

/-! ## Addresses as masks -/

namespace IpAddress

theorem bits_lt (address : IpAddress) : address.bits < 2 ^ address.width := by
  cases address with
  | v4 bits => exact bits.isLt
  | v6 bits scope => exact bits.isLt

theorem width_eq_iff (one other : IpAddress) :
    one.width = other.width ↔ one.version = other.version := by
  cases one <;> cases other <;> simp [width, version]

theorem readGroups?_of_colonless {address : List Char} (colon : ':' ∉ address) :
    readGroups? address = none := by
  rw [readGroups?, groupParts?, Text.pieces_of_not_mem colon]
  rfl

theorem eq_takeWhile_of_splitScope? {text address : List Char} {scope : Option String}
    (opened : splitScope? text = some (address, scope)) :
    address = text.takeWhile (· != '%') := by
  unfold splitScope? at opened
  split at opened
  · cases opened
    rfl
  · split at opened <;> cases opened
    rfl

/-- A text without points and colons is no address. -/
theorem read?_of_plain {text : List Char} (point : '.' ∉ text) (colon : ':' ∉ text) :
    read? text = none := by
  have undotted : readDotted? text = none := by
    rw [readDotted?, Text.pieces_of_not_mem point]
    cases read : readOctet? text <;> simp [read]
  have ungrouped : readSix? text = none := by
    unfold readSix?
    split
    · rfl
    · cases opened : splitScope? text with
      | none => rfl
      | some parts =>
        have front := eq_takeWhile_of_splitScope? opened
        have colonless : ':' ∉ parts.1 := fun member =>
          colon ((List.takeWhile_prefix _).subset (front ▸ member))
        simp [readGroups?_of_colonless colonless]
  rw [read?, undotted]
  exact ungrouped

end IpAddress

namespace Netmask

theorem onesIn_le (width value : Nat) : onesIn width value ≤ width := by
  induction width generalizing value with
  | zero => exact Nat.le_refl 0
  | succ width ih =>
    have others := ih (value / 2)
    rw [onesIn]
    omega

theorem mask_self_succ (width : Nat) : mask (width + 1) (width + 1) = 2 * mask width width + 1 := by
  have positive : 0 < 2 ^ width := Nat.two_pow_pos width
  simp only [mask, Nat.sub_self, Nat.pow_eq, pow_zero, pow_succ]
  omega

theorem mask_succ {width length : Nat} (fits : length ≤ width) :
    mask (width + 1) length = 2 * mask width length := by
  simp only [mask, Nat.succ_sub fits, Nat.pow_eq, pow_succ]
  rw [← Nat.mul_assoc, Nat.mul_comm 2]

/-- The mask of some leading ones has as many. -/
theorem onesIn_mask {width length : Nat} (fits : length ≤ width) :
    onesIn width (mask width length) = length := by
  induction width generalizing length with
  | zero =>
    obtain rfl := Nat.le_zero.mp fits
    rfl
  | succ width ih =>
    rcases Nat.lt_or_eq_of_le fits with shorter | rfl
    · have fits := Nat.lt_succ_iff.mp shorter
      rw [mask_succ fits, onesIn, Nat.mul_mod_right, Nat.mul_div_cancel_left _ Nat.two_pos,
        ih fits, Nat.zero_add]
    · have half : (2 * mask width width + 1) / 2 = mask width width := by omega
      rw [mask_self_succ, onesIn, half, ih (Nat.le_refl width)]
      omega

theorem testBit_mask {width length : Nat} (fits : length ≤ width) (place : Nat) :
    (mask width length).testBit place =
      decide (width - length ≤ place ∧ place < width) := by
  rw [mask, Nat.pow_eq, Nat.pow_eq, Nat.testBit_mul_two_pow, Nat.testBit_two_pow_sub_one,
    Bool.decide_and]
  by_cases above : width - length ≤ place
  · simp only [above, decide_true, Bool.true_and, decide_eq_decide]
    omega
  · simp [above]

/-- The first bits of a number are ones and the others zeros exactly if it is the mask. -/
theorem eq_mask_iff {width length value : Nat} (fits : length ≤ width)
    (small : value < 2 ^ width) :
    value = mask width length ↔
      ∀ place < width, value.testBit place = decide (width - length ≤ place) := by
  constructor
  · rintro rfl place inside
    simp [testBit_mask fits, inside]
  · intro leading
    apply Nat.eq_of_testBit_eq
    intro place
    rw [testBit_mask fits]
    by_cases inside : place < width
    · simp [leading place inside, inside]
    · have beyond : value < 2 ^ place :=
        small.trans_le (Nat.pow_le_pow_right Nat.two_pos (Nat.not_lt.mp inside))
      simp [Nat.testBit_lt_two_pow beyond, inside]

/-- A text tells that the first `length` of `width` bits count: by the decimal digits of that
number, or by an address of so many bits whose first ones are ones and all others zeros. -/
inductive Tells (width length : Nat) (text : List Char) : Prop
  | numeral {digits : List Nat}
      (read : (Text.strip text).mapM Text.decimalValue? = some digits)
      (short : digits.length ≤ Text.numeralLimit)
      (denoted : Text.ofDigits 10 digits = length)
  | mask {address : IpAddress} (read : IpAddress.readStripped? text = some address)
      (wide : address.width = width)
      (leading : ∀ place < width,
        address.bits.testBit place = decide (width - length ≤ place))

/-- A text denotes a prefix: it tells how many bits count, and these are some and not too
many. -/
structure Denotes (width length : Nat) (text : List Char) : Prop where
  positive : 0 < length
  fits : length ≤ width
  tells : Tells width length text

theorem ofAddress?_eq_some_iff (width length : Nat) (address : IpAddress) :
    ofAddress? width address = some length ↔
      address.width = width ∧ 0 < length ∧ length ≤ width ∧
        ∀ place < width, address.bits.testBit place = decide (width - length ≤ place) := by
  unfold ofAddress?
  by_cases wide : address.width = width
  · have small : address.bits < 2 ^ width := wide ▸ address.bits_lt
    simp only [wide, beq_self_eq_true, if_true, true_and, Option.ite_none_right_eq_some,
      Bool.and_eq_true, bne_iff_ne, beq_iff_eq, Option.some.injEq]
    constructor
    · rintro ⟨⟨some_ones, isMask⟩, rfl⟩
      have fits := onesIn_le width address.bits
      exact ⟨Nat.pos_of_ne_zero some_ones, fits, (eq_mask_iff fits small).mp isMask⟩
    · rintro ⟨positive, fits, leading⟩
      have isMask := (eq_mask_iff fits small).mpr leading
      have ones : onesIn width address.bits = length := by rw [isMask, onesIn_mask fits]
      rw [ones]
      exact ⟨⟨positive.ne', isMask⟩, rfl⟩
  · simp [wide]

theorem readStripped?_strip (text : List Char) :
    IpAddress.readStripped? (Text.strip text) = IpAddress.readStripped? text := by
  rw [IpAddress.readStripped?, IpAddress.readStripped?, Text.strip_strip]

theorem readStripped?_of_digits {text : List Char}
    (like : ∀ character ∈ Text.strip text, Text.isDigitLike character = true) :
    IpAddress.readStripped? text = none := by
  refine IpAddress.read?_of_plain (fun point => ?_) fun colon => ?_
  · exact absurd (like _ point) (by decide)
  · exact absurd (like _ colon) (by decide)

/-- Of a text of digits the number is read that they denote. -/
theorem read_of_digits {text : List Char} (nonempty : Text.strip text ≠ [])
    (like : ∀ character ∈ Text.strip text, Text.isDigitLike character = true)
    (width length : Nat) :
    read text width = .ok (some length) ↔ Denotes width length text := by
  have digits : (!(Text.strip text).isEmpty && (Text.strip text).all Text.isDigitLike) = true := by
    simpa [nonempty] using like
  have numeral := Text.readInt_eq_ok_iff like nonempty
  simp only [read, digits, if_true]
  constructor
  · intro known
    cases value : Text.readInt (Text.strip text) with
    | error fault => simp [value] at known
    | ok number =>
      obtain ⟨values, read, short, rfl⟩ := (numeral number).mp value
      obtain ⟨⟨positive, fits⟩, rfl⟩ : (0 < Text.ofDigits 10 values ∧
          Text.ofDigits 10 values ≤ width) ∧ Text.ofDigits 10 values = length := by
        simpa [value] using known
      exact ⟨positive, fits, .numeral read short rfl⟩
  · rintro ⟨positive, fits, tells⟩
    cases tells with
    | numeral read short denoted =>
      have value := (numeral length).mpr ⟨_, read, short, congrArg Int.ofNat denoted⟩
      simp [value, positive, fits]
    | mask read wide leading =>
      rw [readStripped?_of_digits like] at read
      cases read

/-- Of any other text the address is read that is a mask. -/
theorem read_of_other {text : List Char}
    (other : (!(Text.strip text).isEmpty && (Text.strip text).all Text.isDigitLike) = false)
    (width length : Nat) :
    read text width = .ok (some length) ↔ Denotes width length text := by
  simp only [read, other, Bool.false_eq_true, if_false, readStripped?_strip, pure, Except.pure,
    Except.ok.injEq, Option.bind_eq_some_iff, ofAddress?_eq_some_iff]
  constructor
  · rintro ⟨address, read, wide, positive, fits, leading⟩
    exact ⟨positive, fits, .mask read wide leading⟩
  · rintro ⟨positive, fits, tells⟩
    cases tells with
    | mask read wide leading => exact ⟨_, read, wide, positive, fits, leading⟩
    | @numeral digits read short denoted =>
      -- Decimal digits are digits, so the text would have been read as a numeral.
      exfalso
      have like : ∀ character ∈ Text.strip text, Text.isDigitLike character = true := by
        intro character member
        cases value : Text.decimalValue? character with
        | some value => exact Text.isDigitLike_of_decimalValue? value
        | none =>
          rw [Text.mapM_eq_none_of_mem member value] at read
          cases read
      have nonempty : Text.strip text ≠ [] := by
        intro empty
        rw [empty] at read
        cases read
        exact positive.ne denoted
      have digits :
          (!(Text.strip text).isEmpty && (Text.strip text).all Text.isDigitLike) = true := by
        simpa [nonempty] using like
      rw [digits] at other
      cases other

/-- What is read of a text is the prefix that it denotes. -/
theorem read_eq_some_iff (text : List Char) (width length : Nat) :
    read text width = .ok (some length) ↔ Denotes width length text := by
  cases digits : !(Text.strip text).isEmpty && (Text.strip text).all Text.isDigitLike with
  | false => exact read_of_other digits width length
  | true =>
    rw [Bool.and_eq_true, Bool.not_eq_true', List.all_eq_true] at digits
    exact read_of_digits (by simpa using digits.1) digits.2 width length

end Netmask

end LeaseRoster
