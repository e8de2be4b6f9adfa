import LeaseRoster.Proofs.MacSpellings
import LeaseRoster.Proofs.PrefixMasks

/-!
# Texts of netmasks

A text tells how many leading bits count by a decimal number or by a mask, an address of so many
ones with zeros behind them, whatever blanks surround it.  An address of another kind never tells
a number: one that starts with a zero, as the zero mask and the inverse of every mask do, one in
which a zero has a one behind it, and one of the other family.
-/

namespace LeaseRoster

namespace IpAddress

/-! ## Bits from the front -/

/-- The bits of an address, the highest one in front. -/
def bitList (address : IpAddress) : List Bool :=
  (List.range address.width).map fun place => address.bits.testBit (address.width - 1 - place)

/-- An address is the mask of some leading bits: so many ones and behind them zeros only. -/
def IsMask (address : IpAddress) (length : Nat) : Prop :=
  address.bitList = List.replicate length true ++ List.replicate (address.width - length) false

instance (address : IpAddress) (length : Nat) : Decidable (address.IsMask length) :=
  inferInstanceAs (Decidable (address.bitList = _))

/-- An address is the inverse of the mask of some leading bits. -/
def IsInverseMask (address : IpAddress) (length : Nat) : Prop :=
  address.bitList = List.replicate length false ++ List.replicate (address.width - length) true

instance (address : IpAddress) (length : Nat) : Decidable (address.IsInverseMask length) :=
  inferInstanceAs (Decidable (address.bitList = _))

theorem ones_zeros_eq_map {length width : Nat} (fits : length ≤ width) :
    List.replicate length true ++ List.replicate (width - length) false =
      (List.range width).map fun place => decide (place < length) := by
  refine List.ext_getElem (by simp [fits]) fun place _ _ => ?_
  by_cases early : place < length
  · simp [early]
  · simp [early, Nat.not_lt.mp early]

theorem isMask_iff {address : IpAddress} {length : Nat} (fits : length ≤ address.width) :
    address.IsMask length ↔
      ∀ place < address.width,
        address.bits.testBit place = decide (address.width - length ≤ place) := by
  rw [IsMask, ones_zeros_eq_map fits, bitList, List.map_inj_left]
  simp only [List.mem_range]
  -- Bits are counted from the front on the left and from the end on the right.
  constructor
  · intro bits place inside
    have bit := bits (address.width - 1 - place) (by omega)
    rw [Nat.sub_sub_self (by omega)] at bit
    rw [bit, decide_eq_decide]
    omega
  · intro bits place inside
    rw [bits _ (by omega), decide_eq_decide]
    omega

theorem head?_bitList (address : IpAddress) :
    address.bitList.head? = some (address.bits.testBit (address.width - 1)) := by
  cases address <;> simp [bitList, width, List.head?_range]

theorem IsMask.head? {address : IpAddress} {length : Nat} (isMask : address.IsMask length)
    (positive : 0 < length) : address.bitList.head? = some true := by
  obtain ⟨others, rfl⟩ := Nat.exists_eq_succ_of_ne_zero positive.ne'
  rw [isMask, List.replicate_succ]
  rfl

theorem IsInverseMask.head? {address : IpAddress} {length : Nat}
    (inverse : address.IsInverseMask length) (positive : 0 < length) :
    address.bitList.head? = some false := by
  obtain ⟨others, rfl⟩ := Nat.exists_eq_succ_of_ne_zero positive.ne'
  rw [inverse, List.replicate_succ]
  rfl

/-- In a mask a bit is a one if there is a one behind it. -/
theorem IsMask.pairwise {address : IpAddress} {length : Nat} (isMask : address.IsMask length) :
    address.bitList.Pairwise fun first second => second = true → first = true := by
  rw [isMask, List.pairwise_append]
  refine ⟨List.pairwise_replicate.mpr (.inr id), List.pairwise_replicate.mpr (.inr id), ?_⟩
  intro first member _ _ _
  exact List.eq_of_mem_replicate member

/-! ## What is no mask -/

/-- Whether the bits of an address cannot be a mask of some of them: all are zeros, the first
ones are zeros and the others ones, or a one comes behind a zero. -/
inductive IsBroken (address : IpAddress) : Prop
  | zero (zero : address.bits = 0)
  | inverse {length : Nat} (positive : 0 < length) (inverse : address.IsInverseMask length)
  | gap {front middle back : List Bool}
      (gap : address.bitList = front ++ false :: (middle ++ true :: back))

theorem IsBroken.not_isMask {address : IpAddress} (broken : address.IsBroken) {length : Nat}
    (positive : 0 < length) : ¬ address.IsMask length := by
  intro isMask
  have first := isMask.head? positive
  cases broken with
  | zero zero =>
    rw [head?_bitList, zero, Nat.zero_testBit] at first
    cases first
  | inverse some_bits inverse =>
    rw [inverse.head? some_bits] at first
    cases first
  | gap gap =>
    have ordered := isMask.pairwise
    rw [gap, List.pairwise_append, List.pairwise_cons] at ordered
    exact Bool.noConfusion (ordered.2.1.1 true (by simp) rfl)

end IpAddress

/-! ## Readings -/

namespace Netmask

theorem ofAddress?_eq_some_iff_isMask (width length : Nat) (address : IpAddress) :
    ofAddress? width address = some length ↔
      address.width = width ∧ 0 < length ∧ length ≤ width ∧ address.IsMask length := by
  rw [ofAddress?_eq_some_iff]
  constructor
  · rintro ⟨rfl, positive, fits, leading⟩
    exact ⟨rfl, positive, fits, (IpAddress.isMask_iff fits).mpr leading⟩
  · rintro ⟨rfl, positive, fits, isMask⟩
    exact ⟨rfl, positive, fits, (IpAddress.isMask_iff fits).mp isMask⟩

theorem denotes_iff (width length : Nat) (text : List Char) :
    Denotes width length text ↔
      0 < length ∧ length ≤ width ∧
        ((∃ digits, (Text.strip text).mapM Text.decimalValue? = some digits ∧
            digits.length ≤ Text.numeralLimit ∧ Text.ofDigits 10 digits = length) ∨
          ∃ address, IpAddress.read? (Text.strip text) = some address ∧
            address.width = width ∧ address.IsMask length) := by
  constructor
  · rintro ⟨positive, fits, tells⟩
    refine ⟨positive, fits, ?_⟩
    cases tells with
    | numeral read short denoted => exact .inl ⟨_, read, short, denoted⟩
    | mask read wide leading =>
      subst wide
      exact .inr ⟨_, read, rfl, (IpAddress.isMask_iff fits).mpr leading⟩
  · rintro ⟨positive, fits, ⟨digits, read, short, denoted⟩ | ⟨address, read, rfl, isMask⟩⟩
    · exact ⟨positive, fits, .numeral read short denoted⟩
    · exact ⟨positive, fits, .mask read rfl ((IpAddress.isMask_iff fits).mp isMask)⟩

theorem denotes_surrounded {before after : List Char}
    (opening : ∀ character ∈ before, Text.isBlank character = true)
    (closing : ∀ character ∈ after, Text.isBlank character = true)
    (width length : Nat) (form : List Char) :
    Denotes width length (before ++ form ++ after) ↔ Denotes width length form := by
  rw [denotes_iff, denotes_iff, Text.strip_surrounded opening closing]

theorem denotes_decimal {width length : Nat} (positive : 0 < length) (fits : length ≤ width)
    (short : (Text.decimal length).length ≤ Text.numeralLimit) :
    Denotes width length (Text.decimal length) := by
  obtain ⟨digits, -, bounded, written, denoted⟩ := Text.exists_digits_decimal length
  have clear : ∀ character ∈ Text.decimal length, Text.isBlank character = false := by
    intro character member
    apply Text.not_isBlank_of_isDigitLike
    rw [Text.isDigitLike, Text.isDecimal_of_mem_decimal member, Bool.true_or]
  have read : (Text.strip (Text.decimal length)).mapM Text.decimalValue? = some digits := by
    rw [Text.strip_eq_self clear, written]
    exact Text.mapM_map_eq_some fun digit member =>
      Text.decimalValue?_digitChar (bounded digit member)
  refine ⟨positive, fits, .numeral read ?_ denoted⟩
  rwa [written, List.length_map] at short

theorem read_of_address {text : List Char} {address : IpAddress}
    (known : IpAddress.readStripped? text = some address) (width : Nat) :
    read text width = .ok (ofAddress? width address) := by
  have other :
      (!(Text.strip text).isEmpty && (Text.strip text).all Text.isDigitLike) = false := by
    rw [Bool.eq_false_iff]
    intro digits
    rw [Bool.and_eq_true, List.all_eq_true] at digits
    rw [readStripped?_of_digits digits.2] at known
    cases known
  simp [read, other, readStripped?_strip, known, pure, Except.pure]

/-- Of an address that is no mask no number is read. -/
theorem read_eq_none_of_address {text : List Char} {address : IpAddress} {width : Nat}
    (known : IpAddress.readStripped? text = some address)
    (other : address.width ≠ width ∨ address.IsBroken) : read text width = .ok none := by
  rw [read_of_address known]
  refine congrArg Except.ok (Option.eq_none_iff_forall_ne_some.mpr fun length found => ?_)
  obtain ⟨wide, positive, -, isMask⟩ := (ofAddress?_eq_some_iff_isMask _ _ _).mp found
  rcases other with foreign | broken
  · exact foreign wide
  · exact broken.not_isMask positive isMask

/-- A number of leading bits is read exactly from the decimal digits of a number that is neither
zero nor too large and from the addresses of the family that have so many ones and then zeros.
The plain decimal text of a number is such a text, every text that is read as its mask is one, and
both stay such texts between blanks.  An address of the other family, the zero mask, the inverse of
a mask and an address with a one behind a zero give no number. -/
theorem contiguous_masks_recognised {width : Nat} (known : width = 32 ∨ width = 128) :
    (∀ text length, read text width = .ok (some length) ↔
      0 < length ∧ length ≤ width ∧
        ((∃ digits, (Text.strip text).mapM Text.decimalValue? = some digits ∧
            digits.length ≤ Text.numeralLimit ∧ Text.ofDigits 10 digits = length) ∨
          ∃ address, IpAddress.read? (Text.strip text) = some address ∧
            address.width = width ∧ address.IsMask length)) ∧
    (∀ length before after, 0 < length → length ≤ width →
      (∀ character ∈ before, Text.isBlank character = true) →
      (∀ character ∈ after, Text.isBlank character = true) →
        read (before ++ Text.decimal length ++ after) width = .ok (some length) ∧
        ∀ form address, IpAddress.readStripped? form = some address →
          address.width = width → address.IsMask length →
            read (before ++ form ++ after) width = .ok (some length)) ∧
    ∀ text address, IpAddress.readStripped? text = some address →
      address.width ≠ width ∨ address.IsBroken → read text width = .ok none := by
  refine ⟨fun text length => (read_eq_some_iff _ _ _).trans (denotes_iff _ _ _), ?_,
    fun text address => read_eq_none_of_address⟩
  intro length before after positive fits opening closing
  constructor
  · have few : (Text.decimal length).length ≤ 3 :=
      Nat.toDigits_length 10 length 3 (by decide) (by omega)
    rw [read_eq_some_iff, denotes_surrounded opening closing]
    exact denotes_decimal positive fits (few.trans (by decide))
  · intro form address readForm wide isMask
    rw [read_eq_some_iff, denotes_surrounded opening closing, denotes_iff]
    exact ⟨positive, fits, .inr ⟨address, readForm, wide, isMask⟩⟩

/-- A mask of twenty bits in capitals, in a scope and between blanks is read, and so are the digits
of twenty in another script; its inverse, a mask of the other family and bits with a gap are not. -/
theorem twenty_bits_read_between_blanks :
    read "\t FFFF:f000::0.0.0.0%eth0\n".toList 128 = .ok (some 20) ∧
      read "٢٠ ".toList 32 = .ok (some 20) ∧
      read "0.0.15.255".toList 32 = .ok none ∧
      read "255.0.255.0".toList 32 = .ok none ∧
      read "255.255.240.0".toList 128 = .ok none := by
  obtain ⟨-, forms, others⟩ := contiguous_masks_recognised (.inr rfl)
  obtain ⟨texts, -, plainOthers⟩ := contiguous_masks_recognised (.inl rfl)
  refine ⟨?_, ?_, ?_, ?_, ?_⟩
  · have opening : "\t ".toList.all Text.isBlank = true := by decide
    have closing : "\n".toList.all Text.isBlank = true := by decide
    refine (forms 20 _ _ (by decide) (by decide) (List.all_eq_true.mp opening)
      (List.all_eq_true.mp closing)).2
      "FFFF:f000::0.0.0.0%eth0".toList (.v6 0xfffff000000000000000000000000000 (some "eth0"))
      ?_ rfl ?_
    · decide +kernel
    · decide +kernel
  · refine (texts _ 20).mpr ⟨by decide, by decide, .inl ⟨[2, 0], ?_, by decide, by decide⟩⟩
    decide +kernel
  · refine plainOthers _ (.v4 0x00000fff) (by decide +kernel) (.inr ?_)
    exact .inverse (show 0 < 20 by decide) (by decide +kernel)
  · refine plainOthers _ (.v4 0xff00ff00) (by decide +kernel) (.inr ?_)
    have bits : (IpAddress.v4 0xff00ff00).bitList = List.replicate 8 true ++
        false :: (List.replicate 7 false ++ true :: (List.replicate 7 true ++
          List.replicate 8 false)) := by decide +kernel
    exact .gap bits
  · exact others _ (.v4 0xfffff000) (by decide +kernel) (.inl (by decide))

end Netmask

end LeaseRoster
