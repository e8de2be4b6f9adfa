import LeaseRoster.Proofs.ConfigurationStops
import LeaseRoster.Proofs.PaddedDecimal
import LeaseRoster.Proofs.PoolSizes
import LeaseRoster.Proofs.PrefixMasks
import LeaseRoster.Reconciler

/-!
# Coherent pools

The rule on a configured pool goes from check to check and builds the network of its first
address from a text.  What passes are exactly the coherent pools: both ends known and of one
version, and with a gateway and a netmask all three addresses private and alike in as many
leading bits as the netmask denotes.  Nothing else fails the rule than a value, and a pool of
ranges that passed it is one that the reconciler takes.
-/

namespace LeaseRoster

/-! ## Networks -/

namespace IpAddress

/-- Two addresses of one version agree in their first `length` bits. -/
def SharesPrefix (length : Nat) (one other : IpAddress) : Prop :=
  ∀ place < length,
    one.bits.testBit (one.width - 1 - place) = other.bits.testBit (one.width - 1 - place)

theorem width_le (address : IpAddress) : address.width ≤ 128 := by
  cases address <;> simp [width]

end IpAddress

namespace Subnet

/-- What is left of two numbers under a mask is the same if its leading bits are. -/
theorem and_mask_eq_iff {width length : Nat} (fits : length ≤ width) (one other : Nat) :
    one &&& Netmask.mask width length = other &&& Netmask.mask width length ↔
      ∀ place < length, one.testBit (width - 1 - place) = other.testBit (width - 1 - place) := by
  constructor
  · intro same place inside
    have bit := congrArg (fun value => value.testBit (width - 1 - place)) same
    have marked : width - length ≤ width - 1 - place ∧ width - 1 - place < width := by omega
    simpa [Netmask.testBit_mask fits, marked] using bit
  · intro same
    apply Nat.eq_of_testBit_eq
    intro place
    rw [Nat.testBit_and, Nat.testBit_and, Netmask.testBit_mask fits]
    by_cases marked : width - length ≤ place ∧ place < width
    · have bit := same (width - 1 - place) (by omega)
      rw [show width - 1 - (width - 1 - place) = place by omega] at bit
      rw [bit]
    · rw [decide_eq_false marked, Bool.and_false, Bool.and_false]

theorem bits_firstAddress (length : Nat) (address : IpAddress) :
    (firstAddress length address).bits =
      address.bits &&& Netmask.mask address.width length := by
  cases address <;> rfl

theorem version_firstAddress (length : Nat) (address : IpAddress) :
    (firstAddress length address).version = address.version := by
  cases address <;> rfl

theorem readLength?_decimal {width length : Nat} (fits : length ≤ width) (narrow : width ≤ 128) :
    readLength? width (Text.decimal length) = some length := by
  obtain ⟨digits, some_digits, bounded, written, denoted⟩ := Text.exists_digits_decimal length
  have short : (Text.decimal length).length ≤ 3 :=
    Nat.toDigits_length 10 length 3 (by decide) (by omega)
  have plain : (Text.decimal length).all Text.isAsciiDigit = true :=
    List.all_eq_true.mpr fun character member => Text.isAsciiDigit_of_mem_decimal member
  have filled : Text.decimal length ≠ [] := by simpa [written] using some_digits
  have values : (Text.decimal length).map (fun character => character.toNat - 0x30) =
      digits := by
    rw [written, List.map_map, ← List.map_id digits, List.map_map]
    exact List.map_congr_left fun digit present => Text.toNat_digitChar (bounded digit present)
  rw [readLength?, if_neg, values, denoted]
  · simp [fits]
  · have within : ¬Text.numeralLimit < (Text.decimal length).length := by
      rw [Text.numeralLimit]
      omega
    simp [filled, plain, within]

/-- The written network of an address holds the addresses that share its first bits. -/
theorem read?_written {address : IpAddress} (writable : address.IsWritable) {length : Nat}
    (fits : length ≤ address.width) :
    ∃ subnet, read? (written address length) = some subnet ∧
      ∀ other, subnet.contains other = true ↔
        other.width = address.width ∧ address.SharesPrefix length other := by
  have slashless : '/' ∉ Text.decimal length := Text.not_mem_decimal (by decide) length
  have parts : Text.pieces (· == '/') (written address length) =
      [address.text, Text.decimal length] := by
    rw [written, Text.pieces_append_cons _ _ _ (by decide),
      Text.pieces_of_not_mem (IpAddress.slash_not_mem_text writable),
      Text.pieces_of_not_mem slashless]
    rfl
  refine ⟨⟨firstAddress length address, length⟩, ?_, fun other => ?_⟩
  · rw [read?, parts]
    simp [IpAddress.read?_text writable, readLength?_decimal fits address.width_le]
  · rw [contains, Bool.and_eq_true, beq_iff_eq, beq_iff_eq, version_firstAddress,
      bits_firstAddress, ← IpAddress.width_eq_iff]
    refine and_congr_right fun wide => ?_
    rw [wide, and_mask_eq_iff fits]
    exact ⟨fun same place inside => (same place inside).symm,
      fun same place inside => (same place inside).symm⟩

end Subnet

/-! ## Pools -/

namespace PoolOptions

/-- A gateway and a netmask suit the ends of a range: the gateway is an address of the same
version, all three are private, and they agree in the bits that the netmask tells. -/
def Suits (first last : IpAddress) (gatewayText netmask : String) : Prop :=
  ∃ gateway length,
    IpAddress.readStripped? gatewayText.toList = some gateway ∧
    gateway.width = first.width ∧
    (first.isPrivate = true ∧ last.isPrivate = true ∧ gateway.isPrivate = true) ∧
    Netmask.Denotes first.width length netmask.toList ∧
    first.SharesPrefix length last ∧ first.SharesPrefix length gateway

/-- A pool is coherent: its ends are addresses of one version, and its gateway and netmask
suit them if neither is missing or empty. -/
def IsCoherent (pool : PoolOptions) : Prop :=
  ∃ first last,
    IpAddress.readStripped? pool.first.toList = some first ∧
    IpAddress.readStripped? pool.last.toList = some last ∧
    first.width = last.width ∧
    ∀ gateway netmask, pool.gateway = some gateway → pool.netmask = some netmask →
      gateway ≠ "" → netmask ≠ "" → Suits first last gateway netmask

theorem setText?_eq_some_iff (text : Option String) (value : String) :
    setText? text = some value ↔ text = some value ∧ value ≠ "" := by
  simp [setText?, Option.filter_eq_some_iff]

theorem checkSubnet_eq_ok_iff (pool : PoolOptions) {length : Nat}
    {first last gateway : IpAddress} (writable : first.IsWritable)
    (sameLast : last.width = first.width) (sameGateway : gateway.width = first.width)
    (fits : length ≤ first.width) :
    pool.checkSubnet length first last gateway = .ok () ↔
      first.SharesPrefix length last ∧ first.SharesPrefix length gateway := by
  obtain ⟨subnet, read, holds⟩ := Subnet.read?_written writable fits
  have lastInside : subnet.contains last = true ↔ first.SharesPrefix length last := by
    rw [holds, and_iff_right sameLast]
  have gatewayInside : subnet.contains gateway = true ↔ first.SharesPrefix length gateway := by
    rw [holds, and_iff_right sameGateway]
  rw [← lastInside, ← gatewayInside]
  simp only [checkSubnet, read]
  cases subnet.contains last <;> cases subnet.contains gateway <;> simp

/-- The rule on a gateway and a netmask holds exactly if they suit the ends. -/
theorem checkCoherence_eq_ok_iff (pool : PoolOptions) {first last : IpAddress}
    (writable : first.IsWritable) (same : last.width = first.width)
    (gatewayText netmask : String) :
    pool.checkCoherence first last gatewayText netmask = .ok () ↔
      Suits first last gatewayText netmask := by
  have denotes (length : Nat) := Netmask.read_eq_some_iff netmask.toList first.width length
  unfold checkCoherence Suits
  -- The rule asks in the order in which the conditions stand, each one of known values.
  cases IpAddress.readStripped? gatewayText.toList with
  | none => simp
  | some gateway =>
    have sameVersion := IpAddress.width_eq_iff gateway first
    by_cases sameGateway : gateway.width = first.width
    case neg => simp [sameGateway, mt sameVersion.mpr sameGateway]
    dsimp only
    rw [if_neg (by simpa using sameVersion.mp sameGateway)]
    by_cases privates :
        first.isPrivate = true ∧ last.isPrivate = true ∧ gateway.isPrivate = true
    case neg =>
      rw [if_pos (by simpa [imp_iff_not_or, or_assoc] using privates)]
      simp [privates]
    rw [if_neg (by simp [privates])]
    cases read : Netmask.read netmask.toList first.width with
    | error fault => simp [← denotes, read]
    | ok known =>
      cases known with
      | none => simp [← denotes, read]
      | some length =>
        have fits := ((denotes length).mp read).fits
        simp only [checkSubnet_eq_ok_iff pool writable same sameGateway fits]
        simp [sameGateway, privates, ← denotes, read]

theorem isValid_range_iff (pool : PoolOptions) :
    pool.range.isValid = true ↔
      ∃ first last, IpAddress.readStripped? pool.first.toList = some first ∧
        IpAddress.readStripped? pool.last.toList = some last ∧ first.width = last.width := by
  simp only [AddressRange.isValid_iff, range, AddressRange.ofTexts, AddressRange.mk.injEq,
    IpAddress.width_eq_iff, and_assoc]

theorem checkNetwork_eq_ok_iff (pool : PoolOptions) {first last : IpAddress}
    (firstRead : IpAddress.readStripped? pool.first.toList = some first)
    (lastRead : IpAddress.readStripped? pool.last.toList = some last)
    (same : first.width = last.width) :
    pool.checkNetwork = .ok () ↔
      ∀ gateway netmask, pool.gateway = some gateway → pool.netmask = some netmask →
        gateway ≠ "" → netmask ≠ "" → Suits first last gateway netmask := by
  have writable : first.IsWritable := IpAddress.isWritable_of_read? firstRead
  have coherent := pool.checkCoherence_eq_ok_iff writable same.symm
  unfold checkNetwork
  simp only [range, AddressRange.ofTexts, firstRead, lastRead]
  split
  next gateway netmask gatewaySet netmaskSet =>
    obtain ⟨gatewayGiven, gatewayFilled⟩ := (setText?_eq_some_iff _ _).mp gatewaySet
    obtain ⟨netmaskGiven, netmaskFilled⟩ := (setText?_eq_some_iff _ _).mp netmaskSet
    simp [coherent, gatewayGiven, netmaskGiven, gatewayFilled, netmaskFilled]
  next unset =>
    simp only [true_iff]
    intro gateway netmask gatewayGiven netmaskGiven gatewayFilled netmaskFilled
    exact absurd ((setText?_eq_some_iff _ _).mpr ⟨netmaskGiven, netmaskFilled⟩)
      (unset _ _ ((setText?_eq_some_iff _ _).mpr ⟨gatewayGiven, gatewayFilled⟩))

theorem check_eq_ok_iff (pool : PoolOptions) : pool.check = .ok () ↔ pool.IsCoherent := by
  unfold check IsCoherent
  cases valid : pool.range.isValid with
  | false =>
    simp only [Bool.false_eq_true, if_false, reduceCtorEq, false_iff]
    rintro ⟨first, last, firstRead, lastRead, same, -⟩
    have isValid := pool.isValid_range_iff.mpr ⟨first, last, firstRead, lastRead, same⟩
    rw [valid] at isValid
    cases isValid
  | true =>
    obtain ⟨first, last, firstRead, lastRead, same⟩ := pool.isValid_range_iff.mp valid
    simp [firstRead, lastRead, same, pool.checkNetwork_eq_ok_iff firstRead lastRead same]

end PoolOptions

namespace Options

theorem checkPools_eq_ok_iff (pools : List PoolOptions) :
    checkPools pools = .ok () ↔ ∀ pool ∈ pools, pool.IsCoherent := by
  simp only [checkPools, forM_eq_ok_iff, PoolOptions.check_eq_ok_iff]

theorem isValid_addressPool {options : Options}
    (accepted : checkPools options.pools = .ok ()) : options.addressPool.isValid = true := by
  rw [addressPool, AddressPool.isValid, List.all_map, List.all_eq_true]
  intro pool member
  obtain ⟨first, last, firstRead, lastRead, same, -⟩ :=
    (checkPools_eq_ok_iff _).mp accepted pool member
  exact pool.isValid_range_iff.mpr ⟨first, last, firstRead, lastRead, same⟩

/-- Options that were read have passed the rule on pools. -/
theorem checkPools_of_read {datum : Datum} {options : Options}
    (accepted : read datum = .accepted options) : checkPools options.pools = .ok () := by
  unfold read Field.record at accepted
  split at accepted
  · obtain ⟨found, -, checked⟩ := (Checked.thenCheck_eq_accepted_iff _ _ _).mp accepted
    obtain ⟨⟨⟩, passed, rfl⟩ := (Checked.map_eq_accepted_iff _ _ _).mp checked
    exact (Checked.ofExcept_eq_accepted_iff _ _).mp passed
  · cases accepted

/-- The rule on pools accepts exactly the lists of coherent pools, fails with a fault about a
value and with no other, and leaves only ranges that a reconciler takes. -/
theorem checkPools_accepts_coherent (pools : List PoolOptions) :
    (checkPools pools = .ok () ↔ ∀ pool ∈ pools, pool.IsCoherent) ∧
    (∀ fault, checkPools pools = .error fault → ∃ reason, fault = .value reason) ∧
    ∀ options : Options, options.pools = pools →
      (checkPools pools = .ok () ∨ ∃ datum, read datum = .accepted options) →
      options.addressPool.isValid = true ∧
      ∀ registry epoch domain workers,
        Reconciler.create options.addressPool registry (.whole epoch) domain (.whole workers) =
          .ok ⟨options.addressPool, registry, epoch, domain, max 1 workers⟩ := by
  refine ⟨checkPools_eq_ok_iff pools, fun fault fails => ?_, ?_⟩
  · have kind := (yields_forM PoolOptions.yields_check pools).kind_of_error fails
    cases fault with
    | value reason => exact ⟨reason, rfl⟩
    | _ => cases kind
  · rintro options rfl accepted
    have valid : options.addressPool.isValid = true :=
      isValid_addressPool (accepted.elim id fun ⟨_, read⟩ => checkPools_of_read read)
    refine ⟨valid, fun registry epoch domain workers => ?_⟩
    rw [Reconciler.create, valid]
    rfl

/-- A pool inside a private network is accepted with the gateway of that network, and refused with
one from outside. -/
example :
    let pool (gateway : String) : PoolOptions :=
      ⟨"eth0", "192.168.0.10", "192.168.0.99", some gateway, some "255.255.255.0"⟩
    checkPools [pool "192.168.0.1"] = .ok () ∧
      (checkPools [pool "192.168.1.1"]).isOk = false := by
  decide +kernel

end Options

end LeaseRoster
