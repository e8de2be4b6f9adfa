/-!
# Octets

Bytes in network order, the most significant one first.  Lists of bytes of one
length are ordered, byte by byte, as the numbers that they denote.
-/

namespace LeaseRoster

/-- Bytes in network order. -/
abbrev Octets := List UInt8

namespace Octets

/-- The last `width` bytes of a number. -/
def ofNat : Nat → Nat → Octets
  | 0, _ => []
  | width + 1, value => ofNat width (value / 256) ++ [UInt8.ofNat (value % 256)]

def toNat (octets : Octets) : Nat :=
  octets.foldl (fun value byte => value * 256 + byte.toNat) 0

/-- Whether bytes come no later than others, the first difference deciding. -/
def le : Octets → Octets → Bool
  | [], _ => true
  | _ :: _, [] => false
  | left :: lefts, right :: rights =>
    if left < right then true
    else if right < left then false
    else le lefts rights

@[simp] theorem length_ofNat (width value : Nat) :
    (ofNat width value).length = width := by
  induction width generalizing value with
  | zero => rfl
  | succ width ih => simp [ofNat, ih]

theorem toNat_append_singleton (octets : Octets) (byte : UInt8) :
    toNat (octets ++ [byte]) = toNat octets * 256 + byte.toNat := by
  simp [toNat]

theorem toNat_ofNat (width value : Nat) :
    toNat (ofNat width value) = value % Nat.pow 256 width := by
  induction width generalizing value with
  | zero => simp [ofNat, toNat, Nat.mod_one]
  | succ width ih =>
    have power : Nat.pow 256 (width + 1) = 256 * Nat.pow 256 width :=
      Nat.mul_comm (Nat.pow 256 width) 256
    rw [ofNat, toNat_append_singleton, ih, power, Nat.mod_mul, UInt8.toNat_ofNat']
    omega

theorem le_refl (octets : Octets) : le octets octets = true := by
  induction octets with
  | nil => rfl
  | cons byte rest ih => simp [le, ih]

end Octets

end LeaseRoster
