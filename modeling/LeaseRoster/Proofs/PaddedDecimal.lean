import LeaseRoster.Proofs.WrittenNumbers
import LeaseRoster.Time.MomentText
import Mathlib.Algebra.Order.Ring.Nat
import Mathlib.Tactic.Ring

/-!
# Numbers of a fixed width

A number that is padded with zeros up to a width in which it fits is written with exactly
that many digits, and reading that many digits gives the number back, whatever follows.
-/

namespace LeaseRoster

namespace Text

/-- The last `width` decimal digits of a number. -/
def lastDigits : Nat → Nat → List Char
  | 0, _ => []
  | width + 1, value => lastDigits width (value / 10) ++ [(value % 10).digitChar]

@[simp] theorem length_lastDigits (width value : Nat) :
    (lastDigits width value).length = width := by
  induction width generalizing value with
  | zero => rfl
  | succ width ih => simp [lastDigits, ih]

theorem lastDigits_zero (width : Nat) : lastDigits width 0 = List.replicate width '0' := by
  induction width with
  | zero => rfl
  | succ width ih =>
    rw [lastDigits, Nat.zero_div, ih, List.replicate_succ']
    rfl

/-- Padding writes the last digits of a number that fits. -/
theorem decimalPadded_eq_lastDigits {width value : Nat} (fits : value < 10 ^ width)
    (wide : 0 < width) : decimalPadded width value = lastDigits width value := by
  induction width generalizing value with
  | zero => cases wide
  | succ width ih =>
    unfold decimalPadded decimal lastDigits
    by_cases small : value < 10
    · rw [Nat.toDigits_of_lt_base small, Nat.div_eq_of_lt small, Nat.mod_eq_of_lt small,
        lastDigits_zero]
      simp
    · have shorter : value / 10 < 10 ^ width := by
        rw [pow_succ] at fits
        omega
      have positive : 0 < width := by
        rcases Nat.eq_zero_or_pos width with rfl | positive
        · omega
        · exact positive
      rw [Nat.toDigits_of_base_le (by decide) (by omega), ← ih shorter positive]
      simp [decimalPadded, decimal]

theorem le_length_decimalPadded (width value : Nat) :
    width ≤ (decimalPadded width value).length := by
  simp only [decimalPadded, List.length_append, List.length_replicate]
  omega

theorem isAsciiDigit_of_mem_decimalPadded {width value : Nat} {character : Char}
    (member : character ∈ decimalPadded width value) : isAsciiDigit character = true := by
  rcases List.mem_append.mp member with zero | digit
  · rw [List.eq_of_mem_replicate zero]
    rfl
  · exact isAsciiDigit_of_mem_decimal digit

/-- Zeros in front of a number change nothing of it. -/
theorem ofDigits_decimalPadded (width value : Nat) :
    ofDigits 10 ((decimalPadded width value).filterMap decimalValue?) = value := by
  have zeros : ∀ count : Nat, ∀ digits : List Nat,
      ofDigits 10 (List.replicate count 0 ++ digits) = ofDigits 10 digits := by
    intro count digits
    induction count with
    | zero => rfl
    | succ count ih =>
      rw [List.replicate_succ, List.cons_append, ← ih]
      rfl
  rw [decimalPadded, List.filterMap_append, List.filterMap_replicate_of_some (b := 0) (by decide),
    zeros, ofDigits_decimal]

theorem length_decimalPadded {width value : Nat} (fits : value < 10 ^ width)
    (wide : 0 < width) : (decimalPadded width value).length = width := by
  rw [decimalPadded_eq_lastDigits fits wide, length_lastDigits]

theorem forall_mem_lastDigits (width value : Nat) :
    ∀ character ∈ lastDigits width value, isAsciiDigit character = true := by
  induction width generalizing value with
  | zero => simp [lastDigits]
  | succ width ih =>
    intro character member
    rw [lastDigits, List.mem_append, List.mem_singleton] at member
    rcases member with earlier | rfl
    · exact ih (value / 10) character earlier
    · exact isAsciiDigit_digitChar (Nat.mod_lt value (by decide))

theorem forall_mem_decimalPadded {width value : Nat} (fits : value < 10 ^ width)
    (wide : 0 < width) :
    ∀ character ∈ decimalPadded width value, isAsciiDigit character = true := by
  rw [decimalPadded_eq_lastDigits fits wide]
  exact forall_mem_lastDigits width value

end Text

namespace Moment

open Text (lastDigits)

/-- Digits are read in two goes as in one. -/
theorem digits?_add (first second value : Nat) (text : List Char) :
    digits? value (first + second) text =
      (digits? value first text).bind fun read => digits? read.1 second read.2 := by
  induction first generalizing value text with
  | zero => simp [digits?]
  | succ first ih =>
    rw [Nat.add_right_comm]
    cases text with
    | nil => rfl
    | cons character rest =>
      simp only [digits?]
      split
      · exact ih _ rest
      · rfl

theorem digits?_lastDigits (width value start : Nat) (rest : List Char) :
    digits? start width (lastDigits width value ++ rest) =
      some (start * 10 ^ width + value % 10 ^ width, rest) := by
  induction width generalizing value rest with
  | zero => simp [digits?, lastDigits, Nat.mod_one]
  | succ width ih =>
    have small : value % 10 < 10 := Nat.mod_lt value (by decide)
    rw [lastDigits, List.append_assoc, List.singleton_append, digits?_add, ih,
      Option.bind_some]
    simp only [digits?, Text.isAsciiDigit_digitChar small, if_true,
      Text.toNat_digitChar small, Option.some.injEq, Prod.mk.injEq, and_true]
    rw [pow_succ, Nat.mul_comm (10 ^ width) 10, Nat.mod_mul]
    ring

/-- A padded number is read back. -/
theorem digits?_decimalPadded {width value : Nat} (fits : value < 10 ^ width)
    (wide : 0 < width) (rest : List Char) :
    digits? 0 width (Text.decimalPadded width value ++ rest) = some (value, rest) := by
  rw [Text.decimalPadded_eq_lastDigits fits wide, digits?_lastDigits, Nat.mod_eq_of_lt fits]
  simp

end Moment

end LeaseRoster
