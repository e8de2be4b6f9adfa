import LeaseRoster.Proofs.PaddedDecimal
import Mathlib.Data.Char
import Mathlib.Data.List.Lex
import Mathlib.Order.Interval.Set.Defs
import Mathlib.Data.Set.Monotone

/-!
# Texts in the order of numbers

Numbers that are written with one number of characters are ordered by their texts if a greater
number has a greater text.  Two such ways of writing make a third one, which writes how often a
base goes into a number and then what is left of it; so padded decimal numbers are written in
order digit by digit, and what is made of several of them is so part by part.
-/

namespace LeaseRoster

namespace Text

/-- Texts of one length are ordered by the first parts that differ. -/
theorem append_lt_append {front other : List Char} (length : front.length = other.length)
    (less : front < other) (back rest : List Char) : front ++ back < other ++ rest := by
  induction front generalizing other with
  | nil =>
    obtain rfl := List.length_eq_zero_iff.mp length.symm
    exact absurd less (List.lt_irrefl [])
  | cons first more ih =>
    obtain ⟨last, others, rfl⟩ := List.exists_of_length_succ other length.symm
    rw [List.cons_append, List.cons_append, List.cons_lt_cons_iff]
    rcases List.cons_lt_cons_iff.mp less with before | ⟨same, further⟩
    · exact Or.inl before
    · exact Or.inr ⟨same, ih (Nat.succ.inj length) further⟩

/-- Whether the numbers below a limit are written with one number of characters, and greater
numbers as greater texts. -/
structure WritesInOrder (limit width : Nat) (write : Nat → List Char) : Prop where
  length_eq : ∀ value < limit, (write value).length = width
  strictMonoOn : StrictMonoOn write (Set.Iio limit)

namespace WritesInOrder

variable {limit width : Nat} {write : Nat → List Char} (inOrder : WritesInOrder limit width write)
include inOrder

theorem lt_iff {one other : Nat} (oneBelow : one < limit) (otherBelow : other < limit) :
    write one < write other ↔ one < other :=
  inOrder.strictMonoOn.lt_iff_lt oneBelow otherBelow

theorem eq_iff {one other : Nat} (oneBelow : one < limit) (otherBelow : other < limit) :
    write one = write other ↔ one = other :=
  inOrder.strictMonoOn.eq_iff_eq oneBelow otherBelow

theorem mono {less : Nat} (below : less ≤ limit) : WritesInOrder less width write where
  length_eq value small := inOrder.length_eq value (small.trans_le below)
  strictMonoOn := inOrder.strictMonoOn.mono fun _ small => lt_of_lt_of_le small below

theorem congr {other : Nat → List Char} (same : ∀ value < limit, other value = write value) :
    WritesInOrder limit width other where
  length_eq value small := by rw [same value small, inOrder.length_eq value small]
  strictMonoOn := inOrder.strictMonoOn.congr fun value small => (same value small).symm

/-- A mark in front changes nothing. -/
theorem cons (mark : Char) : WritesInOrder limit (width + 1) fun value => mark :: write value where
  length_eq value small := by rw [List.length_cons, inOrder.length_eq value small]
  strictMonoOn one oneBelow other otherBelow less :=
    List.cons_lt_cons_self.mpr (inOrder.strictMonoOn oneBelow otherBelow less)

/-- Neither does a text behind. -/
theorem append_const (tail : List Char) :
    WritesInOrder limit (width + tail.length) fun value => write value ++ tail where
  length_eq value small := by rw [List.length_append, inOrder.length_eq value small]
  strictMonoOn one oneBelow other otherBelow less :=
    append_lt_append ((inOrder.length_eq one oneBelow).trans
      (inOrder.length_eq other otherBelow).symm)
      (inOrder.strictMonoOn oneBelow otherBelow less) tail tail

/-- Quotients are written first, and rests behind them. -/
theorem append {base more : Nat} {rest : Nat → List Char}
    (restInOrder : WritesInOrder base more rest) :
    WritesInOrder (limit * base) (width + more) fun value =>
      write (value / base) ++ rest (value % base) where
  length_eq value small := by
    have positive : 0 < base := Nat.pos_of_mul_pos_left (Nat.zero_lt_of_lt small)
    rw [List.length_append, inOrder.length_eq _ (Nat.div_lt_of_lt_mul (Nat.mul_comm _ _ ▸ small)),
      restInOrder.length_eq _ (Nat.mod_lt _ positive)]
  strictMonoOn one oneBelow other otherBelow less := by
    have positive : 0 < base := Nat.pos_of_mul_pos_left (Nat.zero_lt_of_lt oneBelow)
    have oneFront : one / base < limit := Nat.div_lt_of_lt_mul (Nat.mul_comm _ _ ▸ oneBelow)
    have otherFront : other / base < limit :=
      Nat.div_lt_of_lt_mul (Nat.mul_comm _ _ ▸ otherBelow)
    rcases Nat.lt_or_eq_of_le (Nat.div_le_div_right less.le) with before | same
    · exact append_lt_append ((inOrder.length_eq _ oneFront).trans
        (inOrder.length_eq _ otherFront).symm)
        (inOrder.strictMonoOn oneFront otherFront before) _ _
    · have behind : one % base < other % base := by
        have oneParts := Nat.div_add_mod one base
        have otherParts := Nat.div_add_mod other base
        rw [same] at oneParts
        omega
      simp only [same]
      exact List.append_left_lt
        (restInOrder.strictMonoOn (Nat.mod_lt _ positive) (Nat.mod_lt _ positive) behind)

end WritesInOrder

/-! ## Padded decimal numbers -/

theorem writesInOrder_digitChar : WritesInOrder 10 1 fun digit => [digit.digitChar] where
  length_eq _ _ := rfl
  strictMonoOn one oneBelow other otherBelow less := by
    have ordered : ∀ other < 10, ∀ one < other,
        [Nat.digitChar one] < [Nat.digitChar other] := by
      decide
    exact ordered other otherBelow one less

theorem writesInOrder_lastDigits (width : Nat) :
    WritesInOrder (10 ^ width) width (lastDigits width) := by
  induction width with
  | zero =>
    refine ⟨fun _ _ => rfl, fun one oneBelow other otherBelow less => ?_⟩
    rw [pow_zero, Set.mem_Iio] at otherBelow
    omega
  | succ width ih => exact ih.append writesInOrder_digitChar

theorem writesInOrder_decimalPadded {width : Nat} (wide : 0 < width) :
    WritesInOrder (10 ^ width) width (decimalPadded width) :=
  (writesInOrder_lastDigits width).congr fun _ fits => decimalPadded_eq_lastDigits fits wide

end Text

end LeaseRoster
