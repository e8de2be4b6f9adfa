import LeaseRoster.Proofs.WrittenNumbers
import LeaseRoster.Record.Field
import Mathlib.Data.List.TakeWhile

/-!
# Spellings of hardware addresses

The written form of a hardware address is one of its spellings, so addresses with one
written form are equal and a table may be keyed by it.  Addresses are told apart by their
numbers as well, so sorting by the number puts them into one order only.
-/

namespace LeaseRoster

namespace Text

theorem dropWhile_isBlank {text : List Char}
    (clear : ∀ character ∈ text, isBlank character = false) :
    text.dropWhile isBlank = text := by
  cases text with
  | nil => rfl
  | cons first rest => simp [clear first (by simp)]

/-- A text without blanks is as it is between blanks. -/
theorem strip_eq_self {text : List Char}
    (clear : ∀ character ∈ text, isBlank character = false) : strip text = text := by
  rw [strip, dropWhile_isBlank clear, stripEnd, dropWhile_isBlank, List.reverse_reverse]
  intro character member
  exact clear character (List.mem_reverse.mp member)

theorem stripEnd_append {after : List Char}
    (closing : ∀ character ∈ after, isBlank character = true) (text : List Char) :
    stripEnd (text ++ after) = stripEnd text := by
  rw [stripEnd, List.reverse_append, List.dropWhile_append_of_pos, ← stripEnd]
  exact fun character member => closing character (List.mem_reverse.mp member)

/-- Blanks around a text are stripped with those at its ends. -/
theorem strip_surrounded {before after : List Char}
    (opening : ∀ character ∈ before, isBlank character = true)
    (closing : ∀ character ∈ after, isBlank character = true) (core : List Char) :
    strip (before ++ core ++ after) = strip core := by
  rw [strip, strip, List.append_assoc, List.dropWhile_append_of_pos opening,
    List.dropWhile_append]
  split
  next empty =>
    rw [List.isEmpty_iff.mp empty, List.dropWhile_eq_nil_iff.mpr closing]
  next => exact stripEnd_append closing _

end Text

namespace MacAddress

open Text (hexDigit)

theorem digit?_hexDigit (digit : Fin 16) : digit? (hexDigit digit) = some digit := by
  revert digit
  decide

theorem isSeparator_hexDigit (digit : Fin 16) : isSeparator (hexDigit digit) = false := by
  revert digit
  decide

theorem isBlank_hexDigit (digit : Fin 16) : Text.isBlank (hexDigit digit) = false := by
  revert digit
  decide

/-- The separators of the written form are all that stands between its digits. -/
theorem filter_pairsText (digits : List (Fin 16)) :
    (pairsText digits).filter (fun character => !isSeparator character) =
      digits.map fun digit => hexDigit digit.val := by
  have colon : isSeparator ':' = true := by decide
  fun_induction pairsText digits <;> simp_all [isSeparator_hexDigit]

theorem isBlank_pairsText (digits : List (Fin 16)) :
    ∀ character ∈ pairsText digits, Text.isBlank character = false := by
  have colon : Text.isBlank ':' = false := by decide
  fun_induction pairsText digits <;> simp_all [isBlank_hexDigit]

theorem mapM_digit? (digits : List (Fin 16)) :
    (digits.map fun digit => hexDigit digit.val).mapM digit? = some digits :=
  Text.mapM_map_eq_some fun digit _ => digit?_hexDigit digit

/-- The digits are what counts in the written form. -/
theorem significant_text (mac : MacAddress) :
    significant mac.text = mac.digits.map fun digit => hexDigit digit.val := by
  rw [significant, text, Text.strip_eq_self (isBlank_pairsText mac.digits), filter_pairsText,
    dropLineFeed, if_neg]
  intro feed
  have last := List.mem_of_getLast? (eq_of_beq feed)
  obtain ⟨digit, _, equal⟩ := List.mem_map.mp last
  have blank := isBlank_hexDigit digit
  rw [equal] at blank
  exact absurd blank (by decide)

/-- A text spells the address that has its significant characters as digits. -/
theorem read?_eq_some_iff (text : List Char) (mac : MacAddress) :
    read? text = some mac ↔ (significant text).mapM digit? = some mac.digits := by
  rw [read?, Option.bind_eq_some_iff]
  constructor
  · rintro ⟨digits, read, made⟩
    unfold ofDigits? at made
    split at made
    · cases made
      exact read
    · cases made
  · exact fun read => ⟨mac.digits, read, ofDigits?_digits mac⟩

/-- The written form of an address spells it. -/
@[simp] theorem read?_text (mac : MacAddress) : read? mac.text = some mac := by
  rw [read?_eq_some_iff, significant_text, mapM_digit?]

@[simp] theorem read?_toString (mac : MacAddress) :
    read? mac.toString.toList = some mac := by
  rw [toString, String.toList_ofList, read?_text]

theorem toString_injective : Function.Injective toString := by
  intro first second equal
  have read := congrArg (fun written => read? written.toList) equal
  simpa using read

/-- As many digits that come to the same number are the same digits. -/
theorem foldl_digits_injective {first second : List (Fin 16)}
    (length : first.length = second.length) {start other : Nat}
    (equal : first.foldl (fun value digit => value * 16 + digit.val) start =
      second.foldl (fun value digit => value * 16 + digit.val) other) :
    start = other ∧ first = second := by
  induction first generalizing second start other with
  | nil =>
    obtain rfl := List.length_eq_zero_iff.mp length.symm
    exact ⟨equal, rfl⟩
  | cons digit digits ih =>
    cases second with
    | nil => cases length
    | cons last rest =>
      obtain ⟨sum, tails⟩ := ih (Nat.succ.inj length) equal
      dsimp only at sum
      have digitSmall := digit.isLt
      have lastSmall := last.isLt
      have same : digit = last := by
        apply Fin.ext
        omega
      exact ⟨by omega, by rw [tails, same]⟩

/-- The number of an address tells the address. -/
theorem value_injective : Function.Injective value := by
  rintro ⟨first, firstLength⟩ ⟨second, secondLength⟩ equal
  simp only [value, Text.ofDigits, List.foldl_map] at equal
  obtain ⟨-, rfl⟩ := foldl_digits_injective (firstLength.trans secondLength.symm) equal
  rfl

end MacAddress

namespace Field

/-- Reading a text gives the address that it spells, and otherwise faults the value. -/
theorem readMac_text (spelled : String) :
    readMac (.text spelled) =
      match MacAddress.read? spelled.toList with
      | some mac => .ok mac
      | none => .error (.value (.malformedMac (String.ofList (Text.quoted spelled.toList)))) :=
  rfl

@[simp] theorem readMac_toString (mac : MacAddress) :
    readMac (.text mac.toString) = .ok mac := by
  rw [readMac_text, MacAddress.read?_toString]

end Field

end LeaseRoster
