import LeaseRoster.Proofs.WrittenNumbers
import LeaseRoster.Text.Whole

/-!
# Numerals of digits

A text of digits has no blanks and no sign in front of it, so it is the numeral of the number
that its digits denote, if all of them are decimal digits and they are not too many.  What is
written of a number in decimal digits is read back.
-/

namespace LeaseRoster

namespace Text

/-! ## Blanks and digits -/

/-- The code points of the blanks. -/
def blankCodes : List Nat :=
  [0x09, 0x0a, 0x0b, 0x0c, 0x0d, 0x1c, 0x1d, 0x1e, 0x1f, 0x20, 0x85, 0xa0, 0x1680, 0x2000,
   0x2001, 0x2002, 0x2003, 0x2004, 0x2005, 0x2006, 0x2007, 0x2008, 0x2009, 0x200a, 0x2028,
   0x2029, 0x202f, 0x205f, 0x3000]

theorem mem_blankCodes_of_isBlank {character : Char} (blank : isBlank character = true) :
    character.toNat ∈ blankCodes := by
  simp only [isBlank, Bool.or_eq_true, Bool.and_eq_true, decide_eq_true_eq, beq_iff_eq] at blank
  simp only [blankCodes, List.mem_cons, List.not_mem_nil, or_false]
  omega

theorem not_isBlank_of_isDigitLike {character : Char} (like : isDigitLike character = true) :
    isBlank character = false := by
  have none : ∀ code ∈ blankCodes, isDigitLike (Char.ofNat code) = false := by decide
  by_contra blank
  rw [Bool.not_eq_false] at blank
  have unlike := none _ (mem_blankCodes_of_isBlank blank)
  rw [Char.ofNat_toNat, like] at unlike
  cases unlike

theorem isBlank_of_isNumeralBlank {character : Char} (blank : isNumeralBlank character = true) :
    isBlank character = true := by
  simp only [isNumeralBlank, Bool.or_eq_true, Bool.and_eq_true, decide_eq_true_eq,
    beq_iff_eq] at blank
  rcases blank with (control | space) | ⟨-, blank⟩
  · simp [isBlank, control]
  · simp [isBlank, space]
  · exact blank

theorem not_isNumeralBlank_of_isDigitLike {character : Char}
    (like : isDigitLike character = true) : isNumeralBlank character = false := by
  by_contra blank
  rw [Bool.not_eq_false] at blank
  have solid := not_isBlank_of_isDigitLike like
  rw [isBlank_of_isNumeralBlank blank] at solid
  cases solid

theorem isDigitLike_of_decimalValue? {character : Char} {value : Nat}
    (read : decimalValue? character = some value) : isDigitLike character = true := by
  simp [isDigitLike, isDecimal, read]

/-- In front of digits there is neither a blank nor a sign. -/
theorem splitSign_of_digits {text : List Char}
    (like : ∀ character ∈ text, isDigitLike character = true) :
    splitSign (text.dropWhile isNumeralBlank) = (false, text) := by
  cases text with
  | nil => rfl
  | cons first rest =>
    have firstLike := like first List.mem_cons_self
    rw [List.dropWhile_cons_of_neg (by simp [not_isNumeralBlank_of_isDigitLike firstLike])]
    unfold splitSign
    split
    next other same =>
      obtain ⟨rfl, -⟩ := List.cons.inj same
      exact absurd firstLike (by decide)
    next other same =>
      obtain ⟨rfl, -⟩ := List.cons.inj same
      exact absurd firstLike (by decide)
    next => rfl

/-! ## Runs of digits -/

theorem digitRun_of_mapM {text : List Char} {digits : List Nat}
    (read : text.mapM decimalValue? = some digits) (afterDigit : Bool) :
    digitRun afterDigit text = some (digits, []) := by
  induction text generalizing digits afterDigit with
  | nil =>
    cases read
    rfl
  | cons first rest ih =>
    simp only [List.mapM_cons, Option.bind_eq_bind, Option.bind_eq_some_iff, Option.pure_def,
      Option.some.injEq] at read
    obtain ⟨digit, firstRead, others, restRead, rfl⟩ := read
    rw [digitRun, firstRead]
    simp [ih restRead]

/-- Where some digits are no decimal ones, a run over them stops at the first of those. -/
theorem digitRun_of_mapM_eq_none {text : List Char}
    (like : ∀ character ∈ text, isDigitLike character = true)
    (unread : text.mapM decimalValue? = none) (afterDigit : Bool) :
    ∃ digits stop rest, digitRun afterDigit text = some (digits, stop :: rest) ∧
      isDigitLike stop = true := by
  induction text generalizing afterDigit with
  | nil => cases unread
  | cons first rest ih =>
    have firstLike := like first List.mem_cons_self
    have others := ih fun character member => like character (List.mem_cons_of_mem _ member)
    cases read : decimalValue? first with
    | none =>
      have notUnderscore : first ≠ '_' := by
        rintro rfl
        revert firstLike
        decide
      exact ⟨[], first, rest, by simp [digitRun, read, notUnderscore], firstLike⟩
    | some digit =>
      have restUnread : rest.mapM decimalValue? = none := by
        cases restRead : rest.mapM decimalValue? with
        | none => rfl
        | some digits => simp [List.mapM_cons, read, restRead] at unread
      obtain ⟨digits, stop, behind, run, stopLike⟩ := others restUnread true
      exact ⟨digit :: digits, stop, behind, by simp [digitRun, read, run], stopLike⟩

/-! ## Numerals -/

section Digits

variable {text : List Char} (like : ∀ character ∈ text, isDigitLike character = true)
include like

theorem readInt_of_mapM {digits : List Nat} (nonempty : text ≠ [])
    (read : text.mapM decimalValue? = some digits) :
    readInt text =
      if numeralLimit < digits.length then .error (.tooLong digits.length)
      else .ok (ofDigits 10 digits : Nat) := by
  have some_digits : digits.isEmpty = false := by
    rw [List.isEmpty_eq_false_iff]
    rintro rfl
    exact nonempty (List.eq_nil_of_length_eq_zero (length_of_mapM read).symm)
  simp only [readInt, splitSign_of_digits like, digitRun_of_mapM read]
  simp [some_digits, signed]

theorem readInt_ne_ok_of_mapM (read : text.mapM decimalValue? = none) (value : Int) :
    readInt text ≠ .ok value := by
  obtain ⟨digits, stop, behind, run, stopLike⟩ := digitRun_of_mapM_eq_none like read false
  have stops : ((stop :: behind).all isNumeralBlank) = false := by
    simp [not_isNumeralBlank_of_isDigitLike stopLike]
  simp only [readInt, splitSign_of_digits like, run, stops]
  split
  · simp
  · split <;> simp

/-- A text of digits is the numeral of the number that they denote if all are decimal digits
and they are not too many. -/
theorem readInt_eq_ok_iff (nonempty : text ≠ []) (value : Int) :
    readInt text = .ok value ↔
      ∃ digits, text.mapM decimalValue? = some digits ∧ digits.length ≤ numeralLimit ∧
        (ofDigits 10 digits : Int) = value := by
  cases read : text.mapM decimalValue? with
  | none => simpa using readInt_ne_ok_of_mapM like read value
  | some digits =>
    rw [readInt_of_mapM like nonempty read]
    by_cases long : numeralLimit < digits.length
    · simp [long]
    · simp [long, Nat.not_lt.mp long]

end Digits

/-- A number in plain digits is read back, unless there are too many of them. -/
theorem readInt_decimal {value : Nat} (short : (decimal value).length ≤ numeralLimit) :
    readInt (decimal value) = .ok value := by
  obtain ⟨digits, some_digits, bounded, written, denoted⟩ := exists_digits_decimal value
  have read : (decimal value).mapM decimalValue? = some digits := by
    rw [written]
    exact mapM_map_eq_some fun digit member => decimalValue?_digitChar (bounded digit member)
  have like : ∀ character ∈ decimal value, isDigitLike character = true := by
    intro character member
    rw [written] at member
    obtain ⟨digit, present, rfl⟩ := List.mem_map.mp member
    exact isDigitLike_of_decimalValue? (decimalValue?_digitChar (bounded digit present))
  refine (readInt_eq_ok_iff like ?_ value).mpr ⟨digits, read, ?_, congrArg Int.ofNat denoted⟩
  · simpa [written] using some_digits
  · rwa [length_of_mapM read]

end Text

end LeaseRoster
