import LeaseRoster.Proofs.DurationPasses
import LeaseRoster.Proofs.ExactCounts
import LeaseRoster.Proofs.OtherSpellings
import LeaseRoster.Record.Field
import Mathlib.Algebra.BigOperators.Group.List.Basic

/-!
# Durations as the sums of their parts

A duration that is written in whole numbers is the sum of its parts, counted forwards or
backwards, or there is no duration of that length: a sum of whole numbers that is short enough
to be a duration is exact.  A text with fractions is either refused or the sum of the tokens of
which all of it is made.
-/

namespace LeaseRoster

namespace Duration

open Binary64 (Counts signedUnits unitsPerOne wholeLimit withSign)
open Text (isBlank isDecimal)

/-- A whole number with the letter of a unit behind it. -/
structure Amount where
  digits : List Char
  letter : Char
  unit : TimeUnit
  started : digits ≠ []
  decimal : ∀ character ∈ digits, isDecimal character = true
  named : TimeUnit.ofLetter? letter = some unit

namespace Amount

def token (amount : Amount) : Token := ⟨amount.digits, none, amount.letter⟩

def text (amount : Amount) : List Char := amount.digits ++ [amount.letter]

def part (amount : Amount) : Part := amount.token.inUnit amount.unit

/-- The number that the digits denote. -/
def number (amount : Amount) : Nat :=
  Text.ofDigits 10 (amount.digits.filterMap Text.decimalValue?)

def seconds (amount : Amount) : Nat := amount.number * amount.unit.seconds

theorem token_text (amount : Amount) : amount.token.text = amount.text := by
  simp [token, text, Token.text, Token.fractionText]

theorem token_fits (amount : Amount) : amount.token.Fits isUnitLetter where
  whole := amount.decimal
  started _ := amount.started
  fraction _ none := by cases none
  letter := isUnitLetter_of_ofLetter? amount.named

theorem not_isBlank (amount : Amount) : ∀ character ∈ amount.text, isBlank character = false := by
  intro character member
  rcases List.mem_append.mp member with digit | letter
  · refine Text.not_isBlank_of_isDigitLike ?_
    rw [Text.isDigitLike, amount.decimal character digit, Bool.true_or]
  · have clear : ∀ letter ∈ unitLetters, isBlank letter = false :=
      Text.eq_false_of_all (by decide)
    have known := isUnitLetter_of_ofLetter? amount.named
    rw [List.mem_singleton.mp letter]
    exact clear _ (List.contains_iff_mem.mp known)

end Amount

/-! ## Exact sums -/

theorem seconds_pos (unit : TimeUnit) : 0 < unit.seconds := by
  cases unit <;> decide

theorem counts_part (amount : Amount) : Counts amount.seconds amount.part.seconds := by
  have number : amount.part.number = Binary64.ofDecimal false amount.number 0 := by
    simp [Part.number, Amount.part, Amount.token, Token.inUnit, Amount.number]
  rw [Part.seconds, number]
  exact (Binary64.counts_ofDecimal amount.number).scale (seconds_pos amount.unit)

/-- Whole numbers of seconds are added exactly, unless there are too many. -/
theorem counts_total (amounts : List Amount) :
    Counts (amounts.map Amount.seconds).sum (total (amounts.map Amount.part)) := by
  have more : ∀ (done : Nat) (sum : Binary64), Counts done sum →
      Counts (done + (amounts.map Amount.seconds).sum)
        ((amounts.map Amount.part).foldl (fun sum part => sum.add part.seconds) sum) := by
    induction amounts with
    | nil => exact fun _ _ counts => counts
    | cons amount others ih =>
      intro done sum counts
      rw [List.map_cons, List.sum_cons, ← Nat.add_assoc]
      exact ih _ _ (counts.add (counts_part amount))
  have all := more 0 Binary64.zero Binary64.counts_zero
  rwa [Nat.zero_add] at all

/-- A sum of whole numbers below the limit is exact. -/
theorem total_of_lt {amounts : List Amount}
    (small : (amounts.map Amount.seconds).sum < wholeLimit) :
    total (amounts.map Amount.part) =
      .finite false ((amounts.map Amount.seconds).sum * unitsPerOne) :=
  (counts_total amounts).eq_finite small

theorem ofMicros?_micros (duration : Duration) : ofMicros? duration.micros = some duration :=
  dif_pos duration.inRange

theorem ofMicros?_eq_none {micros : Int}
    (none : ∀ duration : Duration, duration.micros ≠ micros) : ofMicros? micros = Option.none := by
  cases made : ofMicros? micros with
  | none => rfl
  | some duration => exact absurd (ofMicros?_eq_some made) (none duration)

theorem ofParts_eq (negative : Bool) (parts : List Part) :
    ofParts negative parts =
      (ofSeconds? (if negative then (total parts).neg else total parts)).elim .beyondRange
        .length := by
  simp only [ofParts]
  cases ofSeconds? (if negative then (total parts).neg else total parts) <;> rfl

theorem ofParts_amounts (negative : Bool) (amounts : List Amount) :
    ofParts negative (amounts.map Amount.part) =
      (ofMicros? (signedUnits negative
        ((amounts.map Amount.seconds).sum * microsPerSecond : Nat))).elim .beyondRange .length := by
  rw [ofParts_eq, ofSeconds?_of_counts (counts_total amounts)]

/-! ## Written amounts -/

theorem parts?_amounts {amounts : List Amount} (some_amounts : amounts ≠ []) :
    parts? (amounts.flatMap Amount.text) = some (amounts.map Amount.part) := by
  have read : partsFrom [] none (amounts.flatMap Amount.text) =
      some (amounts.map Amount.part) := by
    clear some_amounts
    induction amounts with
    | nil => rfl
    | cons amount others ih =>
      rw [List.flatMap_cons, ← amount.token_text,
        partsFrom_token amount.token_fits amount.named, ih]
      rfl
  obtain ⟨amount, others, rfl⟩ := List.exists_cons_of_ne_nil some_amounts
  have some_text : ((amount :: others).flatMap Amount.text).isEmpty = false := by
    simp [Amount.text]
  rw [parts?, some_text]
  exact read

theorem splitMinus_withSign (negative : Bool) (amounts : List Amount) :
    splitMinus (withSign negative (amounts.flatMap Amount.text)) =
      (negative, amounts.flatMap Amount.text) := by
  cases negative with
  | true => rfl
  | false =>
    change splitMinus (amounts.flatMap Amount.text) = _
    unfold splitMinus
    split
    next rest same =>
      exfalso
      cases amounts with
      | nil => cases same
      | cons amount others =>
        obtain ⟨digit, digits, opened⟩ := List.exists_cons_of_ne_nil amount.started
        have decimal := amount.decimal digit (opened ▸ List.mem_cons_self)
        rw [List.flatMap_cons, Amount.text, opened] at same
        rw [(List.cons.inj same).1] at decimal
        exact absurd decimal (by decide)
    next => rfl

theorem not_isBlank_withSign (negative : Bool) (amounts : List Amount) :
    ∀ character ∈ withSign negative (amounts.flatMap Amount.text), isBlank character = false := by
  have clear : ∀ character ∈ amounts.flatMap Amount.text, isBlank character = false := by
    intro character member
    obtain ⟨amount, -, inside⟩ := List.mem_flatMap.mp member
    exact amount.not_isBlank character inside
  cases negative with
  | true => exact List.forall_mem_cons.mpr ⟨by decide, clear⟩
  | false => exact clear

theorem read_amounts (negative : Bool) {before after : List Char}
    (opening : ∀ character ∈ before, isBlank character = true)
    (closing : ∀ character ∈ after, isBlank character = true)
    {amounts : List Amount} (some_amounts : amounts ≠ []) :
    read (before ++ withSign negative (amounts.flatMap Amount.text) ++ after) =
      ofParts negative (amounts.map Amount.part) := by
  obtain ⟨amount, others, same⟩ := List.exists_cons_of_ne_nil some_amounts
  have long : 2 ≤ (amounts.flatMap Amount.text).length := by
    have started := List.length_pos_iff.mpr amount.started
    rw [same, List.flatMap_cons, Amount.text, List.length_append, List.length_append,
      List.length_singleton]
    omega
  have some_text : (withSign negative (amounts.flatMap Amount.text)).isEmpty = false := by
    cases negative with
    | true => rfl
    | false =>
      change (amounts.flatMap Amount.text).isEmpty = false
      exact List.isEmpty_eq_false_iff.mpr (List.ne_nil_of_length_pos (by omega))
  have notZero : (amounts.flatMap Amount.text == ['0']) = false := by
    rw [beq_eq_false_iff_ne]
    intro zero
    rw [zero] at long
    exact absurd long (by decide)
  unfold read
  simp only [Text.strip_between opening closing (not_isBlank_withSign negative amounts),
    some_text, splitMinus_withSign, notZero, parts?_amounts some_amounts]
  rfl

/-! ## The field of a duration -/

theorem readDuration_text (text : String) :
    Field.readDuration (.text text) =
      match read text.toList with
      | .unset => .ok none
      | .length duration => .ok (some duration)
      | .unreadable => .error (.value (.malformedDuration (Datum.text text).shownText))
      | .beyondRange => .error .beyondRange := rfl

theorem readDuration_amounts (negative : Bool) {before after : List Char}
    (opening : ∀ character ∈ before, isBlank character = true)
    (closing : ∀ character ∈ after, isBlank character = true)
    {amounts : List Amount} (some_amounts : amounts ≠ []) :
    Field.readDuration (.text (String.ofList
        (before ++ withSign negative (amounts.flatMap Amount.text) ++ after))) =
      match ofMicros? (signedUnits negative
        ((amounts.map Amount.seconds).sum * microsPerSecond : Nat)) with
      | some duration => .ok (some duration)
      | none => .error .beyondRange := by
  rw [readDuration_text, String.toList_ofList, read_amounts negative opening closing some_amounts,
    ofParts_amounts]
  cases ofMicros? _ <;> rfl

/-! ## Any text -/

theorem read_eq (text : List Char) :
    read text =
      if (Text.strip text).isEmpty then .unset
      else if (splitMinus (Text.strip text)).2 == ['0'] then .length zero
      else
        match parts? (splitMinus (Text.strip text)).2 with
        | none => .unreadable
        | some parts => ofParts (splitMinus (Text.strip text)).1 parts := rfl

theorem read_of_blank {text : List Char} (blank : Text.strip text = []) :
    read text = .unset := by
  rw [read_eq, blank]
  rfl

section Filled

variable {text : List Char} (filled : Text.strip text ≠ [])
include filled

theorem read_of_zero (zero : (splitMinus (Text.strip text)).2 = ['0']) :
    read text = .length Duration.zero := by
  rw [read_eq, List.isEmpty_eq_false_iff.mpr filled, zero]
  rfl

variable (other : (splitMinus (Text.strip text)).2 ≠ ['0'])
include other

theorem read_of_parts? {parts : List Part}
    (found : parts? (splitMinus (Text.strip text)).2 = some parts) :
    read text = ofParts (splitMinus (Text.strip text)).1 parts := by
  rw [read_eq, List.isEmpty_eq_false_iff.mpr filled, beq_eq_false_iff_ne.mpr other, found]
  rfl

theorem read_of_not_isWritten (unwritten : isWritten (splitMinus (Text.strip text)).2 = false) :
    read text = .unreadable := by
  rw [read_eq, List.isEmpty_eq_false_iff.mpr filled, beq_eq_false_iff_ne.mpr other,
    parts?_of_not_isWritten unwritten]
  rfl

end Filled

/-- Whole numbers with units, one after the other, are the duration of exactly their sum, counted
backwards behind a minus sign, if there is such a duration, and else they are too long.

Every text is refused unless the whole of it is made of tokens, or it sets nothing, or it is a
bare zero.  The tokens that are found in a text that is not refused are the whole of it without
blanks and sign, and each has the letter of a unit, so that no look-up of a unit fails. -/
theorem durations_sum_whole_texts :
    (∀ (negative : Bool) (before after : List Char) (amounts : List Amount),
      (∀ character ∈ before, isBlank character = true) →
      (∀ character ∈ after, isBlank character = true) → amounts ≠ [] →
        let text := before ++ withSign negative (amounts.flatMap Amount.text) ++ after
        let seconds := (amounts.map Amount.seconds).sum
        let micros := signedUnits negative (seconds * microsPerSecond)
        (∀ duration : Duration, duration.micros = micros →
          Field.readDuration (.text (String.ofList text)) = .ok (some duration) ∧
            seconds < 2 ^ 53 ∧
              total (amounts.map Amount.part) = .finite false (seconds * unitsPerOne)) ∧
          ((∀ duration : Duration, duration.micros ≠ micros) →
            Field.readDuration (.text (String.ofList text)) = .error .beyondRange)) ∧
    ∀ text : String,
      let stripped := Text.strip text.toList
      let negative := (splitMinus stripped).1
      let unsigned := (splitMinus stripped).2
      let reading := Field.readDuration (.text text)
      scan text.toList = .ok (read text.toList) ∧
        ((isWritten unsigned = false ∧
            reading = .error (.value (.malformedDuration (Datum.text text).shownText))) ∨
          (stripped = [] ∧ reading = .ok none) ∨
          (unsigned = ['0'] ∧ reading = .ok (some zero)) ∨
          ((tokens unsigned).flatMap Token.text = unsigned ∧
            (∀ token ∈ tokens unsigned, ∃ unit, TimeUnit.ofLetter? token.letter = some unit) ∧
            ∃ parts, (tokens unsigned).mapM Token.part = .ok parts ∧
              reading =
                match ofSeconds? (if negative then (total parts).neg else total parts) with
                | some duration => .ok (some duration)
                | none => .error .beyondRange)) := by
  refine ⟨?_, fun text => ⟨scan_eq_read _, ?_⟩⟩
  · intro negative before after amounts opening closing some_amounts text seconds micros
    have reading : Field.readDuration (.text (String.ofList text)) =
        match ofMicros? micros with
        | some duration => .ok (some duration)
        | none => .error .beyondRange :=
      readDuration_amounts negative opening closing some_amounts
    refine ⟨fun duration made => ?_, fun none => ?_⟩
    · have exactly : ofMicros? micros = some duration := made ▸ ofMicros?_micros duration
      have small : seconds < wholeLimit := lt_wholeLimit_of_ofMicros? exactly
      rw [exactly] at reading
      exact ⟨reading, small, total_of_lt small⟩
    · rw [ofMicros?_eq_none none] at reading
      exact reading
  · have reading := readDuration_text text
    by_cases blank : Text.strip text.toList = []
    · rw [read_of_blank blank] at reading
      exact Or.inr (Or.inl ⟨blank, reading⟩)
    by_cases bare : (splitMinus (Text.strip text.toList)).2 = ['0']
    · rw [read_of_zero blank bare] at reading
      exact Or.inr (Or.inr (Or.inl ⟨bare, reading⟩))
    by_cases written : isWritten (splitMinus (Text.strip text.toList)).2 = true
    · obtain ⟨whole, named, parts, looked, found⟩ :=
        tokens_of_isWritten written (getLast?_splitMinus_strip text.toList)
      rw [read_of_parts? blank bare found, ofParts_eq] at reading
      refine Or.inr (Or.inr (Or.inr ⟨whole, named, parts, looked, reading.trans ?_⟩))
      cases ofSeconds? _ <;> rfl
    · rw [Bool.not_eq_true] at written
      rw [read_of_not_isWritten blank bare written] at reading
      exact Or.inl ⟨written, reading⟩

/-- The least duration is a whole number of days, and one second more is too much. -/
theorem durations_sum_to_least :
    Field.readDuration (.text " -999999999d\n") =
        .ok (some ⟨-(999999999 * microsPerDay), by decide⟩) ∧
      Field.readDuration (.text " -999999999d01s\n") = .error .beyondRange := by
  let days : Amount :=
    ⟨"999999999".toList, 'd', .day, by decide, List.all_eq_true.mp (by decide), rfl⟩
  let second : Amount := ⟨['0', '1'], 's', .second, by decide, List.all_eq_true.mp (by decide), rfl⟩
  have least := durations_sum_whole_texts.1 true [' '] ['\n'] [days]
    (List.all_eq_true.mp (by decide)) (List.all_eq_true.mp (by decide)) (List.cons_ne_nil _ _)
  have beyond := durations_sum_whole_texts.1 true [' '] ['\n'] [days, second]
    (List.all_eq_true.mp (by decide)) (List.all_eq_true.mp (by decide)) (List.cons_ne_nil _ _)
  refine ⟨(least.1 ⟨-(999999999 * microsPerDay), by decide⟩ (by decide)).1,
    beyond.2 fun duration made => ?_⟩
  have inRange := duration.inRange
  rw [made] at inRange
  exact absurd inRange (by decide)

end Duration

end LeaseRoster
