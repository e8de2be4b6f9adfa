import LeaseRoster.Proofs.SummedDurations
import LeaseRoster.Proofs.WrittenNumbers

/-!
# Durations written briefly

A positive duration is written in days, hours and minutes, without those that are zero, or in
seconds if nothing is left to write then.  What is written is a row of whole amounts, so it is read
as their sum: the duration itself, rounded down to whole minutes, or to whole seconds if it is
shorter than a minute.
-/

namespace LeaseRoster

namespace Duration

/-- The letter with which a unit is written. -/
def TimeUnit.letter : TimeUnit → Char
  | .second => 's'
  | .minute => 'm'
  | .hour => 'h'
  | .day => 'd'
  | .week => 'w'
  | .month => 'M'
  | .year => 'y'

theorem TimeUnit.ofLetter?_letter (unit : TimeUnit) : ofLetter? unit.letter = some unit := by
  cases unit <;> rfl

namespace Amount

/-- As much of a unit as a number counts. -/
def ofNumber (number : Nat) (unit : TimeUnit) : Amount where
  digits := Text.decimal number
  letter := unit.letter
  unit := unit
  started := Text.decimal_ne_nil number
  decimal _ member := Text.isDecimal_of_mem_decimal member
  named := unit.ofLetter?_letter

theorem text_ofNumber (number : Nat) (unit : TimeUnit) :
    (ofNumber number unit).text = Text.decimal number ++ [unit.letter] := rfl

theorem seconds_ofNumber (number : Nat) (unit : TimeUnit) :
    (ofNumber number unit).seconds = number * unit.seconds :=
  congrArg (· * unit.seconds) (Text.ofDigits_decimal number)

/-- As much of a unit as a number counts, and nothing for zero. -/
def unlessZero (number : Nat) (unit : TimeUnit) : List Amount :=
  if number = 0 then [] else [ofNumber number unit]

theorem flatMap_text_unlessZero (number : Nat) (unit : TimeUnit) :
    (unlessZero number unit).flatMap text = Duration.unlessZero number unit.letter := by
  unfold unlessZero Duration.unlessZero
  by_cases zero : number = 0
  · simp [zero]
  · simp [zero, text_ofNumber]

theorem sum_seconds_unlessZero (number : Nat) (unit : TimeUnit) :
    ((unlessZero number unit).map seconds).sum = number * unit.seconds := by
  unfold unlessZero
  by_cases zero : number = 0
  · simp [zero]
  · simp [zero, seconds_ofNumber]

theorem unlessZero_eq_nil_iff (number : Nat) (unit : TimeUnit) :
    unlessZero number unit = [] ↔ number = 0 := by
  simp [unlessZero]

theorem flatMap_text_eq_nil_iff (amounts : List Amount) :
    amounts.flatMap text = [] ↔ amounts = [] := by
  cases amounts <;> simp [text]

end Amount

/-! ## The amounts that are written -/

/-- The days, hours and minutes of a duration that are not zero. -/
def minuteAmounts (duration : Duration) : List Amount :=
  Amount.unlessZero duration.days.toNat .day ++
    Amount.unlessZero (duration.seconds / 3600) .hour ++
    Amount.unlessZero (duration.seconds % 3600 / 60) .minute

/-- The amounts in which a positive duration is written. -/
def briefAmounts (duration : Duration) : List Amount :=
  if duration.minuteAmounts = [] then [Amount.ofNumber (duration.seconds % 60) .second]
  else duration.minuteAmounts

theorem briefAmounts_ne_nil (duration : Duration) : duration.briefAmounts ≠ [] := by
  unfold briefAmounts
  split
  · exact List.cons_ne_nil _ _
  · assumption

theorem flatMap_text_minuteAmounts (duration : Duration) :
    duration.minuteAmounts.flatMap Amount.text =
      unlessZero duration.days.toNat 'd' ++ unlessZero (duration.seconds / 3600) 'h' ++
        unlessZero (duration.seconds % 3600 / 60) 'm' := by
  simp only [minuteAmounts, List.flatMap_append, Amount.flatMap_text_unlessZero, TimeUnit.letter]

theorem brief_of_positive {duration : Duration} (positive : 0 < duration.micros) :
    brief (some duration) = duration.briefAmounts.flatMap Amount.text := by
  simp only [brief, if_neg (Int.not_le.mpr positive), ← flatMap_text_minuteAmounts,
    List.isEmpty_iff, Amount.flatMap_text_eq_nil_iff, briefAmounts]
  split
  · rw [List.flatMap_singleton, Amount.text_ofNumber, TimeUnit.letter]
  · rfl

/-! ## Rounding down -/

/-- That a number of microseconds is another one rounded down to whole steps. -/
structure RoundsDown (step : Nat) (micros rounded : Int) : Prop where
  whole : (step : Int) ∣ rounded
  below : rounded ≤ micros
  near : micros < rounded + step

theorem roundsDown_div_mul {step : Nat} (positive : 0 < step) (micros : Nat) :
    RoundsDown step micros (micros / step * step : Nat) where
  whole := Int.natCast_dvd_natCast.mpr (Nat.dvd_mul_left step _)
  below := Int.ofNat_le.mpr (Nat.div_mul_le_self micros step)
  near := by
    have rest := Nat.mod_lt micros positive
    have parts := Nat.div_add_mod' micros step
    omega

/-- Microseconds in a minute. -/
def microsPerMinute : Nat := 60 * microsPerSecond

/-- The step to which a duration is rounded when it is written. -/
def briefStep (micros : Nat) : Nat :=
  if micros < microsPerMinute then microsPerSecond else microsPerMinute

section Counted

variable {duration : Duration} {micros : Nat} (counted : duration.micros = micros)
include counted

theorem days_of_natCast : duration.days.toNat = micros / microsPerDay := by
  rw [days, counted, ← Int.ofNat_fdiv, Int.toNat_natCast]

theorem seconds_of_natCast : duration.seconds = micros % microsPerDay / microsPerSecond := by
  rw [seconds, counted, ← Int.ofNat_fmod, Int.toNat_natCast]

theorem minuteAmounts_eq_nil_iff : duration.minuteAmounts = [] ↔ micros < microsPerMinute := by
  simp only [minuteAmounts, List.append_eq_nil_iff, Amount.unlessZero_eq_nil_iff,
    days_of_natCast counted, seconds_of_natCast counted]
  simp only [microsPerMinute, microsPerDay, microsPerSecond]
  omega

theorem sum_seconds_minuteAmounts :
    (duration.minuteAmounts.map Amount.seconds).sum = micros / microsPerMinute * 60 := by
  simp only [minuteAmounts, List.map_append, List.sum_append, Amount.sum_seconds_unlessZero,
    days_of_natCast counted, seconds_of_natCast counted]
  simp only [TimeUnit.seconds, microsPerMinute, microsPerDay, microsPerSecond]
  omega

/-- What is written comes to the duration, rounded down. -/
theorem sum_seconds_briefAmounts :
    (duration.briefAmounts.map Amount.seconds).sum * microsPerSecond =
      micros / briefStep micros * briefStep micros := by
  unfold briefAmounts briefStep
  simp only [minuteAmounts_eq_nil_iff counted]
  split
  next short =>
    simp only [List.map_singleton, List.sum_singleton, Amount.seconds_ofNumber,
      seconds_of_natCast counted]
    simp only [TimeUnit.seconds, microsPerMinute, microsPerDay, microsPerSecond] at short ⊢
    omega
  next long =>
    rw [sum_seconds_minuteAmounts counted, Nat.mul_assoc]
    rfl

end Counted

theorem briefStep_pos (micros : Nat) : 0 < briefStep micros := by
  unfold briefStep
  split <;> decide

theorem readDuration_brief {duration parsed : Duration} {micros : Nat}
    (counted : duration.micros = micros) (positive : 0 < micros)
    (rounded : parsed.micros = (micros / briefStep micros * briefStep micros : Nat)) :
    Field.readDuration (.text (String.ofList (brief (some duration)))) = .ok (some parsed) := by
  have written : brief (some duration) =
      [] ++ Binary64.withSign false (duration.briefAmounts.flatMap Amount.text) ++ [] := by
    rw [brief_of_positive (by omega), List.nil_append, List.append_nil]
    rfl
  rw [written, readDuration_amounts false (List.forall_mem_nil _) (List.forall_mem_nil _)
    duration.briefAmounts_ne_nil, sum_seconds_briefAmounts counted, Binary64.signedUnits,
    if_neg Bool.false_ne_true, ← rounded, ofMicros?_micros]

/-- A positive duration that is written briefly is read as itself, rounded down to whole minutes,
or to whole seconds if it is shorter than a minute. -/
theorem brief_read_rounded_down (duration : Duration) (positive : 0 < duration.micros) :
    ∃ parsed : Duration,
      Field.readDuration (.text (String.ofList (brief (some duration)))) = .ok (some parsed) ∧
        (microsPerMinute ≤ duration.micros →
          RoundsDown microsPerMinute duration.micros parsed.micros) ∧
        (duration.micros < microsPerMinute →
          RoundsDown microsPerSecond duration.micros parsed.micros) := by
  obtain ⟨micros, counted⟩ := Int.eq_ofNat_of_zero_le positive.le
  have down := roundsDown_div_mul (briefStep_pos micros) micros
  have read : ∀ parsed : Duration,
      parsed.micros = (micros / briefStep micros * briefStep micros : Nat) →
        Field.readDuration (.text (String.ofList (brief (some duration)))) = .ok (some parsed) :=
    fun _ rounded => readDuration_brief counted (by omega) rounded
  have inRange := duration.inRange
  rw [counted] at inRange ⊢
  have least : -(999999999 * microsPerDay : Int) ≤
      (micros / briefStep micros * briefStep micros : Nat) := by omega
  refine ⟨⟨_, least, Int.lt_of_le_of_lt down.below inRange.2⟩, read _ rfl, fun long => ?_,
    fun short => ?_⟩
  · have step : briefStep micros = microsPerMinute := if_neg (by omega)
    exact step ▸ down
  · have step : briefStep micros = microsPerSecond := if_pos (by omega)
    exact step ▸ down

/-- The longest duration loses its last minute but for a microsecond, and the shortest one is read
as no time at all. -/
theorem longest_and_shortest_read_rounded_down :
    (∃ parsed : Duration, Field.readDuration (.text "999999999d23h59m") = .ok (some parsed) ∧
      RoundsDown microsPerMinute (1000000000 * microsPerDay - 1) parsed.micros) ∧
    ∃ parsed : Duration, Field.readDuration (.text "0s") = .ok (some parsed) ∧
      RoundsDown microsPerSecond 1 parsed.micros := by
  let longest : Duration := ⟨1000000000 * microsPerDay - 1, by decide⟩
  let shortest : Duration := ⟨1, by decide⟩
  obtain ⟨long, longRead, minutes, -⟩ := brief_read_rounded_down longest (by decide)
  obtain ⟨short, shortRead, -, seconds⟩ := brief_read_rounded_down shortest (by decide)
  have longText : String.ofList (brief (some longest)) = "999999999d23h59m" := by decide
  have shortText : String.ofList (brief (some shortest)) = "0s" := by decide
  exact ⟨⟨long, longText ▸ longRead, minutes (by decide)⟩,
    ⟨short, shortText ▸ shortRead, seconds (by decide)⟩⟩

end Duration

end LeaseRoster
