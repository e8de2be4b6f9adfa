import LeaseRoster.Proofs.OrderedTexts
import LeaseRoster.Proofs.StoredMoments
import Mathlib.Data.String.Basic

/-!
# The order of stored moments

Moments are stored as texts of one length, with the greater parts in front and every part padded,
so that the texts are ordered as the instants are.  For days this rests on the calendar: of two
days the later one lies in a later year, or in a later month of the same year, or has a later
day of the same month.
-/

namespace LeaseRoster

namespace Calendar

theorem daysBeforeMonth_mono (year : Nat) : Monotone (daysBeforeMonth year) := by
  refine monotone_nat_of_le_succ fun month => ?_
  rw [daysBeforeMonth_succ]
  exact Nat.le_add_right _ _

/-- A later day is written with a later date. -/
theorem civil_lt_civil {one other : Nat} (less : one < other) (inRange : other < dayLimit) :
    (civil one).1 < (civil other).1 ∨ (civil one).1 = (civil other).1 ∧
      ((civil one).2.1 < (civil other).2.1 ∨ (civil one).2.1 = (civil other).2.1 ∧
        (civil one).2.2 < (civil other).2.2) := by
  obtain ⟨oneDay, oneNumber⟩ := civil_spec (less.trans inRange)
  obtain ⟨otherDay, otherNumber⟩ := civil_spec inRange
  obtain ⟨-, -, oneStarted, -⟩ := yearOf_spec (less.trans inRange)
  obtain ⟨-, -, -, otherEnds⟩ := yearOf_spec inRange
  have years : (civil one).1 ≤ (civil other).1 := by
    by_contra later
    have passed := daysBeforeYear_mono (Nat.succ_le_of_lt (Nat.not_le.mp later))
    change daysBeforeYear (yearOf other + 1) ≤ daysBeforeYear (yearOf one) at passed
    omega
  rcases Nat.lt_or_eq_of_le years with earlier | sameYear
  · exact Or.inl earlier
  simp only [isDay, Bool.and_eq_true, decide_eq_true_eq] at oneDay otherDay
  rw [sameYear] at oneNumber oneDay
  have months : (civil one).2.1 ≤ (civil other).2.1 := by
    by_contra later
    have passed := daysBeforeMonth_mono (civil other).1 (Nat.succ_le_of_lt (Nat.not_le.mp later))
    rw [Nat.succ_eq_add_one, daysBeforeMonth_succ] at passed
    omega
  rcases Nat.lt_or_eq_of_le months with earlier | sameMonth
  · exact Or.inr ⟨sameYear, Or.inl earlier⟩
  · rw [sameMonth] at oneNumber
    exact Or.inr ⟨sameYear, Or.inr ⟨sameMonth, by omega⟩⟩

end Calendar

namespace Moment

open Text (decimalPadded WritesInOrder writesInOrder_decimalPadded append_lt_append)

/-! ## The parts of a stored moment -/

theorem writesInOrder_dayText : WritesInOrder Calendar.dayLimit 10 dayText where
  length_eq _ inRange := length_dayText inRange
  strictMonoOn one oneBelow other otherBelow less := by
    obtain ⟨oneYear, oneMonth, oneDay⟩ := Calendar.lt_of_isDay (Calendar.civil_spec oneBelow).1
    obtain ⟨otherYear, otherMonth, otherDay⟩ :=
      Calendar.lt_of_isDay (Calendar.civil_spec otherBelow).1
    have years := writesInOrder_decimalPadded (show 0 < 4 by decide)
    have pairs := writesInOrder_decimalPadded (show 0 < 2 by decide)
    have yearLength := (years.length_eq _ oneYear).trans (years.length_eq _ otherYear).symm
    have monthLength := (pairs.length_eq _ oneMonth).trans (pairs.length_eq _ otherMonth).symm
    simp only [dayText_eq, List.append_assoc, List.cons_append]
    rcases Calendar.civil_lt_civil less otherBelow with
      earlier | ⟨sameYear, earlier | ⟨sameMonth, earlier⟩⟩
    · exact append_lt_append yearLength (years.strictMonoOn oneYear otherYear earlier) _ _
    · rw [sameYear]
      refine List.append_left_lt (List.cons_lt_cons_self.mpr ?_)
      exact append_lt_append monthLength (pairs.strictMonoOn oneMonth otherMonth earlier) _ _
    · rw [sameYear, sameMonth]
      refine List.append_left_lt (List.cons_lt_cons_self.mpr ?_)
      refine List.append_left_lt (List.cons_lt_cons_self.mpr ?_)
      exact pairs.strictMonoOn oneDay otherDay earlier

theorem writesInOrder_clockText : WritesInOrder 86400 8 clockText := by
  have pairs := writesInOrder_decimalPadded (show 0 < 2 by decide)
  have sixties := (pairs.mono (show 60 ≤ 10 ^ 2 by decide)).cons ':'
  have whole := ((pairs.mono (show 24 ≤ 10 ^ 2 by decide)).append sixties).append sixties
  refine whole.congr fun seconds _ => ?_
  rw [clockText_eq, Nat.div_div_eq_div_mul]

theorem writesInOrder_microsText : WritesInOrder microsPerSecond 7 microsText :=
  (writesInOrder_decimalPadded (show 0 < 6 by decide)).cons '.'

/-- What is stored of a clock reading in universal time. -/
def wallText (wall : Nat) : List Char :=
  dayText (wall / microsPerDay) ++
    'T' :: (clockText (wall % microsPerDay / microsPerSecond) ++
      microsText (wall % microsPerDay % microsPerSecond) ++ universalMark)

theorem writesInOrder_wallText : WritesInOrder wallLimit 32 wallText :=
  writesInOrder_dayText.append
    (((writesInOrder_clockText.append writesInOrder_microsText).append_const universalMark).cons 'T')

/-! ## Stored moments -/

/-- Whether the instant of a moment lies in the years 1 to 9999 of universal time. -/
def IsDated (moment : Moment) : Prop :=
  (Calendar.daysBeforeYear 1 * microsPerDay : Nat) ≤ moment.instant ∧
    moment.instant < (Calendar.daysBeforeYear 10000 * microsPerDay : Nat)

theorem isDated_iff (moment : Moment) :
    moment.IsDated ↔ 0 ≤ moment.instant ∧ moment.instant < wallLimit := by
  have first : Calendar.daysBeforeYear 1 * microsPerDay = 0 := by decide
  have last : Calendar.daysBeforeYear 10000 * microsPerDay = wallLimit := by decide
  rw [IsDated, first, last, Nat.cast_zero]

theorem storedText?_eq_some_iff (moment : Moment) (text : List Char) :
    moment.storedText? = some text ↔
      ∃ universal, moment.toUniversal? = some universal ∧ wallText universal.wall = text := by
  have micro (wall : Nat) : wall % microsPerDay % microsPerSecond = wall % microsPerSecond :=
    Nat.mod_mod_of_dvd _ (Dvd.intro_left 86400 rfl)
  cases converted : moment.toUniversal? with
  | none => simp [storedText?, converted]
  | some universal =>
    rw [storedText?_of_toUniversal? converted]
    simp [wallText, micro, dayNumber, secondOfDay, microOfSecond]

theorem isSome_toUniversal?_iff (moment : Moment) :
    moment.toUniversal?.isSome = true ↔ moment.IsDated := by
  rw [isDated_iff, toUniversal?, of?]
  by_cases started : 0 ≤ moment.instant
  · rw [if_pos started]
    by_cases inRange : moment.instant.toNat < wallLimit
    · rw [dif_pos inRange]
      exact iff_of_true rfl ⟨started, by omega⟩
    · rw [dif_neg inRange]
      exact iff_of_false Bool.false_ne_true fun within => inRange (by omega)
  · rw [if_neg started]
    exact iff_of_false Bool.false_ne_true fun within => started within.1

/-- A stored moment is the clock reading of its instant in universal time. -/
theorem exists_wall_of_storedText? {moment : Moment} {text : List Char}
    (stored : moment.storedText? = some text) :
    ∃ wall, wall < wallLimit ∧ (wall : Int) = moment.instant ∧ wallText wall = text := by
  obtain ⟨universal, converted, written⟩ := (storedText?_eq_some_iff moment text).mp stored
  exact ⟨universal.wall, universal.inRange, (of?_eq_some converted).1, written⟩

theorem isSome_storedText?_iff (moment : Moment) :
    moment.storedText?.isSome = true ↔ moment.IsDated := by
  rw [← isSome_toUniversal?_iff]
  simp [Option.isSome_iff_exists, storedText?_eq_some_iff]

theorem storedText_lt_iff {one other : Moment} {oneText otherText : List Char}
    (oneStored : one.storedText? = some oneText)
    (otherStored : other.storedText? = some otherText) :
    oneText < otherText ↔ one.instant < other.instant := by
  obtain ⟨oneWall, oneBelow, oneInstant, rfl⟩ := exists_wall_of_storedText? oneStored
  obtain ⟨otherWall, otherBelow, otherInstant, rfl⟩ := exists_wall_of_storedText? otherStored
  rw [writesInOrder_wallText.lt_iff oneBelow otherBelow, ← oneInstant, ← otherInstant,
    Int.ofNat_lt]

theorem storedText_eq_iff {one other : Moment} {oneText otherText : List Char}
    (oneStored : one.storedText? = some oneText)
    (otherStored : other.storedText? = some otherText) :
    oneText = otherText ↔ one.instant = other.instant := by
  obtain ⟨oneWall, oneBelow, oneInstant, rfl⟩ := exists_wall_of_storedText? oneStored
  obtain ⟨otherWall, otherBelow, otherInstant, rfl⟩ := exists_wall_of_storedText? otherStored
  rw [writesInOrder_wallText.eq_iff oneBelow otherBelow, ← oneInstant, ← otherInstant,
    Int.ofNat_inj]

/-- The moments whose instants lie in the years 1 to 9999 are stored, whatever their distance
from universal time is.  Reading the text gives the instant back on a clock that shows universal
time, and the texts of two moments stand in the order of the instants. -/
theorem stored_texts_order_instants (one other : Moment) :
    (one.storedText?.isSome = true ↔ one.IsDated) ∧
      (∀ text, one.storedText? = some text →
        ∃ universal, readStored? text = some universal ∧ universal.offset = some 0 ∧
          universal.instant = one.instant) ∧
      ∀ text otherText, one.storedText? = some text → other.storedText? = some otherText →
        (String.ofList text < String.ofList otherText ↔ one.instant < other.instant) ∧
          (String.ofList text = String.ofList otherText ↔ one.instant = other.instant) := by
  refine ⟨isSome_storedText?_iff one, fun text stored => ?_, fun text otherText oneStored
    otherStored => ⟨?_, ?_⟩⟩
  · obtain ⟨universal, converted, -⟩ := (storedText?_eq_some_iff one text).mp stored
    obtain ⟨written, again, read⟩ := readStored?_storedText converted
    obtain rfl : written = text := Option.some.inj (again.symm.trans stored)
    exact ⟨universal, read, (of?_eq_some converted).2, instant_of_toUniversal? converted⟩
  · rw [String.lt_iff_toList_lt, String.toList_ofList, String.toList_ofList,
      storedText_lt_iff oneStored otherStored]
  · rw [String.ofList_inj, storedText_eq_iff oneStored otherStored]

/-- Of two moments around the turn of a year the clock that shows more may be behind. -/
theorem stored_texts_order_turn_of_year :
    ∃ eastern western : Moment, western.wall < eastern.wall ∧
      eastern.storedText? = some "2023-12-31T23:15:29.500000+00:00".toList ∧
        western.storedText? = some "2024-01-01T00:00:00.000001+00:00".toList ∧
          "2023-12-31T23:15:29.500000+00:00" < "2024-01-01T00:00:00.000001+00:00" := by
  let eastern : Moment := ⟨microsOf 738885 5 0 0 0, some (20670500000 : Int), by decide⟩
  let western : Moment := ⟨microsOf 738884 20 0 0 1, some (-14400000000 : Int), by decide⟩
  have early : eastern.storedText? = some "2023-12-31T23:15:29.500000+00:00".toList := by
    decide
  have late : western.storedText? = some "2024-01-01T00:00:00.000001+00:00".toList := by
    decide
  refine ⟨eastern, western, by decide, early, late, ?_⟩
  have ordered := ((stored_texts_order_instants eastern western).2.2 _ _ early late).1
  rw [String.ofList_toList, String.ofList_toList] at ordered
  exact ordered.mpr (by decide)

end Moment

end LeaseRoster
