import LeaseRoster.Proofs.CivilDates
import LeaseRoster.Proofs.PaddedDecimal

/-!
# Moments in the history

The history stores a moment as text.  Reading the text gives back the instant, on a clock
that shows universal time: the date is read off its first ten characters, the time of day
off the rest up to the sign of the distance from universal time, and that distance is
none.
-/

namespace LeaseRoster

namespace Moment

open Text (decimalPadded)

/-! ## Dates -/

theorem dayText_eq (day : Nat) :
    dayText day =
      decimalPadded 4 (Calendar.civil day).1 ++ '-' :: decimalPadded 2 (Calendar.civil day).2.1
        ++ '-' :: decimalPadded 2 (Calendar.civil day).2.2 := rfl

theorem length_dayText {day : Nat} (inRange : day < Calendar.dayLimit) :
    (dayText day).length = 10 := by
  obtain ⟨year, month, date⟩ := Calendar.lt_of_isDay (Calendar.civil_spec inRange).1
  simp [dayText_eq, Text.length_decimalPadded year (by decide),
    Text.length_decimalPadded month (by decide), Text.length_decimalPadded date (by decide)]

/-- The character behind the year of a date is a hyphen, and the month starts with a
digit. -/
theorem dayText_marks {day : Nat} (inRange : day < Calendar.dayLimit) (rest : List Char) :
    (dayText day ++ rest)[4]? = some '-' ∧ (dayText day ++ rest)[5]? ≠ some 'W' := by
  obtain ⟨year, month, _⟩ := Calendar.lt_of_isDay (Calendar.civil_spec inRange).1
  have yearLength := Text.length_decimalPadded year (by decide)
  have monthLength := Text.length_decimalPadded month (by decide)
  simp only [dayText_eq, List.append_assoc, List.cons_append]
  refine ⟨?_, ?_⟩
  · rw [List.getElem?_append_right (by omega), yearLength]
    rfl
  · rw [List.getElem?_append_right (by omega), yearLength, List.getElem?_cons_succ,
      List.getElem?_append_left (by omega)]
    intro week
    have digit := Text.forall_mem_decimalPadded month (by decide) 'W'
      (List.mem_of_getElem? week)
    exact absurd digit (by decide)

/-- The day that is written for a number is read as that number. -/
theorem readDay?_dayText {day : Nat} (inRange : day < Calendar.dayLimit) :
    readDay? (dayText day) = some day := by
  obtain ⟨year, month, date⟩ := Calendar.lt_of_isDay (Calendar.civil_spec inRange).1
  have ordinary : (decimalPadded 2 (Calendar.civil day).2.1).head?.getD '-' ≠ 'W' := by
    have length := Text.length_decimalPadded month (by decide)
    have digits := Text.forall_mem_decimalPadded month (by decide)
    cases written : decimalPadded 2 (Calendar.civil day).2.1 with
    | nil => simp [written] at length
    | cons first rest =>
      rintro rfl
      exact absurd (digits 'W' (by simp [written])) (by decide)
  have ending := digits?_decimalPadded date (by decide) []
  rw [List.append_nil] at ending
  simp [readDay?, dayText_eq, digits?_decimalPadded year, digits?_decimalPadded month,
    ordinary, afterHyphen?, ending, Date.of?_civil inRange]

/-- A date in the extended form takes ten characters. -/
theorem dateLength_dayText {day : Nat} (inRange : day < Calendar.dayLimit)
    (rest : List Char) : dateLength (dayText day ++ rest) = 10 := by
  obtain ⟨hyphen, ordinary⟩ := dayText_marks inRange rest
  have length := length_dayText inRange
  unfold dateLength
  simp only [hyphen, List.length_append, length]
  rw [if_neg (by simp; omega), if_pos (by rfl), if_neg (by simpa using ordinary)]

/-! ## Times of day -/

theorem clockText_eq (seconds : Nat) :
    clockText seconds =
      decimalPadded 2 (seconds / 3600) ++ ':' :: decimalPadded 2 (seconds / 60 % 60) ++
        ':' :: decimalPadded 2 (seconds % 60) := rfl

/-- The time of day is read up to the microseconds. -/
theorem readClock?_clockText {seconds micros : Nat} (day : seconds < 86400)
    (second : micros < microsPerSecond) :
    readClock? (clockText seconds ++ microsText micros) =
      some ⟨[seconds / 3600, seconds / 60 % 60, seconds % 60], micros, false⟩ := by
  have hours : seconds / 3600 < 10 ^ 2 := by omega
  have minutes : seconds / 60 % 60 < 10 ^ 2 := by omega
  have rest : seconds % 60 < 10 ^ 2 := by omega
  have fraction : micros < 10 ^ 6 := second
  have six := Text.length_decimalPadded fraction (by decide)
  have written : decimalPadded 6 micros ≠ [] := List.ne_nil_of_length_pos (by omega)
  have digits := digits?_decimalPadded fraction (by decide) []
  rw [List.append_nil] at digits
  have pairs : readPairs? none 3 (clockText seconds ++ microsText micros) =
      some ([seconds / 3600, seconds / 60 % 60, seconds % 60],
        .fraction (decimalPadded 6 micros)) := by
    simp [readPairs?, clockText_eq, microsText, digits?_decimalPadded hours,
      digits?_decimalPadded minutes, digits?_decimalPadded rest, written]
  have read : readFraction? (decimalPadded 6 micros) = some (micros, false) := by
    simp [readFraction?, six, digits]
  simp [readClock?, pairs, read]

/-- Nothing in a time of day starts a distance from universal time. -/
theorem not_startsOffset_clock {seconds micros : Nat} (day : seconds < 86400)
    (second : micros < microsPerSecond) :
    ∀ character ∈ clockText seconds ++ microsText micros,
      (!startsOffset character) = true := by
  have digit (character : Char) (isDigit : Text.isAsciiDigit character = true) :
      (!startsOffset character) = true := by
    by_contra starts
    simp only [startsOffset, Bool.not_eq_true, Bool.not_eq_false', Bool.or_eq_true,
      beq_iff_eq] at starts
    rcases starts with (rfl | rfl) | rfl <;> exact absurd isDigit (by decide)
  intro character member
  have hours : seconds / 3600 < 10 ^ 2 := by omega
  have minutes : seconds / 60 % 60 < 10 ^ 2 := by omega
  have rest : seconds % 60 < 10 ^ 2 := by omega
  have fraction : micros < 10 ^ 6 := second
  simp only [clockText_eq, microsText, List.mem_append, List.mem_cons] at member
  rcases member with ((found | rfl | found) | rfl | found) | rfl | found
  · exact digit _ (Text.forall_mem_decimalPadded hours (by decide) _ found)
  · decide
  · exact digit _ (Text.forall_mem_decimalPadded minutes (by decide) _ found)
  · decide
  · exact digit _ (Text.forall_mem_decimalPadded rest (by decide) _ found)
  · decide
  · exact digit _ (Text.forall_mem_decimalPadded fraction (by decide) _ found)

theorem readTime?_clockText {seconds micros : Nat} (day : seconds < 86400)
    (second : micros < microsPerSecond) :
    readTime? (clockText seconds ++ microsText micros ++ ['+', '0', '0', ':', '0', '0']) =
      some (seconds * microsPerSecond + micros, some 0) := by
  have clear := not_startsOffset_clock day second
  have front : (clockText seconds ++ microsText micros ++
      ['+', '0', '0', ':', '0', '0']).takeWhile (fun character => !startsOffset character) =
        clockText seconds ++ microsText micros := by
    rw [List.takeWhile_append_of_pos clear]
    exact List.append_nil _
  have back : (clockText seconds ++ microsText micros ++
      ['+', '0', '0', ':', '0', '0']).dropWhile (fun character => !startsOffset character) =
        ['+', '0', '0', ':', '0', '0'] := by
    rw [List.dropWhile_append_of_pos clear]
    rfl
  have offset : readOffset? ['+', '0', '0', ':', '0', '0'] = some 0 := by decide
  have total : (seconds / 3600 * 60 + seconds / 60 % 60) * 60 + seconds % 60 = seconds := by
    omega
  have hour : seconds / 3600 < 24 := by omega
  have minute : seconds / 60 % 60 < 60 := by omega
  have last : seconds % 60 < 60 := by omega
  simp only [readTime?, front, back, readClock?_clockText day second]
  simp [offset, ClockText.isTimeOfDay, ClockText.seconds, hour, minute, last, total]

/-! ## Whole moments -/

/-- The end of a stored text says that it shows universal time. -/
def universalMark : List Char := ['+', '0', '0', ':', '0', '0']

theorem storedText?_of_toUniversal? {moment universal : Moment}
    (converted : moment.toUniversal? = some universal) :
    moment.storedText? =
      some (dayText universal.dayNumber ++
        'T' :: (clockText universal.secondOfDay ++ microsText universal.microOfSecond ++
          universalMark)) := by
  simp [storedText?, converted, secondsText, universalMark]

/-- A clock reading is made up of its day, second and microsecond. -/
theorem wall_eq_parts (moment : Moment) :
    moment.dayNumber * microsPerDay +
      (moment.secondOfDay * microsPerSecond + moment.microOfSecond) = moment.wall := by
  have day := Nat.div_add_mod moment.wall microsPerDay
  have second := Nat.div_add_mod (moment.wall % microsPerDay) microsPerSecond
  have micro : moment.wall % microsPerDay % microsPerSecond = moment.wall % microsPerSecond :=
    Nat.mod_mod_of_dvd _ (Dvd.intro_left 86400 rfl)
  simp only [dayNumber, secondOfDay, microOfSecond]
  rw [Nat.mul_comm _ microsPerDay, Nat.mul_comm _ microsPerSecond, ← micro, second, day]

theorem dayNumber_lt (moment : Moment) : moment.dayNumber < Calendar.dayLimit :=
  Nat.div_lt_of_lt_mul (Nat.mul_comm Calendar.dayLimit microsPerDay ▸ moment.inRange)

theorem secondOfDay_lt (moment : Moment) : moment.secondOfDay < 86400 :=
  Nat.div_lt_of_lt_mul (Nat.mul_comm 86400 microsPerSecond ▸ Nat.mod_lt _ (by decide))

theorem microOfSecond_lt (moment : Moment) : moment.microOfSecond < microsPerSecond :=
  Nat.mod_lt _ (by decide)

/-- A moment is the only one with its clock reading and its distance from universal
time. -/
theorem of?_wall (moment : Moment) : of? (moment.wall : Int) moment.offset = some moment := by
  simp [of?, moment.inRange]

theorem assumeUniversal_of_offset {moment : Moment} (shown : moment.offset = some 0) :
    moment.assumeUniversal = moment := by
  rw [assumeUniversal, shown, Option.getD_some, ← shown]

/-- A moment is read from its day, one character that is passed over, and its time. -/
theorem read?_of_parts (text : List Char) {timeText : List Char} {mark : Char}
    {day micros : Nat} {offset : Option Int} (long : ¬ text.length < 7)
    (date : readDay? (text.take (dateLength text)) = some day)
    (parted : text.drop (dateLength text) = mark :: timeText)
    (time : readTime? timeText = some (micros, offset)) :
    read? text = of? (day * microsPerDay + micros) offset := by
  unfold read?
  simp only [if_neg long]
  -- Every bind is opened by hand: a simplifier that reduces all of them at once leaves
  -- the kernel with products of large numbers to compare.
  rw [date, parted]
  change ((readTime? timeText).bind fun read =>
    of? (day * microsPerDay + (read.1 : Int)) read.2) = _
  rw [time]
  exact Option.bind_some _ _

/-- A stored moment denotes the instant that was stored. -/
theorem readStored?_storedText {moment universal : Moment}
    (converted : moment.toUniversal? = some universal) :
    ∃ stored, moment.storedText? = some stored ∧ readStored? stored = some universal := by
  refine ⟨_, storedText?_of_toUniversal? converted, ?_⟩
  have shown : universal.offset = some 0 := (of?_eq_some converted).2
  have day := dayNumber_lt universal
  generalize behind : clockText universal.secondOfDay ++
    microsText universal.microOfSecond ++ universalMark = time
  have clock : readTime? time = some (universal.secondOfDay * microsPerSecond +
      universal.microOfSecond, some 0) := by
    rw [← behind]
    exact readTime?_clockText (secondOfDay_lt universal) (microOfSecond_lt universal)
  have read := read?_of_parts (dayText universal.dayNumber ++ 'T' :: time)
    (by rw [List.length_append, length_dayText day]; omega)
    (by rw [dateLength_dayText day, List.take_left' (length_dayText day),
      readDay?_dayText day])
    (by rw [dateLength_dayText day, List.drop_left' (length_dayText day)])
    clock
  have wall : ((universal.dayNumber : Int) * microsPerDay + ((universal.secondOfDay *
      microsPerSecond + universal.microOfSecond : Nat) : Int)) = universal.wall := by
    exact_mod_cast wall_eq_parts universal
  rw [readStored?, read, wall, ← shown, of?_wall, Option.map_some,
    assumeUniversal_of_offset shown]

end Moment

end LeaseRoster
