import LeaseRoster.Proofs.ExactCounts
import LeaseRoster.Proofs.PaddedDecimal
import LeaseRoster.Snapshot

/-!
# Remaining times

The time that a lease has left is rounded to a floating-point number of seconds, of which the whole
seconds are written in days, hours, minutes and seconds.  As long as the numbers are close enough
to tell microseconds apart, rounding does not reach the next whole second, so what is written is
read back as the time that is left, rounded down to whole seconds.
-/

namespace LeaseRoster

namespace Binary64

/-! ## Whole parts of rounded quotients -/

theorem two_mul_roundHalfEven_le (numerator denominator : Nat) :
    2 * (denominator * roundHalfEven numerator denominator) ≤ 2 * numerator + denominator := by
  have parts := Nat.div_add_mod numerator denominator
  unfold roundHalfEven
  dsimp only
  split
  · omega
  · have up : denominator * (numerator / denominator + 1) =
        denominator * (numerator / denominator) + denominator := Nat.mul_succ _ _
    split
    · omega
    · split
      · omega
      · omega

/-- A quotient that is counted in pieces of one, and rounded to whole pieces, does not reach the
next whole number if there are more pieces than the divisor tells apart. -/
theorem rounded_within (count : Nat) {divisor spare pieces : Nat} (positive : 0 < divisor)
    (sparePositive : 0 < spare) (fine : divisor ≤ pieces) :
    count / divisor * (spare * pieces) ≤
        roundHalfEven (count * (spare * pieces)) (divisor * spare) * spare ∧
      roundHalfEven (count * (spare * pieces)) (divisor * spare) * spare <
        (count / divisor + 1) * (spare * pieces) := by
  have onePositive : 0 < spare * pieces := Nat.mul_pos sparePositive (positive.trans_le fine)
  constructor
  · have whole : count / divisor * pieces ≤ count * (spare * pieces) / (divisor * spare) := by
      rw [Nat.le_div_iff_mul_le (Nat.mul_pos positive sparePositive)]
      calc count / divisor * pieces * (divisor * spare)
          = count / divisor * divisor * (spare * pieces) := by ring
        _ ≤ count * (spare * pieces) := Nat.mul_le_mul_right _ (Nat.div_mul_le_self count divisor)
    calc count / divisor * (spare * pieces) = count / divisor * pieces * spare := by ring
      _ ≤ _ := Nat.mul_le_mul_right _ (whole.trans (div_le_roundHalfEven _ _))
  · have near := two_mul_roundHalfEven_le (count * (spare * pieces)) (divisor * spare)
    generalize roundHalfEven (count * (spare * pieces)) (divisor * spare) = rounded at near ⊢
    have behind : count + 1 ≤ divisor * (count / divisor + 1) := Nat.lt_mul_div_succ count positive
    have half : divisor * spare ≤ spare * pieces := by
      rw [Nat.mul_comm]
      exact Nat.mul_le_mul_left spare fine
    apply Nat.lt_of_mul_lt_mul_left (a := 2 * divisor)
    calc 2 * divisor * (rounded * spare) = 2 * (divisor * spare * rounded) := by ring
      _ ≤ 2 * (count * (spare * pieces)) + spare * pieces := near.trans (Nat.add_le_add_left half _)
      _ < 2 * ((count + 1) * (spare * pieces)) := by
        rw [Nat.add_mul, Nat.one_mul]
        omega
      _ ≤ 2 * (divisor * (count / divisor + 1) * (spare * pieces)) :=
        Nat.mul_le_mul_left 2 (Nat.mul_le_mul_right _ behind)
      _ = 2 * divisor * ((count / divisor + 1) * (spare * pieces)) := by ring

theorem exists_exponent_ge :
    ∃ exponent, 20 ≤ exponent ∧ unitsPerOne = 2 ^ exponent ∧ 2 ^ 33 * 2 ^ exponent ≤ unitsLimit :=
  ⟨unitExponent, by decide, by decide +kernel, by decide +kernel⟩

/-- The number nearest to a quotient has its whole part, if the numbers near it are closer together
than the quotients of that divisor. -/
theorem exists_units_ofRatio {count divisor : Nat} (positive : 0 < divisor)
    (coarse : divisor ≤ 2 ^ 20) (small : count < divisor * 2 ^ 33) :
    ∃ units, ofRatio false count divisor = .finite false units ∧
      wholePart units = count / divisor := by
  obtain ⟨exponent, wide, one, inRange⟩ := exists_exponent_ge
  have spaced : (count * 2 ^ exponent / divisor).log2 - 52 + 20 ≤ exponent := by
    by_cases none : count * 2 ^ exponent / divisor = 0
    · rw [none]
      exact wide
    · have below : count * 2 ^ exponent / divisor < 2 ^ (33 + exponent) := by
        apply Nat.div_lt_of_lt_mul
        rw [pow_add, ← Nat.mul_assoc]
        exact Nat.mul_lt_mul_of_pos_right small (Nat.two_pow_pos exponent)
      have bits := (Nat.log2_lt none).mpr below
      omega
  have split : 2 ^ exponent = 2 ^ ((count * 2 ^ exponent / divisor).log2 - 52) *
      2 ^ (exponent - ((count * 2 ^ exponent / divisor).log2 - 52)) := by
    rw [← pow_add, Nat.add_sub_cancel' (by omega)]
  have fine : divisor ≤ 2 ^ (exponent - ((count * 2 ^ exponent / divisor).log2 - 52)) :=
    coarse.trans (Nat.pow_le_pow_right (by decide) (by omega))
  obtain ⟨least, most⟩ := rounded_within count positive (Nat.two_pow_pos _) fine
  rw [← split] at least most
  have whole : count / divisor + 1 ≤ 2 ^ 33 := Nat.div_lt_of_lt_mul small
  refine ⟨_, ?_, Eq.trans (by rw [wholePart, one]) (Nat.div_eq_of_lt_le least most)⟩
  rw [ofRatio, nearest, one]
  exact if_pos (most.trans_le ((Nat.mul_le_mul_right _ whole).trans inRange))

end Binary64

namespace Snapshot

open Text (isAsciiDigit)

theorem wholeSeconds_eq {micros : Nat} (small : micros < microsPerSecond * 2 ^ 33) :
    wholeSeconds micros = micros / microsPerSecond := by
  obtain ⟨units, rounded, whole⟩ :=
    Binary64.exists_units_ofRatio (by decide) (by decide +kernel) small
  rw [wholeSeconds, rounded, cutOff, whole]

/-! ## Reading a remaining time -/

/-- What is read of a remaining time: the numbers in front of its letters, of which the first ones
may be left out. -/
structure Remaining where
  days : Option Nat
  hours : Option Nat
  minutes : Nat
  seconds : Nat
deriving DecidableEq

namespace Remaining

/-- The seconds that a remaining time comes to. -/
def total (remaining : Remaining) : Nat :=
  remaining.days.getD 0 * 86400 + remaining.hours.getD 0 * 3600 + remaining.minutes * 60 +
    remaining.seconds

/-- A number of at least two digits with a letter behind it, at the front of a text, and what
follows. -/
def field? (letter : Char) (text : List Char) : Option (Nat × List Char) :=
  let digits := text.takeWhile isAsciiDigit
  match text.dropWhile isAsciiDigit with
  | [] => none
  | mark :: rest =>
    if mark = letter ∧ 2 ≤ digits.length then
      some (Text.ofDigits 10 (digits.filterMap Text.decimalValue?), rest)
    else none

/-- A field at the front of a text that another one follows, behind a comma and a blank. -/
def leading? (letter : Char) (text : List Char) : Option (Nat × List Char) :=
  match field? letter text with
  | some (number, ',' :: ' ' :: rest) => some (number, rest)
  | _ => none

/-- A field at the front of a text that may be left out, and what follows. -/
def optional (letter : Char) (text : List Char) : Option Nat × List Char :=
  match leading? letter text with
  | some (number, rest) => (some number, rest)
  | none => (none, text)

/-- The remaining time that a text shows. -/
def read? (text : List Char) : Option Remaining :=
  let (days, afterDays) := optional 'd' text
  let (hours, afterHours) := optional 'h' afterDays
  match leading? 'm' afterHours with
  | none => none
  | some (minutes, afterMinutes) =>
    match field? 's' afterMinutes with
    | some (seconds, []) => some ⟨days, hours, minutes, seconds⟩
    | _ => none

section Fields

variable (letter : Char) (stops : isAsciiDigit letter = false) (value : Nat) (rest : List Char)
include stops

theorem span_lettered :
    (lettered value letter ++ rest).takeWhile isAsciiDigit = Moment.twoDigits value ∧
      (lettered value letter ++ rest).dropWhile isAsciiDigit = letter :: rest := by
  have digits : ∀ character ∈ Moment.twoDigits value, isAsciiDigit character = true :=
    fun _ member => Text.isAsciiDigit_of_mem_decimalPadded member
  rw [lettered, List.append_assoc, List.singleton_append, List.takeWhile_append_of_pos digits,
    List.dropWhile_append_of_pos digits, List.takeWhile_cons_of_neg (by simp [stops]),
    List.dropWhile_cons_of_neg (by simp [stops]), List.append_nil]
  exact ⟨rfl, rfl⟩

theorem field?_lettered : field? letter (lettered value letter ++ rest) = some (value, rest) := by
  obtain ⟨front, behind⟩ := span_lettered letter stops value rest
  have several : 2 ≤ (Moment.twoDigits value).length := Text.le_length_decimalPadded 2 value
  have denoted : Text.ofDigits 10 ((Moment.twoDigits value).filterMap Text.decimalValue?) = value :=
    Text.ofDigits_decimalPadded 2 value
  simp only [field?, front, behind, several, and_self, if_true, denoted]

theorem field?_other {other : Char} (different : letter ≠ other) :
    field? other (lettered value letter ++ rest) = none := by
  obtain ⟨-, behind⟩ := span_lettered letter stops value rest
  simp only [field?, behind, different, false_and, if_false]

theorem leading?_lettered :
    leading? letter (lettered value letter ++ ',' :: ' ' :: rest) = some (value, rest) := by
  simp only [leading?, field?_lettered letter stops]

theorem leading?_other {other : Char} (different : letter ≠ other) :
    leading? other (lettered value letter ++ rest) = none := by
  simp only [leading?, field?_other letter stops value rest different]

/-- A field that may be left out is read if it is there, and else what follows is left. -/
theorem optional_lettered (present : Prop) [Decidable present]
    (last : leading? letter rest = none) :
    optional letter (if present then lettered value letter ++ ',' :: ' ' :: rest else rest) =
      (if present then some value else none, rest) := by
  by_cases shown : present
  · simp only [shown, if_true, optional, leading?_lettered letter stops]
  · simp only [shown, if_false, optional, last]

end Fields

/-- The remaining time that is written for a number of seconds. -/
def ofSeconds (seconds : Nat) : Remaining where
  days := if 86400 ≤ seconds then some (seconds / 86400) else none
  hours := if 3600 ≤ seconds then some (seconds % 86400 / 3600) else none
  minutes := seconds % 3600 / 60
  seconds := seconds % 60

/-- The minutes and seconds that are always written. -/
def shortText (seconds : Nat) : List Char :=
  lettered (seconds % 3600 / 60) 'm' ++ ',' :: ' ' :: lettered (seconds % 60) 's'

/-- The hours, minutes and seconds that are written. -/
def hoursText (seconds : Nat) : List Char :=
  if 3600 ≤ seconds then
    lettered (seconds % 86400 / 3600) 'h' ++ ',' :: ' ' :: shortText seconds
  else shortText seconds

theorem remainingText_eq (seconds : Nat) :
    remainingText seconds =
      if 86400 ≤ seconds then lettered (seconds / 86400) 'd' ++ ',' :: ' ' :: hoursText seconds
      else hoursText seconds := by
  unfold remainingText hoursText
  by_cases days : 86400 ≤ seconds
  · have hours : 3600 ≤ seconds := by omega
    have some_days : 0 < seconds / 86400 := by omega
    simp only [if_pos days, if_pos hours, if_pos some_days]
    rfl
  · have no_days : ¬ 0 < seconds / 86400 := by omega
    by_cases hours : 3600 ≤ seconds
    · have some_hours : 0 < seconds % 86400 / 3600 := by omega
      simp only [if_neg days, if_pos hours, if_neg no_days, if_pos some_hours]
      rfl
    · have no_hours : ¬ 0 < seconds % 86400 / 3600 := by omega
      simp only [if_neg days, if_neg hours, if_neg no_days, if_neg no_hours]
      rfl

theorem read?_remainingText (seconds : Nat) :
    read? (remainingText seconds) = some (ofSeconds seconds) := by
  have second := field?_lettered 's' (by decide) (seconds % 60) []
  rw [List.append_nil] at second
  have minute : leading? 'm' (shortText seconds) = some (seconds % 3600 / 60, _) :=
    leading?_lettered 'm' (by decide) (seconds % 3600 / 60) (lettered (seconds % 60) 's')
  have noHour : leading? 'h' (shortText seconds) = none :=
    leading?_other 'm' (by decide) _ _ (by decide)
  have noDay : leading? 'd' (hoursText seconds) = none := by
    unfold hoursText
    split
    · exact leading?_other 'h' (by decide) _ _ (by decide)
    · exact leading?_other 'm' (by decide) _ _ (by decide)
  have hour : optional 'h' (hoursText seconds) = _ :=
    optional_lettered 'h' (by decide) (seconds % 86400 / 3600) _ (3600 ≤ seconds) noHour
  have day := optional_lettered 'd' (by decide) (seconds / 86400) _ (86400 ≤ seconds) noDay
  rw [remainingText_eq, read?]
  simp only [day, hour, minute, second, ofSeconds]

end Remaining

/-! ## Exact remaining times -/

theorem remainingText_ne_expired (seconds : Nat) : remainingText seconds ≠ "Expired".toList := by
  intro same
  have read := Remaining.read?_remainingText seconds
  have unread : Remaining.read? "Expired".toList = none := by decide
  rw [same, unread] at read
  cases read

/-- That a remaining time tells a number of seconds: its fields come to that number, each in its
bounds, and a field is left out exactly if it and all before it are zero. -/
structure Remaining.Tells (remaining : Remaining) (seconds : Nat) : Prop where
  total : remaining.total = seconds
  hours : remaining.hours.getD 0 < 24
  minutes : remaining.minutes < 60
  seconds : remaining.seconds < 60
  noDays : remaining.days = none ↔ remaining.days.getD 0 = 0
  noHours : remaining.hours = none ↔ remaining.days.getD 0 = 0 ∧ remaining.hours.getD 0 = 0

theorem Remaining.tells_ofSeconds (seconds : Nat) : (ofSeconds seconds).Tells seconds := by
  by_cases days : 86400 ≤ seconds
  · have hours : 3600 ≤ seconds := by omega
    constructor <;> simp only [Remaining.total, ofSeconds, if_pos days, if_pos hours,
      Option.getD_some, reduceCtorEq, false_iff] <;> omega
  · by_cases hours : 3600 ≤ seconds
    · constructor <;> simp only [Remaining.total, ofSeconds, if_neg days, if_pos hours,
        Option.getD_some, Option.getD_none, reduceCtorEq, false_iff] <;> omega
    · constructor <;> simp only [Remaining.total, ofSeconds, if_neg days, if_neg hours,
        Option.getD_none, and_self] <;> omega

/-- A lease shows as expired exactly if it ended before the present moment.  Otherwise, for less
than 2 ^ 33 seconds, what it shows is read back as the time that is left, rounded down to whole
seconds. -/
theorem expiry_read_back_exactly (expires now : Moment) (expiresAware : expires.isAware = true)
    (nowAware : now.isAware = true) :
    ∃ text, expiryText (some expires) now = .ok text ∧
      (text = "Expired".toList ↔ expires.instant < now.instant) ∧
      (now.instant ≤ expires.instant →
        expires.instant - now.instant < 2 ^ 33 * microsPerSecond →
          ∃ remaining seconds, Remaining.read? text = some remaining ∧
            remaining.Tells seconds ∧
            seconds * microsPerSecond ≤ expires.instant - now.instant ∧
            expires.instant - now.instant < (seconds + 1) * microsPerSecond) := by
  have comparable : (expires.isAware != now.isAware) = false := by rw [expiresAware, nowAware]; rfl
  unfold expiryText
  simp only [comparable, Bool.false_eq_true, if_false]
  by_cases passed : expires.instant < now.instant
  · rw [if_pos (by omega)]
    exact ⟨_, rfl, iff_of_true rfl passed, fun still => absurd still (by omega)⟩
  · rw [if_neg (by omega)]
    refine ⟨_, rfl, iff_of_false (remainingText_ne_expired _) passed, fun _ near => ?_⟩
    obtain ⟨micros, left⟩ : ∃ micros : Nat, expires.instant - now.instant = micros :=
      Int.eq_ofNat_of_zero_le (by omega)
    rw [left] at near ⊢
    have small : micros < microsPerSecond * 2 ^ 33 := by
      rw [Nat.mul_comm]
      exact_mod_cast near
    have next : micros < (micros / microsPerSecond + 1) * microsPerSecond := by
      rw [Nat.mul_comm]
      exact Nat.lt_mul_div_succ micros (by decide)
    refine ⟨_, micros / microsPerSecond, Remaining.read?_remainingText _, ?_, ?_, ?_⟩
    · rw [Int.toNat_natCast, wholeSeconds_eq small]
      exact Remaining.tells_ofSeconds _
    · exact_mod_cast Nat.div_mul_le_self micros microsPerSecond
    · exact_mod_cast next

/-- A microsecond less than 2 ^ 33 seconds is not rounded up, on clocks an hour apart. -/
theorem expiry_read_back_below_limit :
    ∃ text remaining,
      expiryText (some ⟨8589938191999999, some 3600000000, by decide⟩) ⟨0, some 0, by decide⟩ =
        .ok text ∧
      text ≠ "Expired".toList ∧ Remaining.read? text = some remaining ∧
      remaining.Tells 8589934591 := by
  let expires : Moment := ⟨8589938191999999, some 3600000000, by decide⟩
  let now : Moment := ⟨0, some 0, by decide⟩
  have apart : expires.instant - now.instant = 8589934591999999 := by decide
  obtain ⟨text, shown, expired, exactly⟩ := expiry_read_back_exactly expires now rfl rfl
  obtain ⟨remaining, seconds, read, tells, least, most⟩ :=
    exactly (by omega) (by rw [apart]; decide +kernel)
  rw [apart, microsPerSecond] at least most
  obtain rfl : seconds = 8589934591 := by omega
  exact ⟨text, remaining, shown, mt expired.mp (by omega), read, tells⟩

end Snapshot

end LeaseRoster
