import LeaseRoster.Time.Calendar
import Mathlib.Algebra.Order.Ring.Nat
import Mathlib.Data.List.Basic
import Mathlib.Order.Monotone.Basic

/-!
# Days and their numbers

Every number below the end of year 9999 is the number of exactly the day that is written
for it.  The year is found by counting the years that start on or before the day, the
month by taking the months of the year off one after the other.
-/

namespace LeaseRoster

namespace Calendar

/-- The number of days of a year. -/
def daysInYear (year : Nat) : Nat := if isLeap year then 366 else 365

theorem isLeap_iff (year : Nat) :
    isLeap year = true ↔ year % 4 = 0 ∧ (year % 100 ≠ 0 ∨ year % 400 = 0) := by
  simp [isLeap]

theorem daysBeforeYear_succ {year : Nat} (positive : 1 ≤ year) :
    daysBeforeYear (year + 1) = daysBeforeYear year + daysInYear year := by
  obtain ⟨full, rfl⟩ := Nat.exists_eq_add_of_le' positive
  have centuries : full / 100 ≤ full * 365 + full / 4 := by omega
  simp only [daysBeforeYear, daysInYear, isLeap_iff, Nat.add_sub_cancel, Nat.succ_div,
    Nat.dvd_iff_mod_eq_zero]
  by_cases four : (full + 1) % 4 = 0 <;> by_cases hundred : (full + 1) % 100 = 0 <;>
    by_cases cycle : (full + 1) % 400 = 0 <;>
    simp only [four, hundred, cycle, if_true, if_false, ne_eq, not_true, not_false_iff,
      true_and, false_and, or_true, or_false] <;>
    omega

theorem daysBeforeYear_mono : Monotone daysBeforeYear := by
  refine monotone_nat_of_le_succ fun year => ?_
  cases year with
  | zero => decide
  | succ year =>
    rw [daysBeforeYear_succ (Nat.le_add_left 1 year)]
    exact Nat.le_add_right _ _

theorem daysBeforeMonth_succ (year month : Nat) :
    daysBeforeMonth year (month + 1) =
      daysBeforeMonth year month + daysInMonth year month := by
  have total (numbers : List Nat) (last : Nat) :
      (numbers ++ [last]).foldr (· + ·) 0 = numbers.foldr (· + ·) 0 + last := by
    induction numbers with
    | nil => simp
    | cons first rest ih => simp only [List.cons_append, List.foldr_cons, ih]; omega
  simp [daysBeforeMonth, List.range_succ, total]

/-- The twelve months make up the year. -/
theorem daysBeforeMonth_thirteen (year : Nat) :
    daysBeforeMonth year 13 = daysInYear year := by
  cases leap : isLeap year <;>
    simp [daysBeforeMonth, daysInMonth, daysInYear, List.range_succ, leap]

/-- Where a test that never comes back fails, counting the places that pass finds the
first that does not. -/
theorem length_filter_range (passes : Nat → Bool)
    (closed : ∀ step, passes (step + 1) = true → passes step = true) (count : Nat) :
    let found := ((List.range count).filter passes).length
    (∀ step < found, passes step = true) ∧ (found < count → passes found = false) ∧
      found ≤ count := by
  induction count with
  | zero => simp
  | succ count ih =>
    obtain ⟨below, stops, bound⟩ := ih
    simp only [List.range_succ, List.filter_append, List.length_append]
    have never (place later : Nat) (fails : passes place = false) :
        passes (place + later) = false := by
      induction later with
      | zero => exact fails
      | succ later ih =>
        rw [← Nat.add_assoc]
        by_contra passing
        rw [closed _ (by simpa using passing)] at ih
        cases ih
    rcases Nat.lt_or_eq_of_le bound with short | full
    · have last : passes count = false := by
        rw [← Nat.add_sub_cancel' short.le]
        exact never _ _ (stops short)
      simp only [List.filter_cons, last, List.filter_nil, List.length_nil, Nat.add_zero,
        Bool.false_eq_true, if_false]
      exact ⟨below, fun _ => stops short, by omega⟩
    · cases last : passes count with
      | false =>
        simp only [List.filter_cons, last, List.filter_nil, List.length_nil, Nat.add_zero,
          Bool.false_eq_true, if_false]
        exact ⟨below, fun _ => by rw [full]; exact last, by omega⟩
      | true =>
        simp only [List.filter_cons, last, List.filter_nil, List.length_cons,
          List.length_nil, if_true, full]
        refine ⟨?_, fun absurdly => absurd absurdly (Nat.lt_irrefl _), Nat.le_refl _⟩
        intro step inside
        rcases Nat.lt_or_eq_of_le (Nat.le_of_lt_succ inside) with earlier | equal
        · exact below step (full.symm ▸ earlier)
        · rw [equal]
          exact last

/-- A day lies in the year that is found for it. -/
theorem yearOf_spec {number : Nat} (inRange : number < dayLimit) :
    1 ≤ yearOf number ∧ yearOf number ≤ 9999 ∧
      daysBeforeYear (yearOf number) ≤ number ∧
      number < daysBeforeYear (yearOf number + 1) := by
  have limit : number < 3652059 := inRange
  have closed (step : Nat) :
      decide (daysBeforeYear (number / 366 + 1 + (step + 1)) ≤ number) = true →
        decide (daysBeforeYear (number / 366 + 1 + step) ≤ number) = true := by
    simp only [decide_eq_true_eq]
    exact (daysBeforeYear_mono (by omega)).trans
  obtain ⟨below, stops, bound⟩ := length_filter_range
    (fun step => decide (daysBeforeYear (number / 366 + 1 + step) ≤ number)) closed 30
  unfold yearOf
  simp only [decide_eq_true_eq, decide_eq_false_iff_not, Nat.not_le] at below stops ⊢
  generalize ((List.range 30).filter fun step =>
    decide (daysBeforeYear (number / 366 + 1 + step) ≤ number)).length = found
    at below stops bound ⊢
  -- The guess is not too late, and thirty years further on it is too late.
  have started : 0 < found := by
    by_contra none
    have late := stops (by omega)
    simp only [daysBeforeYear] at late
    omega
  have ended : found < 30 := by
    by_contra full
    have early := below 29 (by omega)
    simp only [daysBeforeYear] at early
    omega
  have early := below (found - 1) (by omega)
  have late := stops ended
  have next : number / 366 + 1 + (found - 1) + 1 = number / 366 + 1 + found := by omega
  rw [next]
  refine ⟨by omega, ?_, early, late⟩
  by_contra beyond
  have reached : daysBeforeYear 10000 ≤ number :=
    (daysBeforeYear_mono (by omega)).trans early
  have calendarEnd : daysBeforeYear 10000 = 3652059 := by decide
  omega

/-- Taking the months off one after the other ends inside a month. -/
theorem monthAndDay_spec (year tries month rest : Nat) (first : 1 ≤ month)
    (last : month + tries = 12)
    (inYear : daysBeforeMonth year month + rest < daysInYear year) :
    let found := monthAndDay year tries month rest
    1 ≤ found.1 ∧ found.1 ≤ 12 ∧ 1 ≤ found.2 ∧ found.2 ≤ daysInMonth year found.1 ∧
      daysBeforeMonth year found.1 + (found.2 - 1) =
        daysBeforeMonth year month + rest := by
  induction tries generalizing month rest with
  | zero =>
    have december : month = 12 := by omega
    subst december
    have total := daysBeforeMonth_thirteen year
    rw [daysBeforeMonth_succ] at total
    simp only [monthAndDay]
    refine ⟨by omega, by omega, by omega, by omega, by omega⟩
  | succ tries ih =>
    simp only [monthAndDay]
    split
    · dsimp only
      exact ⟨by omega, by omega, by omega, by omega, by omega⟩
    · have next := daysBeforeMonth_succ year month
      have found := ih (month + 1) (rest - daysInMonth year month) (by omega) (by omega)
        (by omega)
      refine ⟨found.1, found.2.1, found.2.2.1, found.2.2.2.1, ?_⟩
      rw [found.2.2.2.2]
      omega

/-- The day that is written for a number has that number. -/
theorem civil_spec {number : Nat} (inRange : number < dayLimit) :
    isDay (civil number).1 (civil number).2.1 (civil number).2.2 = true ∧
      daysBeforeYear (civil number).1 +
        daysBeforeMonth (civil number).1 (civil number).2.1 +
        ((civil number).2.2 - 1) = number := by
  obtain ⟨positive, greatest, early, late⟩ := yearOf_spec inRange
  rw [daysBeforeYear_succ positive] at late
  have before : daysBeforeMonth (yearOf number) 1 = 0 := by
    simp [daysBeforeMonth, daysInMonth]
  obtain ⟨_, _, firstDay, lastDay, total⟩ :=
    monthAndDay_spec (yearOf number) 11 1 (number - daysBeforeYear (yearOf number))
      (by omega) (by omega) (by omega)
  have written : civil number = (yearOf number,
      monthAndDay (yearOf number) 11 1 (number - daysBeforeYear (yearOf number))) := rfl
  rw [written]
  dsimp only
  refine ⟨?_, by omega⟩
  simp only [isDay, Bool.and_eq_true, decide_eq_true_eq]
  exact ⟨⟨⟨positive, greatest⟩, firstDay⟩, lastDay⟩

theorem daysInMonth_le (year month : Nat) : daysInMonth year month ≤ 31 := by
  have february : (if isLeap year = true then 29 else 28) ≤ 31 := by split <;> omega
  unfold daysInMonth
  split <;> omega

theorem daysInMonth_eq_zero (year : Nat) {month : Nat} (beyond : 12 < month) :
    daysInMonth year month = 0 := by
  unfold daysInMonth
  split <;> omega

/-- The parts of a date fit the widths in which they are written. -/
theorem lt_of_isDay {year month day : Nat} (valid : isDay year month day = true) :
    year < 10 ^ 4 ∧ month < 10 ^ 2 ∧ day < 10 ^ 2 := by
  simp only [isDay, Bool.and_eq_true, decide_eq_true_eq] at valid
  obtain ⟨⟨⟨_, greatest⟩, first⟩, last⟩ := valid
  have days := daysInMonth_le year month
  have twelve : month ≤ 12 := by
    apply Nat.le_of_not_lt
    intro beyond
    have none := daysInMonth_eq_zero year beyond
    omega
  omega

end Calendar

/-- The date that is written for a day names that day. -/
theorem Date.of?_civil {number : Nat} (inRange : number < Calendar.dayLimit) :
    (Date.of? (Calendar.civil number).1 (Calendar.civil number).2.1
      (Calendar.civil number).2.2).map Date.number = some number := by
  obtain ⟨valid, total⟩ := Calendar.civil_spec inRange
  rw [Date.of?, dif_pos valid]
  exact congrArg some total

end LeaseRoster
