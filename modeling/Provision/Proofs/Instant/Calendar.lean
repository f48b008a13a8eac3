/-
**The calendar there and back.**

Days are counted in eras of four hundred years, each year from March:

* `Date.yearOfDay` is the year of an era that a day is in, which starts and ends with the right days
  (`Date.yearOfDay_bounds`), and `Date.monthOfDay` the month of that year;
* `Date.days_ofDays`: a day that became a date is the day of that date;
* `Date.isValid_ofDays`: the date is in the calendar.
-/

import Provision.Instant.Basic

namespace Provision.Date

/-! ### Years of an era -/

/-- The year of an era that a day of the era is in. -/
def yearOfDay (day : Nat) : Nat := (day - day / 1460 + day / 36524 - day / 146096) / 365

/-- The day of an era with which a year starts. -/
def startOfYear (year : Nat) : Nat := 365 * year + year / 4 - year / 100

/-- The days of a year of an era after its first one. -/
def restOfYear (year : Nat) : Nat := if isLeap (year + 1 : Nat) then 365 else 364

theorem yearOfDay_succ (day : Nat) : yearOfDay day ≤ yearOfDay (day + 1) := by
  unfold yearOfDay
  omega

theorem yearOfDay_mono {first second : Nat} (earlier : first ≤ second) :
    yearOfDay first ≤ yearOfDay second := by
  induction earlier with
  | refl => exact Nat.le_refl _
  | step _ hyp => exact Nat.le_trans hyp (yearOfDay_succ _)

/-- The first and the last day of each year are in that year, and the next day starts the next
year. -/
theorem yearOfDay_ends : ∀ year < 400, yearOfDay (startOfYear year) = year ∧
    yearOfDay (startOfYear year + restOfYear year) = year ∧
    (year < 399 → startOfYear (year + 1) = startOfYear year + restOfYear year + 1) ∧
    (year = 399 → startOfYear year + restOfYear year = 146096) := by
  decide +kernel

/-- **A day is in its year.** -/
theorem yearOfDay_bounds {day : Nat} (inside : day < 146097) :
    yearOfDay day < 400 ∧ startOfYear (yearOfDay day) ≤ day ∧
      day ≤ startOfYear (yearOfDay day) + restOfYear (yearOfDay day) := by
  have less : yearOfDay day < 400 := by
    unfold yearOfDay
    omega
  obtain ⟨-, -, following, last⟩ := yearOfDay_ends (yearOfDay day) less
  refine ⟨less, ?_, ?_⟩
  · -- otherwise the day would be in the year before
    by_cases early : day < startOfYear (yearOfDay day)
    · cases year : yearOfDay day with
      | zero =>
          rw [year] at early
          exact absurd early (Nat.not_lt_zero _)
      | succ before =>
          obtain ⟨-, ends, next, -⟩ := yearOfDay_ends before (by omega)
          rw [year, next (by omega)] at early
          have bound := yearOfDay_mono (Nat.le_of_lt_succ early)
          rw [ends] at bound
          omega
    · omega
  · -- otherwise it would be in the year after
    by_cases late : startOfYear (yearOfDay day) + restOfYear (yearOfDay day) < day
    · by_cases final : yearOfDay day = 399
      · have whole := last final
        omega
      · have next := following (by omega)
        have bound := yearOfDay_mono (next ▸ late : startOfYear (yearOfDay day + 1) ≤ day)
        rw [(yearOfDay_ends (yearOfDay day + 1) (by omega)).1] at bound
        omega
    · omega

/-! ### Months of a year -/

/-- The month of a year from March that a day of the year is in. -/
def monthOfDay (day : Nat) : Nat := (5 * day + 2) / 153

/-- The day of a year from March with which a month starts. -/
def startOfMonth (month : Nat) : Nat := (153 * month + 2) / 5

/-- The number of a month in a year from January. -/
def civil (month : Nat) : Nat := if month < 10 then month + 3 else month - 9

/-- A day is in its month, which has that day; only February depends on the year. -/
theorem monthOfDay_bounds : ∀ day < 366, startOfMonth (monthOfDay day) ≤ day ∧
    1 ≤ civil (monthOfDay day) ∧ civil (monthOfDay day) ≤ 12 ∧
    (civil (monthOfDay day) + 9) % 12 = monthOfDay day ∧
    (civil (monthOfDay day) = 2 → day < 365 → day - startOfMonth (monthOfDay day) + 1 ≤ 28) ∧
    (civil (monthOfDay day) = 2 → day - startOfMonth (monthOfDay day) + 1 ≤ 29) ∧
    (civil (monthOfDay day) ≠ 2 → day - startOfMonth (monthOfDay day) + 1 ≤
      daysOfMonth 1 (civil (monthOfDay day))) := by
  decide +kernel

/-! ### Dates -/

/-- The day of an era that a day since the start of 1970 is. -/
def dayOfEra (days : Int) : Nat := ((days + 719468) % 146097).toNat

/-- The day of its year from March. -/
def dayOfYear (days : Int) : Nat := dayOfEra days - startOfYear (yearOfDay (dayOfEra days))

theorem dayOfEra_lt (days : Int) : dayOfEra days < 146097 := by
  unfold dayOfEra
  omega

theorem dayOfYear_lt (days : Int) : dayOfYear days < 366 := by
  obtain ⟨-, -, late⟩ := yearOfDay_bounds (dayOfEra_lt days)
  have short : restOfYear (yearOfDay (dayOfEra days)) ≤ 365 := by
    unfold restOfYear
    split <;> omega
  unfold dayOfYear
  omega

/-- The parts of the date of a day. -/
theorem ofDays_eq (days : Int) :
    ofDays days =
      ⟨yearOfDay (dayOfEra days) + (days + 719468) / 146097 * 400 +
          (if civil (monthOfDay (dayOfYear days)) ≤ 2 then 1 else 0),
        civil (monthOfDay (dayOfYear days)),
        dayOfYear days - startOfMonth (monthOfDay (dayOfYear days)) + 1⟩ := rfl

/-- **A day that became a date is the day of that date.** -/
theorem days_ofDays (days : Int) : (ofDays days).days = days := by
  obtain ⟨less, early, -⟩ := yearOfDay_bounds (dayOfEra_lt days)
  obtain ⟨start, -, -, month, -⟩ := monthOfDay_bounds (dayOfYear days) (dayOfYear_lt days)
  have whole : (dayOfEra days : Int) = (days + 719468) % 146097 := by
    unfold dayOfEra
    omega
  have part : dayOfYear days + startOfYear (yearOfDay (dayOfEra days)) = dayOfEra days :=
    Nat.sub_add_cancel early
  rw [ofDays_eq]
  unfold Date.days
  simp only [month]
  generalize civil (monthOfDay (dayOfYear days)) = civilMonth at month
  -- the year is counted from March again
  have counted : (if civilMonth ≤ 2 then
      (yearOfDay (dayOfEra days) + (days + 719468) / 146097 * 400 +
        (if civilMonth ≤ 2 then 1 else 0) : Int) - 1
      else yearOfDay (dayOfEra days) + (days + 719468) / 146097 * 400 +
        (if civilMonth ≤ 2 then 1 else 0)) =
      yearOfDay (dayOfEra days) + (days + 719468) / 146097 * 400 := by
    split <;> simp
  have era : ((yearOfDay (dayOfEra days) : Int) + (days + 719468) / 146097 * 400) / 400 =
      (days + 719468) / 146097 := by omega
  have year : ((yearOfDay (dayOfEra days) : Int) + (days + 719468) / 146097 * 400) % 400 =
      yearOfDay (dayOfEra days) := by omega
  have day : (153 * monthOfDay (dayOfYear days) + 2) / 5 +
      (dayOfYear days - startOfMonth (monthOfDay (dayOfYear days)) + 1) - 1 = dayOfYear days := by
    unfold startOfMonth at start ⊢
    omega
  rw [counted, era, year, day]
  unfold startOfYear at part
  omega

/-- Only February depends on the year. -/
theorem daysOfMonth_of_ne {month : Nat} (other : month ≠ 2) (first second : Int) :
    daysOfMonth first month = daysOfMonth second month := by
  unfold daysOfMonth
  split
  · exact absurd rfl other
  all_goals rfl

/-- A year from March has a last day only when the leap day before it is there. -/
theorem isLeap_of_dayOfYear (days : Int) (last : dayOfYear days = 365) :
    isLeap (yearOfDay (dayOfEra days) + (days + 719468) / 146097 * 400 + 1) = true := by
  obtain ⟨-, early, late⟩ := yearOfDay_bounds (dayOfEra_lt days)
  have leap : isLeap (yearOfDay (dayOfEra days) + 1 : Nat) = true := by
    cases there : isLeap (yearOfDay (dayOfEra days) + 1 : Nat) with
    | true => rfl
    | false =>
        rw [restOfYear, there] at late
        unfold dayOfYear at last
        simp at late
        omega
  -- eras do not matter for leap years
  simp only [isLeap, Bool.and_eq_true, Bool.or_eq_true, beq_iff_eq, bne_iff_ne] at leap ⊢
  omega

/-- **The date of a day is in the calendar.** -/
theorem isValid_ofDays (days : Int) : (ofDays days).isValid = true := by
  have less := dayOfYear_lt days
  obtain ⟨-, least, greatest, -, short, long, others⟩ := monthOfDay_bounds (dayOfYear days) less
  rw [ofDays_eq]
  simp only [isValid, Bool.and_eq_true, decide_eq_true_eq]
  refine ⟨⟨⟨least, greatest⟩, Nat.succ_pos _⟩, ?_⟩
  by_cases february : civil (monthOfDay (dayOfYear days)) = 2
  · rw [february, if_pos (by decide)]
    by_cases last : dayOfYear days < 365
    · exact Nat.le_trans (short february last) (by rw [daysOfMonth]; split <;> omega)
    · have leap := isLeap_of_dayOfYear days (by omega)
      rw [daysOfMonth, leap]
      exact long february
  · exact Nat.le_trans (others february) (Nat.le_of_eq (daysOfMonth_of_ne february _ _))

end Provision.Date
