import Mathlib.Tactic.IntervalCases
import SqlClient.Calendar

namespace SqlClient

/-!
# Days counted one by one

The number of a day is told from its date by a formula, with months counted from March.  It is
the number one gets by counting: the days of every year since 1970, or back from there, those of
every month of the year before, and the days of the month.

* `daysBeforeYear`, `daysBeforeMonth`, `Date.daysSinceEpoch` — the days counted.
* `daysBeforeYear_eq` — the days before a year, without counting.
* `Date.dayNumber_eq` — the formula counts right.
* `Date.dayNumber_bounds` — how far it goes.
-/

/-! ### Counting -/

/-- The length of a year. -/
def daysInYear (year : Int) : Int := if isLeapYear year then 366 else 365

/-- Days from the first of January 1970 to that of another year; years before 1970 are counted
    back. -/
def daysBeforeYear (year : Int) : Int :=
  ((List.range (year - 1970).toNat).map fun k : Nat => daysInYear (1970 + k)).sum
    - ((List.range (1970 - year).toNat).map fun k : Nat => daysInYear (1969 - k)).sum

/-- Days from the first of January to the first of the month. -/
def daysBeforeMonth (year : Int) (month : Nat) : Nat :=
  ((List.range (month - 1)).map fun k => daysInMonth year (k + 1)).sum

/-- Days since the first of January 1970. -/
def Date.daysSinceEpoch (d : Date) : Int :=
  daysBeforeYear d.year + daysBeforeMonth d.year d.month + (d.day - 1)

/-! ### Years -/

theorem isLeapYear_iff (year : Int) :
    isLeapYear year = true ↔ year % 4 = 0 ∧ (year % 100 ≠ 0 ∨ year % 400 = 0) := by
  simp [isLeapYear]

/-- The days before a year, if every year has 365 and the leap days are counted apart. -/
def plainDaysBefore (year : Int) : Int :=
  365 * (year - 1) + (year - 1) / 4 - (year - 1) / 100 + (year - 1) / 400 - 719162

/-- The next year begins when all days of this one are over, a leap day among them where there is
    one. -/
theorem plainDaysBefore_add_one (year : Int) :
    plainDaysBefore (year + 1) = plainDaysBefore year + daysInYear year := by
  have hleap := isLeapYear_iff year
  unfold plainDaysBefore daysInYear
  split
  · rename_i h
    have hyear := hleap.mp h
    omega
  · rename_i h
    have hyear := mt hleap.mpr h
    omega

/-- The days from 1970 to the beginning of a later year are those of the years between, added
    up. -/
private theorem sum_daysInYear_after (n : Nat) :
    ((List.range n).map fun k : Nat => daysInYear (1970 + k)).sum = plainDaysBefore (1970 + n) := by
  induction n with
  | zero => rfl
  | succ n ih =>
    have hnext : (1970 + (n + 1 : Nat) : Int) = 1970 + n + 1 := by omega
    rw [List.range_succ, List.map_append, List.sum_append, ih, List.map_singleton,
      List.sum_singleton, hnext, plainDaysBefore_add_one]

/-- The days from the beginning of an earlier year to 1970 are those of the years between, added
    up. -/
private theorem sum_daysInYear_before (n : Nat) :
    ((List.range n).map fun k : Nat => daysInYear (1969 - k)).sum =
      -plainDaysBefore (1970 - n) := by
  induction n with
  | zero => rfl
  | succ n ih =>
    have hyear : (1970 - n : Int) = 1969 - n + 1 := by omega
    have hnext : (1970 - (n + 1 : Nat) : Int) = 1969 - n := by omega
    rw [List.range_succ, List.map_append, List.sum_append, ih, List.map_singleton,
      List.sum_singleton, hnext, hyear, plainDaysBefore_add_one]
    omega

/-- The days before a year: 365 for every year, and those of the leap years. -/
theorem daysBeforeYear_eq (year : Int) : daysBeforeYear year = plainDaysBefore year := by
  unfold daysBeforeYear
  rw [sum_daysInYear_after, sum_daysInYear_before]
  have hzero : plainDaysBefore 1970 = 0 := rfl
  -- only one of the two ways has years in it
  by_cases h : 1970 ≤ year
  · have hafter : (1970 + ((year - 1970).toNat : Int)) = year := by omega
    have hbefore : (1970 - ((1970 - year).toNat : Int)) = 1970 := by omega
    rw [hafter, hbefore, hzero]
    omega
  · have hafter : (1970 + ((year - 1970).toNat : Int)) = 1970 := by omega
    have hbefore : (1970 - ((1970 - year).toNat : Int)) = year := by omega
    rw [hafter, hbefore, hzero]
    omega

/-! ### Months -/

/-- From the first of March to the end of the year there are 306 days in every year. -/
private theorem daysBeforeMonth_of_le {month : Nat} (hfirst : 1 ≤ month) (hlast : month ≤ 2)
    (year : Int) : (daysBeforeMonth year month : Int) = Date.monthStart (month + 9) - 306 := by
  interval_cases month
  · rfl
  · simp [daysBeforeMonth, daysInMonth, Date.monthStart]

private theorem daysBeforeMonth_of_lt {month : Nat} (hfirst : 2 < month) (hlast : month ≤ 12)
    (year : Int) :
    (daysBeforeMonth year month : Int) = Date.monthStart (month - 3) + daysInYear year - 306 := by
  cases hleap : isLeapYear year
  all_goals
    interval_cases month <;>
      simp [daysBeforeMonth, daysInMonth, daysInYear, Date.monthStart, List.range_succ, hleap]

/-! ### Dates -/

/-- **Day numbers.** The number of a day is that of the days since the first of January
    1970. -/
theorem Date.dayNumber_eq (d : Date) : d.dayNumber = d.daysSinceEpoch := by
  obtain ⟨year, month, day, hdate⟩ := d
  obtain ⟨_, _, hfirst, hlast, _, _⟩ := hdate
  simp only [dayNumber, daysSinceEpoch, daysBeforeYear_eq, marchYear, epochOffset]
  by_cases hmonth : month ≤ 2
  · -- counted from March, the first two months belong to the year before
    rw [if_pos hmonth, if_pos hmonth, daysBeforeMonth_of_le hfirst hmonth]
    simp only [plainDaysBefore]
    omega
  · have hnext := plainDaysBefore_add_one year
    rw [if_neg hmonth, if_neg hmonth, daysBeforeMonth_of_lt (Nat.not_le.mp hmonth) hlast]
    simp only [plainDaysBefore] at hnext ⊢
    omega

/-- No day of the years that are kept is further from 1970 than a hundred million days. -/
theorem Date.dayNumber_bounds (d : Date) : -100000000 < d.dayNumber ∧ d.dayNumber < 100000000 := by
  obtain ⟨hmin, hmax, hfirst, hlast, _, hday⟩ := d.isDate
  have hlength := daysInMonth_le d.year d.month
  simp only [minYear, maxYear] at hmin hmax
  simp only [dayNumber, marchYear, monthStart, epochOffset]
  split <;> omega

theorem Date.daysSinceEpoch_bounds (d : Date) :
    -100000000 < d.daysSinceEpoch ∧ d.daysSinceEpoch < 100000000 := by
  rw [← dayNumber_eq]
  exact d.dayNumber_bounds

end SqlClient
