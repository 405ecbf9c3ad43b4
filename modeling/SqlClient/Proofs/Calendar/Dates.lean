import Mathlib.Data.Int.LeastGreatest
import Mathlib.Tactic.IntervalCases
import SqlClient.Proofs.Calendar.Days

namespace SqlClient

/-!
# Dates found by their numbers

A date is told from its number by a formula, with years and months counted from March.  The
formula finds every date that is kept by its number, and what it finds has that number; and of
two dates the later has the larger number.

* `Date.IsPlace` — a day by its year and month, counted from March, and the days of the month
  that have passed.  Every date has its place (`Date.isPlace`), and so does every number
  (`Date.exists_isPlace`).
* `Date.ofDayNumber?_eq` — the formula finds the place.
* `Date.ofDayNumber?_eq_some` — numbers and dates belong to each other.
* `Date.Before.daysSinceEpoch_lt` — the order of dates is that of their numbers.
-/

namespace Date

/-! ### Years counted from March -/

/-- Days from the first of March of year 0 to that of another year. -/
def marchStart (year : Int) : Int := 365 * year + year / 4 - year / 100 + year / 400

/-- A year that begins in March ends with the February of the next. -/
theorem marchStart_eq (year : Int) :
    marchStart year = marchStart (year - 1) + daysInYear year := by
  have hleap := isLeapYear_iff year
  unfold marchStart daysInYear
  split
  · rename_i h
    have hyear := hleap.mp h
    omega
  · rename_i h
    have hyear := mt hleap.mpr h
    omega

/-- Every day is in some year counted from March: that year has begun, and the next one has not. -/
private theorem exists_marchYear (day : Int) :
    ∃ year, marchStart year ≤ day ∧ day < marchStart (year + 1) := by
  have hbounded : ∃ bound, ∀ year, marchStart year ≤ day → year ≤ bound := by
    refine ⟨max day 0, fun year h => ?_⟩
    simp only [marchStart] at h
    omega
  have hbegun : ∃ year, marchStart year ≤ day := by
    refine ⟨min day 0, ?_⟩
    simp only [marchStart]
    omega
  -- it is the last year that has begun
  obtain ⟨year, hyear, hlast⟩ := Int.exists_greatest_of_bdd hbounded hbegun
  refine ⟨year, hyear, ?_⟩
  by_contra hnext
  have hlater := hlast (year + 1) (by omega)
  omega

/-- Four hundred years are an era, and all eras are alike. -/
theorem marchStart_add_era (era year : Int) :
    marchStart (400 * era + year) = eraDays * era + marchStart year := by
  simp only [marchStart, eraDays]
  omega

/-- The year of a day of the first era.  Where every year had 365 days, the days would have to be
    divided by that; the leap days that are over are taken out first. -/
private theorem yearOfEra_eq {day year : Int} (hfirst : 0 ≤ year) (hlast : year < 400)
    (hbegun : marchStart year ≤ day) (hnext : day < marchStart (year + 1)) :
    (day - day / 1460 + day / 36524 - day / 146096) / 365 = year := by
  -- whole centuries, whole fours of years in the last of them, and the years of the last four
  obtain ⟨c, q, r, hc, hq, hr, rfl⟩ : ∃ c q r : Int, (0 ≤ c ∧ c < 4) ∧ (0 ≤ q ∧ q < 25) ∧
      (0 ≤ r ∧ r < 4) ∧ year = 100 * c + 4 * q + r :=
    ⟨year / 100, year % 100 / 4, year % 4, by omega, by omega, by omega, by omega⟩
  have hstart : marchStart (100 * c + 4 * q + r) = 36524 * c + 1461 * q + 365 * r := by
    simp only [marchStart]
    omega
  have hlength : marchStart (100 * c + 4 * q + r + 1) ≤ 36524 * c + 1461 * q + 365 * r + 366 := by
    simp only [marchStart]
    omega
  have hplain : r < 3 ∨ q = 24 ∧ c < 3 →
      marchStart (100 * c + 4 * q + r + 1) ≤ 36524 * c + 1461 * q + 365 * r + 365 := by
    simp only [marchStart]
    omega
  rw [hstart] at hbegun
  -- the last day of the era is the only one for which a fifth century seems to begin
  have hcenturies : day / 36524 - day / 146096 = c := by
    by_cases hwithin : day < 36524 * (c + 1)
    · have hlow : 36524 * c ≤ day := by omega
      have hcentury : day / 36524 = c := by omega
      have hera : day / 146096 = 0 := by omega
      omega
    · have hend : c = 3 ∧ day = 146096 := by omega
      omega
  have hfours : 25 * c + q ≤ day / 1460 ∧ day / 1460 ≤ 25 * c + q + 1 := by omega
  omega

/-! ### Months counted from March -/

/-- The month, counted from March. -/
def marchMonth (d : Date) : Int := if d.month ≤ 2 then d.month + 9 else (d.month : Int) - 3

/-- Every day of a year counted from March is in one of its twelve months, and has a place in
    it. -/
private theorem exists_marchMonth {day : Int} (hfirst : 0 ≤ day) (hlast : day < 366) :
    ∃ month, 0 ≤ month ∧ month ≤ 11 ∧ monthStart month ≤ day ∧ day < monthStart (month + 1) := by
  refine ⟨(5 * day + 2) / 153, ?_⟩
  simp only [monthStart]
  omega

/-- The month of a day of the year is found by one division, as months come in groups of five. -/
private theorem marchMonth_eq {day month : Int} (hbegun : monthStart month ≤ day)
    (hnext : day < monthStart (month + 1)) : (5 * day + 2) / 153 = month := by
  simp only [monthStart] at hbegun hnext
  omega

theorem marchMonth_bounds (d : Date) : 0 ≤ d.marchMonth ∧ d.marchMonth ≤ 11 := by
  obtain ⟨_, _, hfirst, hlast, _, _⟩ := d.isDate
  simp only [marchMonth]
  omega

/-- A month is over when the next begins; only February leaves days between. -/
theorem monthStart_add_day_lt (d : Date) :
    monthStart d.marchMonth + (d.day - 1) < monthStart (d.marchMonth + 1) := by
  obtain ⟨year, month, day, hdate⟩ := d
  obtain ⟨_, _, hfirst, hlast, _, hday⟩ := hdate
  cases hleap : isLeapYear year
  all_goals
    simp only [marchMonth, monthStart]
    interval_cases month <;> simp [daysInMonth, hleap] at hday ⊢ <;> omega

/-- The place of a date is in its own year counted from March, before the next one begins. -/
private theorem marchStart_add_day_lt (d : Date) :
    marchStart d.marchYear + (monthStart d.marchMonth + (d.day - 1)) <
      marchStart (d.marchYear + 1) := by
  have hlength := marchStart_eq (d.marchYear + 1)
  rw [add_sub_cancel_right] at hlength
  obtain ⟨_, _, _, hlast, _, hday⟩ := d.isDate
  by_cases hfebruary : d.month = 2
  · -- the last month is as long as the year asks for
    have hyear : d.marchYear + 1 = d.year := by
      simp [marchYear, hfebruary]
    have hmonth : d.marchMonth = 11 := by
      simp [marchMonth, hfebruary]
    have hlong : (d.day : Int) + 337 ≤ daysInYear d.year := by
      rw [hfebruary, daysInMonth, if_pos rfl] at hday
      unfold daysInYear
      split
      · rename_i hleap
        rw [if_pos hleap] at hday
        omega
      · rename_i hleap
        rw [if_neg hleap] at hday
        omega
    rw [hyear] at hlength ⊢
    rw [hmonth, monthStart]
    omega
  · have hmonth : d.marchMonth ≤ 10 := by
      simp only [marchMonth]
      omega
    -- ten months have passed at most, and they end before any year does
    have hshort : 365 ≤ daysInYear (d.marchYear + 1) := by
      unfold daysInYear
      split <;> decide
    have hwithin := d.monthStart_add_day_lt
    simp only [monthStart] at hwithin ⊢
    omega

/-! ### Places -/

/-- A day by its year and month, counted from March, and the days of the month that have
    passed. -/
structure IsPlace (number year month passed : Int) : Prop where
  number_eq : number + epochOffset = marchStart year + (monthStart month + passed)
  month_nonneg : 0 ≤ month
  month_le : month ≤ 11
  passed_nonneg : 0 ≤ passed
  month_lt : monthStart month + passed < monthStart (month + 1)
  year_lt : marchStart year + (monthStart month + passed) < marchStart (year + 1)

/-- Every date has its place: a year counted from March, a month of it, and a day of that. -/
theorem isPlace (d : Date) : IsPlace d.dayNumber d.marchYear d.marchMonth (d.day - 1) where
  number_eq := by
    simp only [dayNumber, marchStart, marchMonth]
    omega
  month_nonneg := d.marchMonth_bounds.1
  month_le := d.marchMonth_bounds.2
  passed_nonneg := by
    have hday : 1 ≤ d.day := d.isDate.2.2.2.2.1
    omega
  month_lt := d.monthStart_add_day_lt
  year_lt := d.marchStart_add_day_lt

/-- Every number of a day is the number of a place, so it is the number of a date. -/
theorem exists_isPlace (number : Int) : ∃ year month passed, IsPlace number year month passed := by
  obtain ⟨year, hbegun, hnext⟩ := exists_marchYear (number + epochOffset)
  have hlength : marchStart (year + 1) ≤ marchStart year + 366 := by
    simp only [marchStart]
    omega
  obtain ⟨month, hnonneg, hle, hmonth, hpassed⟩ :=
    exists_marchMonth (show 0 ≤ number + epochOffset - marchStart year by omega) (by omega)
  refine ⟨year, month, number + epochOffset - marchStart year - monthStart month, ?_⟩
  constructor
  all_goals omega

/-- **Finding a day.** The formula finds the day in its place. -/
theorem ofDayNumber?_eq {number year month passed : Int} (h : IsPlace number year month passed) :
    ofDayNumber? number = of? (if month < 10 then year else year + 1)
      (if month < 10 then month + 3 else month - 9).toNat (passed + 1).toNat := by
  obtain ⟨era, y, hfirst, hlast, rfl⟩ : ∃ era y : Int, 0 ≤ y ∧ y < 400 ∧ year = 400 * era + y :=
    ⟨year / 400, year % 400, by omega, by omega, by omega⟩
  obtain ⟨hnumber, _, _, hpassed, hmonth, hyear⟩ := h
  rw [marchStart_add_era] at hnumber
  rw [add_assoc, marchStart_add_era, marchStart_add_era] at hyear
  have hstart : 0 ≤ marchStart y ∧ marchStart (y + 1) ≤ eraDays := by
    simp only [marchStart, eraDays]
    omega
  have hmonthStart : 0 ≤ monthStart month := by
    simp only [monthStart]
    omega
  -- the parts of the formula, one after the other
  have hera : (number + epochOffset) / eraDays = era := by
    simp only [eraDays] at hnumber hyear hstart ⊢
    omega
  have hday : (number + epochOffset) % eraDays = marchStart y + (monthStart month + passed) := by
    simp only [eraDays] at hnumber hyear hstart ⊢
    omega
  have hyearOfEra := yearOfEra_eq hfirst hlast
    (show marchStart y ≤ marchStart y + (monthStart month + passed) by omega) (by omega)
  have hdayOfYear : marchStart y + (monthStart month + passed) - (365 * y + y / 4 - y / 100) =
      monthStart month + passed := by
    simp only [marchStart]
    omega
  have hmonthOfYear : (5 * (monthStart month + passed) + 2) / 153 = month :=
    marchMonth_eq (by omega) hmonth
  simp only [ofDayNumber?, hera, hday, hyearOfEra, hdayOfYear, hmonthOfYear]
  -- January and February are those of the next year
  split
  · rw [if_neg (by omega)]
    congr 1
    all_goals omega
  · rw [if_pos (by omega)]
    congr 1
    all_goals omega

/-- A date is found by the number of its day, whatever the year. -/
theorem ofDayNumber?_dayNumber (d : Date) : ofDayNumber? d.dayNumber = some d := by
  obtain ⟨_, _, hfirst, hlast, _, _⟩ := d.isDate
  have hyear : (if d.marchMonth < 10 then d.marchYear else d.marchYear + 1) = d.year := by
    simp only [marchMonth, marchYear]
    omega
  have hmonth : (if d.marchMonth < 10 then d.marchMonth + 3 else d.marchMonth - 9).toNat =
      d.month := by
    simp only [marchMonth]
    omega
  have hday : ((d.day : Int) - 1 + 1).toNat = d.day := by omega
  rw [ofDayNumber?_eq d.isPlace, hyear, hmonth, hday]
  exact dif_pos d.isDate

/-- A date that is made of a year, a month and a day has those parts. -/
theorem parts_of_of? {year : Int} {month day : Nat} {d : Date} (h : of? year month day = some d) :
    d.year = year ∧ d.month = month ∧ d.day = day := by
  unfold of? at h
  split at h
  · obtain rfl := Option.some.inj h
    exact ⟨rfl, rfl, rfl⟩
  · exact absurd h nofun

/-- A date that is found by a number has that number; with the other way round, numbers and dates
    correspond. -/
theorem dayNumber_of_ofDayNumber? {number : Int} {d : Date} (h : ofDayNumber? number = some d) :
    d.dayNumber = number := by
  obtain ⟨year, month, passed, hplace⟩ := exists_isPlace number
  rw [ofDayNumber?_eq hplace] at h
  obtain ⟨hnumber, hnonneg, hle, hpassed, _, _⟩ := hplace
  obtain ⟨hyear, hmonth, hday⟩ := parts_of_of? h
  simp only [marchStart] at hnumber
  simp only [dayNumber, marchYear, hday]
  -- months before March belong to the year before
  by_cases hmarch : month < 10
  · rw [if_pos hmarch] at hyear hmonth
    have hback : (d.month : Int) - 3 = month := by omega
    rw [if_neg (show ¬ d.month ≤ 2 by omega), if_neg (show ¬ d.month ≤ 2 by omega), hback, hyear]
    omega
  · rw [if_neg hmarch] at hyear hmonth
    have hback : (d.month : Int) + 9 = month := by omega
    rw [if_pos (show d.month ≤ 2 by omega), if_pos (show d.month ≤ 2 by omega), hback, hyear]
    omega

/-- **Numbers and dates.** A date is found by the number that it has, and by no other. -/
theorem ofDayNumber?_eq_some {number : Int} {d : Date} :
    ofDayNumber? number = some d ↔ d.dayNumber = number := by
  constructor
  · exact dayNumber_of_ofDayNumber?
  · rintro rfl
    exact d.ofDayNumber?_dayNumber

/-! ### Order -/

/-- A date is before another one if its year is, or in the same year its month, or in the same
    month its day. -/
def Before (d e : Date) : Prop :=
  d.year < e.year ∨ d.year = e.year ∧ (d.month < e.month ∨ d.month = e.month ∧ d.day < e.day)

/-- Two dates are the same, or one is before the other. -/
theorem before_or_eq_or_before (d e : Date) : d.Before e ∨ d = e ∨ e.Before d := by
  obtain ⟨year, month, day, _⟩ := d
  obtain ⟨year', month', day', _⟩ := e
  simp only [Before, Date.mk.injEq]
  omega

end Date

/-! ### Counting on -/

/-- A later year begins no sooner than this one is over: all days of this one are before it. -/
private theorem daysBeforeYear_add_le {year later : Int} (h : year < later) :
    daysBeforeYear year + daysInYear year ≤ daysBeforeYear later := by
  rw [daysBeforeYear_eq, daysBeforeYear_eq, ← plainDaysBefore_add_one]
  simp only [plainDaysBefore]
  omega

/-- The next month begins when all days of this one are over. -/
theorem daysBeforeMonth_add_one (year : Int) {month : Nat} (h : 1 ≤ month) :
    daysBeforeMonth year (month + 1) = daysBeforeMonth year month + daysInMonth year month := by
  obtain ⟨k, rfl⟩ : ∃ k, month = k + 1 := ⟨month - 1, by omega⟩
  simp [daysBeforeMonth, List.range_succ]

/-- Every later month begins when all days of this one are over, or after that. -/
theorem daysBeforeMonth_add_le (year : Int) {month later : Nat} (hfirst : 1 ≤ month)
    (h : month < later) :
    daysBeforeMonth year month + daysInMonth year month ≤ daysBeforeMonth year later := by
  rw [← daysBeforeMonth_add_one year hfirst]
  induction later, h using Nat.le_induction with
  | base => exact le_refl _
  | succ later hle ih =>
    rw [daysBeforeMonth_add_one year (show 1 ≤ later by omega)]
    omega

/-- Twelve months are a year, so a thirteenth would begin with the next one. -/
private theorem daysBeforeMonth_thirteen (year : Int) :
    (daysBeforeMonth year 13 : Int) = daysInYear year := by
  cases hleap : isLeapYear year <;>
    simp [daysBeforeMonth, daysInMonth, daysInYear, List.range_succ, hleap]

namespace Date

/-- A day of a month is a day of the year, so the year is not over before it. -/
private theorem daysBeforeMonth_add_day_le (d : Date) :
    (daysBeforeMonth d.year d.month : Int) + d.day ≤ daysInYear d.year := by
  obtain ⟨_, _, hfirst, hlast, _, hday⟩ := d.isDate
  have hmonth := daysBeforeMonth_add_le d.year hfirst (show d.month < 13 by omega)
  rw [← daysBeforeMonth_thirteen]
  omega

/-- **Order.** The later date has the larger number. -/
theorem Before.daysSinceEpoch_lt {d e : Date} (h : d.Before e) :
    d.daysSinceEpoch < e.daysSinceEpoch := by
  obtain ⟨_, _, hfirst, _, _, hday⟩ := d.isDate
  have hday' : 1 ≤ e.day := e.isDate.2.2.2.2.1
  unfold daysSinceEpoch
  rcases h with hyear | ⟨hyear, hmonth | ⟨hmonth, hless⟩⟩
  · have hbefore := daysBeforeYear_add_le hyear
    have hwithin := d.daysBeforeMonth_add_day_le
    omega
  · have hbefore := daysBeforeMonth_add_le d.year hfirst hmonth
    rw [← hyear]
    omega
  · rw [← hyear, ← hmonth]
    omega

end Date

end SqlClient
