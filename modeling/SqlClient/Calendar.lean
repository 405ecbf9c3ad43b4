namespace SqlClient

/-!
# The calendar

Dates of the proleptic Gregorian calendar, in the years whose dates fit a packed
thirty-two-bit date, and their numbers counted in days from the first of January 1970.

* `Date` — a day that exists, within the years kept.
* `Date.dayNumber`, `Date.ofDayNumber?` — the count of days, and back.

Months are counted from March for the arithmetic: the leap day is then the last day of
its year, and the lengths of the months repeat every five.
-/

/-- A year with a twenty-ninth of February. -/
def isLeapYear (year : Int) : Bool :=
  year % 4 = 0 && (year % 100 ≠ 0 || year % 400 = 0)

/-- The length of a month; twelve names, of which the last four rules cover all. -/
def daysInMonth (year : Int) (month : Nat) : Nat :=
  if month = 2 then (if isLeapYear year then 29 else 28)
  else if month = 4 ∨ month = 6 ∨ month = 9 ∨ month = 11 then 30
  else 31

theorem daysInMonth_le (year : Int) (month : Nat) : daysInMonth year month ≤ 31 := by
  unfold daysInMonth
  repeat' split
  all_goals decide

/-- The first year kept. -/
def minYear : Int := -262143

/-- The last year kept. -/
def maxYear : Int := 262142

/-- A day that exists, in the years kept. -/
def IsDate (year : Int) (month day : Nat) : Prop :=
  minYear ≤ year ∧ year ≤ maxYear ∧ 1 ≤ month ∧ month ≤ 12 ∧
    1 ≤ day ∧ day ≤ daysInMonth year month

instance (year : Int) (month day : Nat) : Decidable (IsDate year month day) :=
  inferInstanceAs (Decidable (_ ∧ _ ∧ _ ∧ _ ∧ _ ∧ _))

/-- A date. -/
structure Date where
  year : Int
  month : Nat
  day : Nat
  isDate : IsDate year month day
deriving DecidableEq, Repr

namespace Date

/-- The date with this year, month and day, if there is one. -/
def of? (year : Int) (month day : Nat) : Option Date :=
  if h : IsDate year month day then some ⟨year, month, day, h⟩ else none

/-! ### Day numbers -/

/-- Days in four hundred years. -/
def eraDays : Int := 146097

/-- Days from the first of March of year 0 to the first of January 1970. -/
def epochOffset : Int := 719468

/-- The year, counted from March. -/
def marchYear (d : Date) : Int := if d.month ≤ 2 then d.year - 1 else d.year

/-- Days before the month, counted from March. -/
def monthStart (marchMonth : Int) : Int := (153 * marchMonth + 2) / 5

/-- Days since the first of January 1970. -/
def dayNumber (d : Date) : Int :=
  let marchMonth : Int := if d.month ≤ 2 then d.month + 9 else (d.month : Int) - 3
  365 * d.marchYear + d.marchYear / 4 - d.marchYear / 100 + d.marchYear / 400
    + monthStart marchMonth + (d.day - 1) - epochOffset

/-- The date with this day number, if its year is kept. -/
def ofDayNumber? (number : Int) : Option Date :=
  let fromMarch := number + epochOffset
  let era := fromMarch / eraDays
  let dayOfEra := fromMarch % eraDays
  let yearOfEra := (dayOfEra - dayOfEra / 1460 + dayOfEra / 36524 - dayOfEra / 146096) / 365
  let dayOfYear := dayOfEra - (365 * yearOfEra + yearOfEra / 4 - yearOfEra / 100)
  let marchMonth := (5 * dayOfYear + 2) / 153
  let day := dayOfYear - monthStart marchMonth + 1
  let month := if marchMonth < 10 then marchMonth + 3 else marchMonth - 9
  let year := yearOfEra + 400 * era + (if month ≤ 2 then 1 else 0)
  of? year month.toNat day.toNat

end Date

end SqlClient
