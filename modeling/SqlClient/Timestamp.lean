import SqlClient.Calendar

namespace SqlClient

/-!
# Timestamps

A date and a time of day to the nanosecond, without a time zone.  A leap second is a second
that runs on: its nanoseconds count past a thousand million.  It is in place at the end of its
minute, where text has it as second 60.

* `TimeOfDay.InPlace` — a leap second in place, or none.
* `TimeOfDay.of?` — second 60 is the leap second.
* `Timestamp.unixMicros`, `Timestamp.ofUnixMicros?` — microseconds since 1970, and back.
-/

/-- A thousand million nanoseconds make a second. -/
def nanosPerSecond : Nat := 1000000000

/-- A time that exists.  A second may run on to twice its length, whichever second it is. -/
def IsTimeOfDay (hour minute second nanos : Nat) : Prop :=
  hour ≤ 23 ∧ minute ≤ 59 ∧ second ≤ 59 ∧ nanos < 2 * nanosPerSecond

instance (hour minute second nanos : Nat) : Decidable (IsTimeOfDay hour minute second nanos) :=
  inferInstanceAs (Decidable (_ ∧ _ ∧ _ ∧ _))

/-- A time of day. -/
structure TimeOfDay where
  hour : Nat
  minute : Nat
  second : Nat
  nanos : Nat
  isTimeOfDay : IsTimeOfDay hour minute second nanos
deriving DecidableEq, Repr

namespace TimeOfDay

/-- Where a second runs on, it is the last of its minute. -/
def InPlace (t : TimeOfDay) : Prop := t.nanos < nanosPerSecond ∨ t.second = 59

instance (t : TimeOfDay) : Decidable t.InPlace := inferInstanceAs (Decidable (_ ∨ _))

/-- The time with these parts, if there is one and it is in place.  Second 60 is second 59
    running on. -/
def of? (hour minute second nanos : Nat) : Option TimeOfDay :=
  let (second, nanos) := if second = 60 then (59, nanosPerSecond + nanos) else (second, nanos)
  if h : IsTimeOfDay hour minute second nanos then
    let t : TimeOfDay := ⟨hour, minute, second, nanos, h⟩
    if t.InPlace then some t else none
  else none

/-- Inside a leap second. -/
def isLeap (t : TimeOfDay) : Bool := nanosPerSecond ≤ t.nanos

/-- Whole seconds since midnight; a leap second counts as the one it continues. -/
def secondOfDay (t : TimeOfDay) : Nat := 3600 * t.hour + 60 * t.minute + t.second

end TimeOfDay

/-- A date and a time of day. -/
structure Timestamp where
  date : Date
  time : TimeOfDay
deriving DecidableEq, Repr

namespace Timestamp

/-- The timestamp with these parts, if there is one. -/
def of? (year : Int) (month day hour minute second nanos : Nat) : Option Timestamp := do
  let date ← Date.of? year month day
  let time ← TimeOfDay.of? hour minute second nanos
  some ⟨date, time⟩

/-! ### Microseconds since 1970 -/

/-- Whole seconds since 1970, in machine arithmetic. -/
def unixSeconds (t : Timestamp) : Int64 :=
  Int64.ofInt t.date.dayNumber * 86400 + Int64.ofNat t.time.secondOfDay

/-- Microseconds since 1970, in machine arithmetic; parts of a microsecond are dropped,
    and a leap second counts on past the fifty-ninth. -/
def unixMicros (t : Timestamp) : Int64 :=
  t.unixSeconds * 1000000 + Int64.ofNat (t.time.nanos / 1000)

/-- The timestamp so many microseconds from 1970, if its year is kept. -/
def ofUnixMicros? (micros : Int64) : Option Timestamp := do
  let seconds := micros.toInt / 1000000
  let secondOfDay := (seconds % 86400).toNat
  let date ← Date.ofDayNumber? (seconds / 86400)
  let time ← TimeOfDay.of? (secondOfDay / 3600) (secondOfDay / 60 % 60) (secondOfDay % 60)
    ((micros.toInt % 1000000).toNat * 1000)
  some ⟨date, time⟩

end Timestamp

end SqlClient
