import SqlClient.Binary64
import SqlClient.Proofs.Calendar.Days
import SqlClient.Timestamp

namespace SqlClient

/-!
# Microseconds since 1970

Machine arithmetic is enough for the microseconds of every timestamp: the years that are kept
end before 64 bits do.  Parts of a microsecond are cut off downwards, before 1970 too.

* `Timestamp.nanosSinceEpoch` — the nanoseconds since 1970, counted without a bound.
* `Timestamp.toInt_unixSeconds`, `Timestamp.toInt_unixMicros` — the machine numbers; those on
  the way to them are told apart.
-/

/-! ### Machine arithmetic -/

theorem toInt_add_of_fits {a b : Int64} (hlow : -2 ^ 63 ≤ a.toInt + b.toInt)
    (hhigh : a.toInt + b.toInt < 2 ^ 63) : (a + b).toInt = a.toInt + b.toInt := by
  rw [Int64.toInt_add]
  exact Int.bmod_eq_of_le (by omega) (by omega)

theorem toInt_mul_of_fits {a b : Int64} (hlow : -2 ^ 63 ≤ a.toInt * b.toInt)
    (hhigh : a.toInt * b.toInt < 2 ^ 63) : (a * b).toInt = a.toInt * b.toInt := by
  rw [Int64.toInt_mul]
  exact Int.bmod_eq_of_le (by omega) (by omega)

/-! ### Times of day -/

namespace TimeOfDay

theorem secondOfDay_lt (t : TimeOfDay) : t.secondOfDay < 86400 := by
  obtain ⟨hhour, hminute, hsecond, _⟩ := t.isTimeOfDay
  simp only [secondOfDay]
  omega

/-- A leap second has twice the nanoseconds of another. -/
theorem nanos_lt (t : TimeOfDay) : t.nanos < 2 * nanosPerSecond := by
  have hnanos := t.isTimeOfDay.2.2.2
  simp only [nanosPerSecond] at hnanos ⊢
  omega

end TimeOfDay

/-! ### Timestamps -/

namespace Timestamp

/-- Nanoseconds since the beginning of 1970.  A leap second counts on from the second that it
    continues. -/
def nanosSinceEpoch (t : Timestamp) : Int :=
  (86400 * t.date.daysSinceEpoch + t.time.secondOfDay) * nanosPerSecond + t.time.nanos

/-- The number of a day is told in machine arithmetic without overflow. -/
theorem toInt_ofInt_dayNumber (t : Timestamp) :
    (Int64.ofInt t.date.dayNumber).toInt = t.date.daysSinceEpoch := by
  obtain ⟨hlow, hhigh⟩ := t.date.dayNumber_bounds
  rw [Int64.toInt_ofInt_of_le (by omega) (by omega), Date.dayNumber_eq]

/-- The seconds of all days before a date are told without overflow. -/
theorem toInt_ofInt_dayNumber_mul (t : Timestamp) :
    (Int64.ofInt t.date.dayNumber * 86400).toInt = 86400 * t.date.daysSinceEpoch := by
  obtain ⟨hlow, hhigh⟩ := t.date.daysSinceEpoch_bounds
  have hdays := t.toInt_ofInt_dayNumber
  have hday : (86400 : Int64).toInt = 86400 := by decide
  rw [toInt_mul_of_fits (by rw [hdays, hday]; omega) (by rw [hdays, hday]; omega), hdays, hday,
    Int.mul_comm]

/-- The seconds since 1970 are those of the days and those of the time of day, told without
    overflow. -/
theorem toInt_unixSeconds (t : Timestamp) :
    t.unixSeconds.toInt = 86400 * t.date.daysSinceEpoch + t.time.secondOfDay := by
  obtain ⟨hlow, hhigh⟩ := t.date.daysSinceEpoch_bounds
  have hsecond := t.time.secondOfDay_lt
  have hdays := t.toInt_ofInt_dayNumber_mul
  have hrest : (Int64.ofNat t.time.secondOfDay).toInt = t.time.secondOfDay :=
    Int64.toInt_ofNat_of_lt (by omega)
  rw [unixSeconds, toInt_add_of_fits (by rw [hdays, hrest]; omega)
    (by rw [hdays, hrest]; omega), hdays, hrest]

/-- A million times the seconds since 1970 still fits, so the microseconds are told without
    overflow. -/
theorem toInt_unixSeconds_mul (t : Timestamp) :
    (t.unixSeconds * 1000000).toInt =
      (86400 * t.date.daysSinceEpoch + t.time.secondOfDay) * 1000000 := by
  obtain ⟨hlow, hhigh⟩ := t.date.daysSinceEpoch_bounds
  have hsecond := t.time.secondOfDay_lt
  have hseconds := t.toInt_unixSeconds
  have hmillion : (1000000 : Int64).toInt = 1000000 := by decide
  rw [toInt_mul_of_fits (by rw [hseconds, hmillion]; omega) (by rw [hseconds, hmillion]; omega),
    hseconds, hmillion]

/-- **Microseconds.** The machine number is that of the whole microseconds, and nothing
    overflows on the way. -/
theorem toInt_unixMicros (t : Timestamp) :
    t.unixMicros.toInt = t.nanosSinceEpoch / 1000 := by
  obtain ⟨hlow, hhigh⟩ := t.date.daysSinceEpoch_bounds
  have hsecond := t.time.secondOfDay_lt
  have hnanos := t.time.nanos_lt
  simp only [nanosPerSecond] at hnanos
  have hseconds := t.toInt_unixSeconds_mul
  have hrest : (Int64.ofNat (t.time.nanos / 1000)).toInt = (t.time.nanos / 1000 : Nat) :=
    Int64.toInt_ofNat_of_lt (by omega)
  rw [unixMicros, toInt_add_of_fits (by rw [hseconds, hrest]; omega)
    (by rw [hseconds, hrest]; omega), hseconds, hrest]
  -- a microsecond is a thousand nanoseconds, whole or cut off
  simp only [nanosSinceEpoch, nanosPerSecond]
  omega

end Timestamp

end SqlClient
