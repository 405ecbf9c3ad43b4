import SqlClient.Proofs.Calendar.Dates
import SqlClient.Proofs.Table.RecordBatch

namespace SqlClient

/-!
# Timestamps and their microseconds

Outside leap seconds, the microseconds since 1970 are as good as the timestamp: they keep its
order, and the timestamp is found again by them, but for the nanoseconds that are cut off.

* `Timestamp.Before` — the order of timestamps, part by part.
* `Timestamp.Before.nanosSinceEpoch_lt` — later timestamps are more nanoseconds from 1970.
* `Timestamp.cutToMicros` — a timestamp without what is below a microsecond.
* `Timestamp.ofUnixMicros?_eq_some` — microseconds and timestamps belong to each other.
* `Timestamp.exported_micros` — what is exported of a timestamp.
-/

/-! ### Times of day -/

namespace TimeOfDay

/-- A time is before another one if its hour is, or in the same hour its minute, and so on. -/
def Before (t u : TimeOfDay) : Prop :=
  t.hour < u.hour ∨ t.hour = u.hour ∧ (t.minute < u.minute ∨ t.minute = u.minute ∧
    (t.second < u.second ∨ t.second = u.second ∧ t.nanos < u.nanos))

/-- Two times are the same, or one is before the other. -/
theorem before_or_eq_or_before (t u : TimeOfDay) : t.Before u ∨ t = u ∨ u.Before t := by
  obtain ⟨hour, minute, second, nanos, _⟩ := t
  obtain ⟨hour', minute', second', nanos', _⟩ := u
  simp only [Before, TimeOfDay.mk.injEq]
  omega

theorem isLeap_eq_false {t : TimeOfDay} : t.isLeap = false ↔ t.nanos < nanosPerSecond := by
  simp [isLeap]

/-- The later time has more nanoseconds behind it, unless the earlier is in a leap second. -/
theorem Before.nanos_lt {t u : TimeOfDay} (ht : t.isLeap = false) (h : t.Before u) :
    t.secondOfDay * nanosPerSecond + t.nanos < u.secondOfDay * nanosPerSecond + u.nanos := by
  have hnanos := isLeap_eq_false.mp ht
  obtain ⟨_, hminute, hsecond, _⟩ := t.isTimeOfDay
  simp only [nanosPerSecond] at hnanos
  simp only [secondOfDay, nanosPerSecond]
  rcases h with hhour | ⟨hhour, hminute' | ⟨hminute', hsecond' | ⟨hsecond', hless⟩⟩⟩
  all_goals omega

/-- A time has the parts that it is made of, if they are not those of a leap second. -/
theorem parts_of_of? {hour minute second nanos : Nat} {t : TimeOfDay} (hsecond : second ≠ 60)
    (h : of? hour minute second nanos = some t) :
    t.hour = hour ∧ t.minute = minute ∧ t.second = second ∧ t.nanos = nanos := by
  simp only [of?, if_neg hsecond] at h
  split at h
  · obtain ⟨_, hmade⟩ := Option.ite_none_right_eq_some.mp h
    obtain rfl := Option.some.inj hmade
    exact ⟨rfl, rfl, rfl, rfl⟩
  · exact absurd h nofun

/-- A time is made of its parts, if it is in place. -/
theorem of?_parts {t : TimeOfDay} (h : t.InPlace) :
    of? t.hour t.minute t.second t.nanos = some t := by
  have hsecond : t.second ≤ 59 := t.isTimeOfDay.2.2.1
  have hplain : t.second ≠ 60 := by omega
  simp only [of?, if_neg hplain, dif_pos t.isTimeOfDay, if_pos h]

end TimeOfDay

namespace Timestamp

/-! ### Order -/

/-- A timestamp is before another one if its date is, or on the same date its time. -/
def Before (t u : Timestamp) : Prop := t.date.Before u.date ∨ t.date = u.date ∧ t.time.Before u.time

/-- Two timestamps are the same, or one is before the other. -/
theorem before_or_eq_or_before (t u : Timestamp) : t.Before u ∨ t = u ∨ u.Before t := by
  obtain ⟨date, time⟩ := t
  obtain ⟨date', time'⟩ := u
  rcases date.before_or_eq_or_before date' with hdate | rfl | hdate
  · exact .inl (.inl hdate)
  · rcases time.before_or_eq_or_before time' with htime | rfl | htime
    · exact .inl (.inr ⟨rfl, htime⟩)
    · exact .inr (.inl rfl)
    · exact .inr (.inr (.inr ⟨rfl, htime⟩))
  · exact .inr (.inr (.inl hdate))

/-- **Order.** The later timestamp is more nanoseconds from 1970, unless the earlier is in a leap
    second, which runs into the next one. -/
theorem Before.nanosSinceEpoch_lt {t u : Timestamp} (ht : t.time.isLeap = false)
    (h : t.Before u) : t.nanosSinceEpoch < u.nanosSinceEpoch := by
  have hnanos := TimeOfDay.isLeap_eq_false.mp ht
  have hsecond := t.time.secondOfDay_lt
  simp only [nanosPerSecond] at hnanos
  simp only [nanosSinceEpoch]
  rcases h with hdate | ⟨hdate, htime⟩
  · have hdays := hdate.daysSinceEpoch_lt
    simp only [nanosPerSecond]
    omega
  · have hless := htime.nanos_lt ht
    simp only [nanosPerSecond] at hless ⊢
    rw [hdate]
    omega

/-- The microseconds of a timestamp are not more than those of one that is not before it. -/
private theorem unixMicros_le {t u : Timestamp} (ht : t.time.isLeap = false) (h : ¬ u.Before t) :
    t.unixMicros ≤ u.unixMicros := by
  rw [Int64.le_iff_toInt_le, toInt_unixMicros, toInt_unixMicros]
  have hnanos : t.nanosSinceEpoch ≤ u.nanosSinceEpoch := by
    rcases t.before_or_eq_or_before u with hbefore | rfl | hbefore
    · exact le_of_lt (hbefore.nanosSinceEpoch_lt ht)
    · exact le_refl _
    · exact absurd hbefore h
  omega

/-! ### Back to the timestamp -/

/-- The timestamp without what is below a microsecond. -/
def cutToMicros (t : Timestamp) : Timestamp where
  date := t.date
  time := {
    hour := t.time.hour
    minute := t.time.minute
    second := t.time.second
    nanos := t.time.nanos / 1000 * 1000
    isTimeOfDay := by
      obtain ⟨hhour, hminute, hsecond, hnanos⟩ := t.time.isTimeOfDay
      have hle := Nat.div_mul_le_self t.time.nanos 1000
      exact ⟨hhour, hminute, hsecond, Nat.lt_of_le_of_lt hle hnanos⟩ }

/-- What is cut off are nanoseconds. -/
theorem nanosSinceEpoch_cutToMicros (t : Timestamp) :
    t.cutToMicros.nanosSinceEpoch = t.nanosSinceEpoch / 1000 * 1000 := by
  simp only [nanosSinceEpoch, cutToMicros, TimeOfDay.secondOfDay, nanosPerSecond]
  omega

theorem isLeap_cutToMicros {t : Timestamp} (h : t.time.isLeap = false) :
    t.cutToMicros.time.isLeap = false := by
  have hnanos := TimeOfDay.isLeap_eq_false.mp h
  apply TimeOfDay.isLeap_eq_false.mpr
  exact Nat.lt_of_le_of_lt (Nat.div_mul_le_self _ _) hnanos

/-- Cutting changes nothing about the whole microseconds. -/
theorem unixMicros_cutToMicros (t : Timestamp) : t.cutToMicros.unixMicros = t.unixMicros := by
  rw [← Int64.toInt_inj, toInt_unixMicros, toInt_unixMicros, nanosSinceEpoch_cutToMicros]
  omega

/-- A timestamp of whole microseconds that is not in a leap second is found by them. -/
theorem ofUnixMicros?_unixMicros {t : Timestamp} (hleap : t.time.isLeap = false)
    (hwhole : t.time.nanos % 1000 = 0) : ofUnixMicros? t.unixMicros = some t := by
  have hnanos := TimeOfDay.isLeap_eq_false.mp hleap
  have hplace : t.time.InPlace := .inl hnanos
  have hday := t.time.secondOfDay_lt
  obtain ⟨_, hminute, hsecond, _⟩ := t.time.isTimeOfDay
  simp only [nanosPerSecond] at hnanos
  -- the seconds, and the microseconds of the last of them
  have hseconds : t.unixMicros.toInt / 1000000 =
      86400 * t.date.daysSinceEpoch + t.time.secondOfDay := by
    rw [toInt_unixMicros, nanosSinceEpoch, nanosPerSecond]
    omega
  have hmicros : (t.unixMicros.toInt % 1000000).toNat * 1000 = t.time.nanos := by
    rw [toInt_unixMicros, nanosSinceEpoch, nanosPerSecond]
    omega
  have hdate : (86400 * t.date.daysSinceEpoch + (t.time.secondOfDay : Int)) / 86400 =
      t.date.dayNumber := by
    rw [Date.dayNumber_eq]
    omega
  have hrest : ((86400 * t.date.daysSinceEpoch + (t.time.secondOfDay : Int)) % 86400).toNat =
      t.time.secondOfDay := by omega
  have hhour : t.time.secondOfDay / 3600 = t.time.hour := by
    simp only [TimeOfDay.secondOfDay]
    omega
  have hminute' : t.time.secondOfDay / 60 % 60 = t.time.minute := by
    simp only [TimeOfDay.secondOfDay]
    omega
  have hsecond' : t.time.secondOfDay % 60 = t.time.second := by
    simp only [TimeOfDay.secondOfDay]
    omega
  simp only [ofUnixMicros?, hseconds, hmicros, hdate, hrest, hhour, hminute', hsecond',
    Date.ofDayNumber?_dayNumber, TimeOfDay.of?_parts hplace, Option.bind_eq_bind,
    Option.bind_some]

/-- What is found has the microseconds, and nothing below them. -/
theorem unixMicros_of_ofUnixMicros? {micros : Int64} {t : Timestamp}
    (h : ofUnixMicros? micros = some t) :
    t.unixMicros = micros ∧ t.time.isLeap = false ∧ t.time.nanos % 1000 = 0 := by
  simp only [ofUnixMicros?, Option.bind_eq_bind, Option.bind_eq_some_iff] at h
  obtain ⟨date, hdate, time, htime, ht⟩ := h
  obtain rfl := Option.some.inj ht
  have hday := Date.ofDayNumber?_eq_some.mp hdate
  obtain ⟨hhour, hminute, hsecond, hnanos⟩ := TimeOfDay.parts_of_of? (by omega) htime
  refine ⟨?_, ?_, ?_⟩
  · rw [← Int64.toInt_inj, toInt_unixMicros]
    rw [Date.dayNumber_eq] at hday
    simp only [nanosSinceEpoch, TimeOfDay.secondOfDay, nanosPerSecond]
    omega
  · apply TimeOfDay.isLeap_eq_false.mpr
    show time.nanos < 1000000000
    omega
  · show time.nanos % 1000 = 0
    omega

/-- What microseconds find is the timestamp cut down to them. -/
theorem nanosSinceEpoch_of_ofUnixMicros? {t u : Timestamp}
    (h : ofUnixMicros? t.unixMicros = some u) :
    u.nanosSinceEpoch = t.nanosSinceEpoch / 1000 * 1000 := by
  obtain ⟨hmicros, _, hwhole⟩ := unixMicros_of_ofUnixMicros? h
  have hcount : u.nanosSinceEpoch / 1000 = t.nanosSinceEpoch / 1000 := by
    rw [← toInt_unixMicros, hmicros, toInt_unixMicros]
  have hrest : u.nanosSinceEpoch % 1000 = 0 := by
    simp only [nanosSinceEpoch, nanosPerSecond]
    omega
  omega

/-- **Microseconds and timestamps.** A timestamp is found by its microseconds and by no others,
    if it is made of whole ones and is not in a leap second. -/
theorem ofUnixMicros?_eq_some {micros : Int64} {t : Timestamp} :
    ofUnixMicros? micros = some t ↔
      t.unixMicros = micros ∧ t.time.isLeap = false ∧ t.time.nanos % 1000 = 0 := by
  constructor
  · exact unixMicros_of_ofUnixMicros?
  · rintro ⟨rfl, hleap, hwhole⟩
    exact ofUnixMicros?_unixMicros hleap hwhole

/-- Outside leap seconds, what is found is the timestamp with its nanoseconds cut off. -/
theorem ofUnixMicros?_eq_cutToMicros {t : Timestamp} (h : t.time.isLeap = false) :
    ofUnixMicros? t.unixMicros = some t.cutToMicros :=
  ofUnixMicros?_eq_some.mpr
    ⟨t.unixMicros_cutToMicros, isLeap_cutToMicros h, Nat.mul_mod_left _ _⟩

/-! ### What is exported -/

/-- A timestamp in a column leaves as its microseconds. -/
private theorem getElem?_toBatch {t : Timestamp} {c : Column} {i : Nat}
    (h : c.get i = .timestamp t) :
    c.toBatch.cells[i]? = some (some (.timestampMicros t.unixMicros)) := by
  have hcell := c.getD_toBatch i
  rw [h] at hcell
  cases hat : c.toBatch.cells[i]? with
  | none =>
    rw [hat] at hcell
    exact absurd hcell nofun
  | some cell =>
    rw [hat] at hcell
    exact congrArg some hcell

/-- **Exported microseconds.** A timestamp outside leap seconds leaves its column as a count of
    microseconds.  Every number on the way to it, from the days since 1970, is the one it stands
    for, so nothing overflows; and the count is that of the nanoseconds since 1970 in thousands,
    cut off downwards.  The timestamp is found again by it, but for the nanoseconds below a
    microsecond.  Later timestamps have no smaller counts, and the same count is that of
    timestamps which are the same up to the microsecond. -/
theorem exported_micros {t : Timestamp} (ht : t.time.isLeap = false) :
    (∀ (c : Column) (i : Nat), c.get i = .timestamp t →
      c.toBatch.cells[i]? = some (some (.timestampMicros t.unixMicros))) ∧
    [Int64.ofInt t.date.dayNumber, Int64.ofInt t.date.dayNumber * 86400, t.unixSeconds,
        t.unixSeconds * 1000000, t.unixMicros].map Int64.toInt =
      [t.date.daysSinceEpoch, 86400 * t.date.daysSinceEpoch,
        86400 * t.date.daysSinceEpoch + t.time.secondOfDay,
        (86400 * t.date.daysSinceEpoch + t.time.secondOfDay) * 1000000,
        t.nanosSinceEpoch / 1000] ∧
    ofUnixMicros? t.unixMicros = some t.cutToMicros ∧
    ∀ u : Timestamp, u.time.isLeap = false →
      (¬ u.Before t → t.unixMicros ≤ u.unixMicros) ∧
      (t.unixMicros = u.unixMicros ↔ t.cutToMicros = u.cutToMicros) := by
  refine ⟨fun c i h => getElem?_toBatch h, ?_, ofUnixMicros?_eq_cutToMicros ht, ?_⟩
  · simp only [List.map_cons, List.map_nil, toInt_ofInt_dayNumber, toInt_ofInt_dayNumber_mul,
      toInt_unixSeconds, toInt_unixSeconds_mul, toInt_unixMicros]
  · intro u hu
    refine ⟨unixMicros_le ht, fun h => ?_, fun h => ?_⟩
    · -- the same count finds one timestamp
      have hfound := ofUnixMicros?_eq_cutToMicros ht
      rw [h, ofUnixMicros?_eq_cutToMicros hu] at hfound
      exact (Option.some.inj hfound).symm
    · rw [← t.unixMicros_cutToMicros, h, u.unixMicros_cutToMicros]

namespace InstantsTest

/-- The first timestamp that is not of whole microseconds. -/
def first : Timestamp where
  date := ⟨-262143, 1, 1, by decide⟩
  time := ⟨0, 0, 0, 1, by decide⟩

end InstantsTest

open InstantsTest Table.RecordBatchTest in
/-- The earliest count is far from overflowing, and that of the last nanosecond before 1970 is one
    before zero. -/
theorem exported_micros_of_first :
    first.time.isLeap = false ∧ before.time.isLeap = false ∧ ¬ before.Before first ∧
    first.unixMicros = -8334601228800000000 ∧ before.unixMicros = -1 ∧
    ofUnixMicros? first.unixMicros = some first.cutToMicros ∧
    ofUnixMicros? before.unixMicros = some before.cutToMicros ∧
    first.unixMicros ≤ before.unixMicros ∧ first.cutToMicros ≠ before.cutToMicros := by
  have hfirst : first.time.isLeap = false := by decide
  have hbefore : before.time.isLeap = false := by decide
  have horder : ¬ before.Before first := by
    simp [Before, Date.Before, TimeOfDay.Before, first, before]
  have hcount : first.unixMicros = -8334601228800000000 := by decide +kernel
  have hcount' : before.unixMicros = -1 := by decide +kernel
  obtain ⟨_, _, hback, hothers⟩ := exported_micros hfirst
  obtain ⟨_, _, hback', _⟩ := exported_micros hbefore
  obtain ⟨hle, hsame⟩ := hothers before hbefore
  refine ⟨hfirst, hbefore, horder, hcount, hcount', hback, hback', hle horder, fun h => ?_⟩
  rw [← hsame, hcount, hcount'] at h
  exact absurd h (by decide)

end Timestamp

end SqlClient
