import SqlClient.Proofs.Text.Digits
import SqlClient.Timestamp.Layout
import SqlClient.Value

namespace SqlClient

/-!
# Timestamps read back

What is written of a timestamp is taken off the front of the text again, item by item: the
year with or without a sign, the fields of two digits, the fraction in whatever length it
was written.

* `LayoutItem.readYear?_writeYear`, `LayoutItem.readTwo?_padded`,
  `LayoutItem.readFraction?_writeFraction` — the items.
* `TimeOfDay.asWritten`, `TimeOfDay.of?_written` — the time that a text tells.  Second 60 is the
  leap second again, and any other second that runs on is told as the next one.
* `Timestamp.ofText?_write` — what the text that is bound is read as.
-/

open Text

namespace LayoutItem

/-! ### Years -/

/-- A year with a sign is read in all its digits, however many there are. -/
theorem readYear?_of_sign {sign : Char} (hsign : sign = '-' ∨ sign = '+') {n : Nat}
    {rest : List Char} (hrest : NoDigitAhead rest) :
    readYear? (sign :: (padded 4 n ++ rest)) =
      some (if sign = '-' then -(n : Int) else n, rest) := by
  have hall : readAll? (padded 4 n ++ rest) = some (n, rest) := by
    rw [readAll?, readNumber?_append (allDigits_padded 4 n) (padded_ne_nil 4 n)
      (.inr ⟨by simp, hrest⟩), digitsValue_padded]
  have hblank : isBlank sign = false := by
    rcases hsign with rfl | rfl
    · decide
    · decide
  rw [readYear?, skipBlanks_cons hblank]
  rcases hsign with rfl | rfl
  · simp [hall]
  · simp [hall]

/-- A year of four digits is read without a sign. -/
private theorem readYear?_of_digits {n : Nat} (hn : n ≤ 9999) (rest : List Char) :
    readYear? (padded 4 n ++ rest) = some ((n : Int), rest) := by
  have hnumber : readNumber? 4 (padded 4 n ++ rest) = some (n, rest) :=
    readNumber?_padded (by decide) (by omega) rest
  have hhead : ∀ {c cs}, padded 4 n ++ rest = c :: cs → c.isDigit = true :=
    (allDigits_padded 4 n).head (padded_ne_nil 4 n)
  unfold readYear?
  rw [skipBlanks_append (allDigits_padded 4 n) (padded_ne_nil 4 n)]
  -- a digit is no sign, so the third way to read is taken
  split
  · rename_i heq
    exact absurd (hhead heq) (by decide)
  · rename_i heq
    exact absurd (hhead heq) (by decide)
  · rw [hnumber]
    rfl

/-- A year is read back, whatever its sign and length. -/
theorem readYear?_writeYear (year : Int) {rest : List Char} (hrest : NoDigitAhead rest) :
    readYear? (Timestamp.writeYear year ++ rest) = some (year, rest) := by
  unfold Timestamp.writeYear
  split
  · rename_i hplain
    rw [readYear?_of_digits (by omega), Int.toNat_of_nonneg hplain.1]
  · rw [List.cons_append]
    -- years of more than four digits have a sign too, or the digits would run on
    split
    · have hback : -(year.natAbs : Int) = year := by omega
      rw [readYear?_of_sign (.inl rfl) hrest, if_pos rfl, hback]
    · have hback : (year.natAbs : Int) = year := by omega
      rw [readYear?_of_sign (.inr rfl) hrest, if_neg (by decide), hback]

/-! ### Fields of two digits -/

/-- A number of two digits is read as it was written, and what follows it is left. -/
theorem readTwo?_padded {n : Nat} (hn : n < 100) (rest : List Char) :
    readTwo? (padded 2 n ++ rest) = some (n, rest) := by
  rw [readTwo?, skipBlanks_append (allDigits_padded 2 n) (padded_ne_nil 2 n)]
  exact readNumber?_padded (by decide) hn rest

/-! ### Fractions -/

/-- Digits after a point are counted up to nine of them. -/
theorem readFraction?_padded {width n : Nat} (hwidth : 0 < width) (hnine : width ≤ 9)
    (hn : n < 10 ^ width) :
    readFraction? ('.' :: padded width n) = some (n * 10 ^ (9 - width), []) := by
  have hlength : (padded width n).length = width := length_padded hwidth hn
  have hkept : (padded width n).take 9 = padded width n :=
    List.take_of_length_le (Nat.le_trans (Nat.le_of_eq hlength) hnine)
  have hspan : spanDigits (padded width n) = (padded width n, []) := by
    have happend := spanDigits_append (allDigits_padded width n) noDigitAhead_nil
    rwa [List.append_nil] at happend
  simp only [readFraction?, hspan, padded_ne_nil width n, if_false, hkept, digitsValue_padded,
    hlength]

/-- A fraction is read back, whether it was written with three, six or nine digits, or not at
    all. -/
theorem readFraction?_writeFraction {nanos : Nat} (h : nanos < nanosPerSecond) :
    readFraction? (Timestamp.writeFraction nanos) = some (nanos, []) := by
  have hbound : nanos < 1000000000 := h
  unfold Timestamp.writeFraction
  -- no fraction, then thousandths, millionths and billionths of a second
  split
  · rename_i hzero
    rw [hzero]
    rfl
  · split
    · rename_i hmillis
      have hthree : nanos / 1000000 < 10 ^ 3 := by omega
      have hback : nanos / 1000000 * 10 ^ (9 - 3) = nanos := by omega
      rw [readFraction?_padded (by decide) (by decide) hthree, hback]
    · split
      · rename_i hmicros
        have hsix : nanos / 1000 < 10 ^ 6 := by omega
        have hback : nanos / 1000 * 10 ^ (9 - 6) = nanos := by omega
        rw [readFraction?_padded (by decide) (by decide) hsix, hback]
      · have hnine : nanos < 10 ^ 9 := hbound
        rw [readFraction?_padded (by decide) (by decide) hnine, Nat.sub_self, Nat.pow_zero,
          Nat.mul_one]

end LayoutItem

/-! ### Dates and times -/

namespace TimeOfDay

/-- The time that is told by the text of a time.  The text of a second that runs on out of place
    is that of the next second. -/
def asWritten (t : TimeOfDay) : TimeOfDay :=
  if h : t.InPlace then t
  else
    { hour := t.hour
      minute := t.minute
      second := t.second + 1
      nanos := t.nanos - nanosPerSecond
      isTimeOfDay := by
        obtain ⟨hhour, hminute, hsecond, hnanos⟩ := t.isTimeOfDay
        simp only [InPlace, nanosPerSecond, not_or] at h hnanos
        exact ⟨hhour, hminute, by omega, by simp only [nanosPerSecond]; omega⟩ }

/-- A time in place is written as itself. -/
theorem asWritten_of_inPlace {t : TimeOfDay} (h : t.InPlace) : t.asWritten = t := dif_pos h

/-- What the text of a timestamp tells is in place: it runs on at the end of a minute only. -/
theorem inPlace_asWritten (t : TimeOfDay) : t.asWritten.InPlace := by
  unfold asWritten
  split
  · assumption
  · left
    have hnanos := t.isTimeOfDay.2.2.2
    simp only [nanosPerSecond] at hnanos ⊢
    omega

/-- A text tells the time that it was written from exactly if that is in place. -/
theorem asWritten_eq_self {t : TimeOfDay} : t.asWritten = t ↔ t.InPlace :=
  ⟨fun h => h ▸ t.inPlace_asWritten, asWritten_of_inPlace⟩

/-- A second out of place has run on for less than another second, and is not the last. -/
theorem parts_of_not_inPlace {t : TimeOfDay} (h : ¬ t.InPlace) :
    t.second < 59 ∧ t.nanos / nanosPerSecond = 1 ∧
      t.nanos % nanosPerSecond = t.nanos - nanosPerSecond := by
  obtain ⟨_, _, hsecond, hnanos⟩ := t.isTimeOfDay
  simp only [InPlace, nanosPerSecond, not_or] at h hnanos
  simp only [nanosPerSecond]
  omega

/-- The time that is told is the same one, counted in nanoseconds. -/
theorem nanos_asWritten (t : TimeOfDay) :
    t.asWritten.hour = t.hour ∧ t.asWritten.minute = t.minute ∧
      t.asWritten.second * nanosPerSecond + t.asWritten.nanos =
        t.second * nanosPerSecond + t.nanos := by
  unfold asWritten
  split
  · exact ⟨rfl, rfl, rfl⟩
  · rename_i hplace
    obtain ⟨_, hwhole, _⟩ := parts_of_not_inPlace hplace
    refine ⟨rfl, rfl, ?_⟩
    show (t.second + 1) * nanosPerSecond + (t.nanos - nanosPerSecond) =
      t.second * nanosPerSecond + t.nanos
    simp only [nanosPerSecond] at hwhole ⊢
    omega

/-- The parts of a time that are written are those of the time that is told. -/
theorem of?_written (t : TimeOfDay) :
    of? t.hour t.minute (t.second + t.nanos / nanosPerSecond) (t.nanos % nanosPerSecond) =
      some t.asWritten := by
  by_cases hplace : t.InPlace
  · rw [asWritten_of_inPlace hplace]
    have htime := t.isTimeOfDay
    have hsecond : t.second ≤ 59 := htime.2.2.1
    have hnanos : t.nanos < 2 * nanosPerSecond := htime.2.2.2
    by_cases hleap : t.nanos < nanosPerSecond
    · have hwhole : t.nanos / nanosPerSecond = 0 := Nat.div_eq_of_lt hleap
      have hrest : t.nanos % nanosPerSecond = t.nanos := Nat.mod_eq_of_lt hleap
      have hplain : t.second ≠ 60 := by omega
      simp only [of?, hwhole, hrest, Nat.add_zero, hplain, if_false, dif_pos htime, if_pos hplace]
    · -- the leap second runs on from the fifty-ninth
      have hlast : t.second = 59 := hplace.resolve_left hleap
      have hwhole : t.second + t.nanos / nanosPerSecond = 60 := by
        simp only [nanosPerSecond] at hleap hnanos ⊢
        omega
      have hrest : nanosPerSecond + t.nanos % nanosPerSecond = t.nanos := by
        simp only [nanosPerSecond] at hleap hnanos ⊢
        omega
      simp only [of?, hwhole, if_true, hrest, ← hlast, dif_pos htime, if_pos hplace]
  · obtain ⟨hsecond, hwhole, hrest⟩ := parts_of_not_inPlace hplace
    have hnext : t.second + 1 ≠ 60 := by omega
    have htold := t.asWritten.isTimeOfDay
    have hinPlace := t.inPlace_asWritten
    simp only [asWritten, dif_neg hplace] at htold hinPlace ⊢
    simp only [of?, hwhole, hrest, if_neg hnext, dif_pos htold, if_pos hinPlace]

/-- Hours, minutes and seconds have two digits, a leap second too. -/
theorem written_lt (t : TimeOfDay) :
    t.hour < 100 ∧ t.minute < 100 ∧ t.second + t.nanos / nanosPerSecond < 100 := by
  obtain ⟨hhour, hminute, hsecond, hnanos⟩ := t.isTimeOfDay
  simp only [nanosPerSecond] at hnanos ⊢
  omega

end TimeOfDay

/-- A date is found again by its year, its month and its day. -/
theorem Date.of?_parts (d : Date) : Date.of? d.year d.month d.day = some d :=
  dif_pos d.isDate

/-- The number of a month has two digits at most. -/
theorem Date.month_lt (d : Date) : d.month < 100 := by
  have hlast : d.month ≤ 12 := d.isDate.2.2.2.1
  omega

/-- The number of a day has two digits at most. -/
theorem Date.day_lt (d : Date) : d.day < 100 := by
  have hlast : d.day ≤ daysInMonth d.year d.month := d.isDate.2.2.2.2.2
  have hlength := daysInMonth_le d.year d.month
  omega

/-- The timestamp that is told by the text of a timestamp. -/
def Timestamp.asWritten (t : Timestamp) : Timestamp := { t with time := t.time.asWritten }

/-- A timestamp is written as itself exactly if its time is in place. -/
theorem Timestamp.asWritten_eq_self {t : Timestamp} : t.asWritten = t ↔ t.time.InPlace := by
  obtain ⟨date, time⟩ := t
  simp only [asWritten, Timestamp.mk.injEq, true_and, TimeOfDay.asWritten_eq_self]

namespace Layout

/-- One item taken off the front, the others follow. -/
theorem readItems?_cons {item : LayoutItem} {f f' : LayoutFields} {cs rest : List Char}
    (h : item.read? f cs = some (f', rest)) (items : Layout) :
    readItems? (item :: items) f cs = readItems? items f' rest := by
  simp [readItems?, h]

/-- A mark of the layout is read where it stands, and nothing is noted. -/
theorem readItems?_literal (c : Char) (f : LayoutFields) (rest : List Char) (items : Layout) :
    readItems? (.literal c :: items) f (c :: rest) = readItems? items f rest :=
  readItems?_cons (by simp [LayoutItem.read?]) items

/-- A date is read, and what follows it is left. -/
private theorem readItems?_date (d : Date) (f : LayoutFields) (rest : List Char) (items : Layout) :
    readItems? (date ++ items) f
        (Timestamp.writeYear d.year ++
          '-' :: (padded 2 d.month ++ '-' :: (padded 2 d.day ++ rest))) =
      readItems? items { f with year := d.year, month := d.month, day := d.day } rest := by
  have hyear := LayoutItem.readYear?_writeYear d.year (noDigitAhead_cons (c := '-') (by decide)
    (padded 2 d.month ++ '-' :: (padded 2 d.day ++ rest)))
  simp only [date, List.cons_append, List.nil_append]
  -- the hyphen ends the year, and two digits are all that a month or a day can be
  rw [readItems?_cons (by rw [LayoutItem.read?, hyear]; rfl), readItems?_literal,
    readItems?_cons (by rw [LayoutItem.read?, LayoutItem.readTwo?_padded d.month_lt]; rfl),
    readItems?_literal,
    readItems?_cons (by rw [LayoutItem.read?, LayoutItem.readTwo?_padded d.day_lt]; rfl)]

/-- A time in whole seconds is read, and what follows it is left. -/
private theorem readItems?_wholeTime {hour minute second : Nat} (hhour : hour < 100)
    (hminute : minute < 100) (hsecond : second < 100) (f : LayoutFields) (rest : List Char)
    (items : Layout) :
    readItems? (wholeTime ++ items) f
        (padded 2 hour ++ ':' :: (padded 2 minute ++ ':' :: (padded 2 second ++ rest))) =
      readItems? items { f with hour := hour, minute := minute, second := second } rest := by
  simp only [wholeTime, List.cons_append, List.nil_append]
  rw [readItems?_cons (by rw [LayoutItem.read?, LayoutItem.readTwo?_padded hhour]; rfl),
    readItems?_literal,
    readItems?_cons (by rw [LayoutItem.read?, LayoutItem.readTwo?_padded hminute]; rfl),
    readItems?_literal,
    readItems?_cons (by rw [LayoutItem.read?, LayoutItem.readTwo?_padded hsecond]; rfl)]

/-- The layout with white space between date and time, and with a fraction, reads what a text
    that is written so tells. -/
theorem spaced_read?_writeChars (t : Timestamp) :
    spaced.read? (t.writeChars ' ') = some t.asWritten := by
  obtain ⟨hhour, hminute, hsecond⟩ := t.time.written_lt
  have hrest : t.time.nanos % nanosPerSecond < nanosPerSecond := Nat.mod_lt _ (by decide)
  have hfraction := LayoutItem.readFraction?_writeFraction hrest
  -- the items in the order they were written
  have hitems : spaced = date ++ (.blanks :: (wholeTime ++ [.fraction])) := rfl
  have hskip : skipBlanks (' ' :: (padded 2 t.time.hour ++
      ':' :: (padded 2 t.time.minute ++
        ':' :: (padded 2 (t.time.second + t.time.nanos / nanosPerSecond) ++
          Timestamp.writeFraction (t.time.nanos % nanosPerSecond))))) = _ :=
    (List.dropWhile_cons_of_pos (by decide)).trans
      (skipBlanks_append (allDigits_padded 2 _) (padded_ne_nil 2 _) _)
  simp only [read?, hitems, Timestamp.writeChars, List.append_assoc, List.cons_append]
  rw [readItems?_date, readItems?_cons (by rw [LayoutItem.read?, hskip]),
    readItems?_wholeTime hhour hminute hsecond,
    readItems?_cons (by rw [LayoutItem.read?, hfraction]; rfl)]
  simp [readItems?, LayoutFields.timestamp?, Timestamp.of?, Date.of?_parts,
    TimeOfDay.of?_written, Timestamp.asWritten]

end Layout

/-- **Timestamps read back.** The text that is bound for a timestamp is read as the timestamp
    that it tells, which is the same one if no second runs on out of place. -/
theorem Timestamp.ofText?_write (t : Timestamp) : Timestamp.ofText? t.write = some t.asWritten := by
  have hfirst : Layout.spaced.read? t.write.toList = some t.asWritten := by
    rw [write, String.toList_ofList]
    exact Layout.spaced_read?_writeChars t
  simp only [ofText?, Layout.all, List.findSome?_cons, hfirst]

/-- Timestamps with the same text tell the same time, and only those that stray can be
    different. -/
theorem Timestamp.asWritten_eq_of_write_eq {t u : Timestamp} (h : t.write = u.write) :
    t.asWritten = u.asWritten := by
  have hread := Timestamp.ofText?_write t
  rw [h, Timestamp.ofText?_write] at hread
  exact (Option.some.inj hread).symm

/-- A timestamp has the text of the time that it is written as. -/
theorem Timestamp.writeChars_asWritten (separator : Char) (t : Timestamp) :
    t.asWritten.writeChars separator = t.writeChars separator := by
  by_cases hplace : t.time.InPlace
  · rw [asWritten_eq_self.mpr hplace]
  · obtain ⟨_, hwhole, hrest⟩ := TimeOfDay.parts_of_not_inPlace hplace
    have hless : t.time.nanos - nanosPerSecond < nanosPerSecond := hrest ▸ Nat.mod_lt _ (by decide)
    simp only [asWritten, TimeOfDay.asWritten, dif_neg hplace, writeChars, hwhole, hrest,
      Nat.div_eq_of_lt hless, Nat.mod_eq_of_lt hless, Nat.add_zero]

/-! ### Values -/

/-- The value that is told by the text of a value: only timestamps may be told as others. -/
def Value.asWritten : Value → Value
  | timestamp t => timestamp t.asWritten
  | v => v

/-- A second of the value runs on out of place. -/
def Value.Strays (v : Value) : Prop := ∃ t, v = .timestamp t ∧ ¬ t.time.InPlace

/-- Every value is written as itself but those that stray. -/
theorem Value.asWritten_eq_self {v : Value} : v.asWritten = v ↔ ¬ v.Strays := by
  cases v with
  | timestamp t => simp [asWritten, Strays, Timestamp.asWritten_eq_self]
  | _ => simp [asWritten, Strays]

namespace LayoutTest

/-- The second that runs on is not the last of its minute. -/
def stray : Timestamp := ⟨⟨2024, 1, 2, by decide⟩, ⟨3, 4, 5, 1500000000, by decide⟩⟩

/-- Half a second into the second after it. -/
def next : Timestamp := ⟨⟨2024, 1, 2, by decide⟩, ⟨3, 4, 6, 500000000, by decide⟩⟩

/-- The example is written as the time half a second into the next second. -/
theorem asWritten_stray : stray.asWritten = next := by decide

end LayoutTest

end SqlClient
