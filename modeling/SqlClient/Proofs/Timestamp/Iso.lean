import SqlClient.Proofs.Timestamp.Layout

namespace SqlClient

open Text

/-!
# Timestamps of JSON read back

Inside JSON the date and the time of a timestamp are set apart by a letter, and white space may
stand before each mark.  There is none in what is written, so each item is read where the one
before it ends.

* `Layout.readItems?_mark` — a mark with no white space before it.
* `Timestamp.ofIso?_writeIso` — the text is read as the timestamp that it tells.
-/

namespace Layout

/-- White space may come before a mark, and need not. -/
theorem readItems?_mark {c : Char} (hc : isBlank c = false) (f : LayoutFields) (rest : List Char)
    (items : Layout) :
    readItems? (.blanks :: .literal c :: items) f (c :: rest) = readItems? items f rest := by
  rw [readItems?_cons (by rw [LayoutItem.read?, skipBlanks_cons hc]), readItems?_literal]

/-- A date is read, and what follows it is left. -/
private theorem readItems?_isoDate (d : Date) (f : LayoutFields) (rest : List Char)
    (items : Layout) :
    readItems? (.year :: .blanks :: .literal '-' :: .month :: .blanks :: .literal '-' :: .day ::
        items) f
        (Timestamp.writeYear d.year ++
          '-' :: (padded 2 d.month ++ '-' :: (padded 2 d.day ++ rest))) =
      readItems? items { f with year := d.year, month := d.month, day := d.day } rest := by
  have hyear := LayoutItem.readYear?_writeYear d.year (noDigitAhead_cons (c := '-') (by decide)
    (padded 2 d.month ++ '-' :: (padded 2 d.day ++ rest)))
  rw [readItems?_cons (by rw [LayoutItem.read?, hyear]; rfl), readItems?_mark (by decide),
    readItems?_cons (by rw [LayoutItem.read?, LayoutItem.readTwo?_padded d.month_lt]; rfl),
    readItems?_mark (by decide),
    readItems?_cons (by rw [LayoutItem.read?, LayoutItem.readTwo?_padded d.day_lt]; rfl)]

/-- A time is read, fraction and all, up to the end of the text. -/
private theorem readItems?_isoTime (t : TimeOfDay) (f : LayoutFields) :
    readItems? [.hour, .blanks, .literal ':', .minute, .blanks, .literal ':', .second, .fraction,
        .blanks] f
        (padded 2 t.hour ++ ':' :: (padded 2 t.minute ++
          ':' :: (padded 2 (t.second + t.nanos / nanosPerSecond) ++
            Timestamp.writeFraction (t.nanos % nanosPerSecond)))) =
      some ({ f with
        hour := t.hour, minute := t.minute, second := t.second + t.nanos / nanosPerSecond,
        nanos := t.nanos % nanosPerSecond }, []) := by
  obtain ⟨hhour, hminute, hsecond⟩ := t.written_lt
  have hrest : t.nanos % nanosPerSecond < nanosPerSecond := Nat.mod_lt _ (by decide)
  have hfraction := LayoutItem.readFraction?_writeFraction hrest
  rw [readItems?_cons (by rw [LayoutItem.read?, LayoutItem.readTwo?_padded hhour]; rfl),
    readItems?_mark (by decide),
    readItems?_cons (by rw [LayoutItem.read?, LayoutItem.readTwo?_padded hminute]; rfl),
    readItems?_mark (by decide),
    readItems?_cons (by rw [LayoutItem.read?, LayoutItem.readTwo?_padded hsecond]; rfl),
    readItems?_cons (by rw [LayoutItem.read?, hfraction]; rfl)]
  rfl

/-- The layout of timestamps in JSON reads what a text that is written so tells. -/
theorem iso_read?_writeChars (t : Timestamp) : iso.read? (t.writeChars 'T') = some t.asWritten := by
  simp only [read?, iso, Timestamp.writeChars, List.append_assoc, List.cons_append]
  rw [readItems?_isoDate, readItems?_mark (by decide), readItems?_isoTime]
  simp [LayoutFields.timestamp?, Timestamp.of?, Date.of?_parts, TimeOfDay.of?_written,
    Timestamp.asWritten]

end Layout

/-- **Timestamps in JSON.** The text of a timestamp as a value of its own is read as the timestamp
    that it tells. -/
theorem Timestamp.ofIso?_writeIso (t : Timestamp) : ofIso? t.writeIso = some t.asWritten := by
  rw [ofIso?, writeIso, String.toList_ofList]
  exact Layout.iso_read?_writeChars t

end SqlClient
