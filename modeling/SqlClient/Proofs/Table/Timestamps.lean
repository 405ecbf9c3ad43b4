import SqlClient.Proofs.Csv.Framing
import SqlClient.Proofs.Table.Grid
import SqlClient.Proofs.Table.Lookup
import SqlClient.Proofs.Timestamp.Instants
import SqlClient.Proofs.Timestamp.Layout

namespace SqlClient

/-!
# Timestamps as they are exported

A grid and a record show the text of a timestamp as it is.  Comma-separated values are written
from a batch, in which a timestamp is a count of microseconds, so they show the timestamp that is
found again by the count: without the nanoseconds below a microsecond, and without leap seconds.

* `Csv.exists_of_cellText` — the field of a count of microseconds.
* `Table.timestamps_exported` — one cell in the three exports.
* `Table.csv_shows_microseconds` — a table for which they differ.
-/

namespace Timestamp

/-- What the text of a timestamp tells is as far from 1970: a second that runs on is counted into
    the next one. -/
theorem nanosSinceEpoch_asWritten (t : Timestamp) :
    t.asWritten.nanosSinceEpoch = t.nanosSinceEpoch := by
  obtain ⟨hhour, hminute, hnanos⟩ := t.time.nanos_asWritten
  simp only [nanosPerSecond] at hnanos
  simp only [nanosSinceEpoch, asWritten, TimeOfDay.secondOfDay, hhour, hminute, nanosPerSecond]
  omega

theorem unixMicros_asWritten (t : Timestamp) : t.asWritten.unixMicros = t.unixMicros := by
  rw [← Int64.toInt_inj, toInt_unixMicros, toInt_unixMicros, nanosSinceEpoch_asWritten]

/-- A timestamp is of whole microseconds exactly if the time that it is written as is. -/
private theorem nanos_asWritten_mod (t : Timestamp) :
    t.asWritten.time.nanos % 1000 = t.time.nanos % 1000 := by
  obtain ⟨_, _, hnanos⟩ := t.time.nanos_asWritten
  simp only [nanosPerSecond] at hnanos
  simp only [asWritten]
  omega

end Timestamp

/-- A row with a cell that is not null is one of the column's. -/
private theorem Column.lt_size_of_get_ne_null {c : Column} {i : Nat} (h : c.get i ≠ .null) :
    i < c.size := by
  by_contra hpast
  have hnone : c.values.toList[i]? = none := by
    rw [List.getElem?_eq_none_iff, ColumnValues.length_toList]
    exact Nat.not_lt.mp hpast
  apply h
  rw [Column.get, ← ColumnValues.getD_toList, hnone]
  rfl

/-- The field of a count of microseconds is the text of the timestamp that they find. -/
theorem Csv.exists_of_cellText {i j : Nat} {micros : Int64} {field : List Char}
    (h : cellText i j (some (.timestampMicros micros)) = .ok field) :
    ∃ u, Timestamp.ofUnixMicros? micros = some u ∧ field = u.write.toList := by
  -- unfolding by equations would carry out the calculation that finds the timestamp
  delta cellText at h
  dsimp only at h
  split at h
  · rename_i u hu
    exact ⟨u, hu, (Except.ok.inj h).symm⟩
  · exact absurd h nofun

namespace Table

/-- **Timestamps in the exports.** Let a table be written as comma-separated values, and a cell of
    it be a timestamp.  The grid shows the text of the timestamp, in the place of the cell, and so
    does the record of the row, unless a column further right has the name.  The field of the
    cell is the text of another timestamp: the one that is as many nanoseconds from 1970, less
    those below a microsecond, and is not in a leap second.  So it is the same text exactly for
    timestamps of whole microseconds whose text does not tell of a leap second. -/
theorem timestamps_exported {t : Table} {out : String} (h : t.toCsv = .ok out) {i j : Nat}
    {c : Column} {ts : Timestamp} (hc : t.columns[j]? = some c) (hcell : c.get i = .timestamp ts) :
    ∃ (rows : List (List (List Char))) (fields : List (List Char)) (field : List Char)
      (records : List Json) (object : Json) (u : Timestamp),
      (∀ limit, i < t.shownRows limit → ∃ blanks,
        Grid.place (Grid.widths t (t.shownRows limit)) (i + 3) j (t.toText limit).toList =
          ts.write.toList ++ List.replicate blanks ' ') ∧
      t.toRecords = .array records ∧ records[i]? = some object ∧
      ((∀ k d, j < k → t.columns[k]? = some d → d.name ≠ c.name) →
        object.field? c.name = some (.text ts.write)) ∧
      Csv.read out.toList = some (t.columnNames.map String.toList :: rows) ∧
      rows[i]? = some fields ∧ fields[j]? = some field ∧ field = u.write.toList ∧
      u.nanosSinceEpoch = ts.nanosSinceEpoch / 1000 * 1000 ∧ u.time.isLeap = false ∧
      (ts.time.isLeap = false → u = ts.cutToMicros) ∧
      (field = ts.write.toList ↔
        ts.asWritten.time.isLeap = false ∧ ts.time.nanos % 1000 = 0) := by
  have hnull : c.get i ≠ .null := by
    rw [hcell]
    exact nofun
  have hi : i < t.rowCount := by
    have hsize : c.size = t.rowCount := t.uniform c (List.mem_of_getElem? hc)
    rw [← hsize]
    exact Column.lt_size_of_get_ne_null hnull
  -- the field is the text of the timestamp `u` that the count of microseconds finds
  obtain ⟨rows, fields, field, hread, hfields, hfield, htext⟩ := exists_field_toCsv h hi hc
  rw [hcell] at htext
  obtain ⟨u, hu, rfl⟩ := Csv.exists_of_cellText htext
  obtain ⟨_, hleap, hwhole⟩ := Timestamp.unixMicros_of_ofUnixMicros? hu
  refine ⟨rows, fields, _, t.records, t.record i, u, fun limit hshown => ?_, rfl,
    t.getElem?_records hi, fun hlast => ?_, hread, hfields, hfield, rfl,
    Timestamp.nanosSinceEpoch_of_ofUnixMicros? hu, hleap, fun hts => ?_, ?_⟩
  · rw [Grid.place_toText hshown hc, hcell]
    exact ⟨_, rfl⟩
  · rw [t.field?_record, lastColumn?_of_getElem? hc hlast, Option.map_some, hcell]
    rfl
  · rw [Timestamp.ofUnixMicros?_eq_cutToMicros hts] at hu
    exact (Option.some.inj hu).symm
  · rw [← ts.nanos_asWritten_mod]
    constructor
    · intro hsame
      -- what is found is in place, so it is what its text tells
      have htold := Timestamp.asWritten_eq_of_write_eq (String.toList_inj.mp hsame)
      rw [Timestamp.asWritten_eq_self.mpr (.inl (TimeOfDay.isLeap_eq_false.mp hleap))] at htold
      rw [← htold]
      exact ⟨hleap, hwhole⟩
    · rintro ⟨hts, hmicros⟩
      rw [← ts.unixMicros_asWritten, Timestamp.ofUnixMicros?_unixMicros hts hmicros] at hu
      rw [← Option.some.inj hu, Timestamp.write, Timestamp.writeChars_asWritten, Timestamp.write]

namespace TimestampsTest

/-- A nanosecond after a full minute. -/
def nanosecond : Timestamp := ⟨⟨2024, 1, 1, by decide⟩, ⟨12, 30, 0, 1, by decide⟩⟩

/-- A quarter of a second into a leap second. -/
def leapSecond : Timestamp := ⟨⟨2016, 12, 31, by decide⟩, ⟨23, 59, 59, 1250000000, by decide⟩⟩

def stamps : Table := ⟨[⟨"at", .timestamp [some nanosecond, some leapSecond]⟩], by decide⟩

def csv : String := "at\n2024-01-01 12:30:00\n2017-01-01 00:00:00.250\n"

def grid : String :=
  "+-------------------------------+\n" ++
  "| at                            |\n" ++
  "+-------------------------------+\n" ++
  "| 2024-01-01 12:30:00.000000001 |\n" ++
  "| 2016-12-31 23:59:60.250       |\n" ++
  "+-------------------------------+\n"

theorem toCsv_stamps : stamps.toCsv = .ok csv := by
  decide +kernel

end TimestampsTest

open TimestampsTest in
/-- The leap second keeps its text in the record, and has another in the comma-separated
    values. -/
theorem timestamps_exported_of_leapSecond :
    ∃ rows fields field records object,
      Csv.read csv.toList = some (["at".toList] :: rows) ∧ rows[1]? = some fields ∧
      fields[0]? = some field ∧ field ≠ leapSecond.write.toList ∧
      stamps.toRecords = .array records ∧ records[1]? = some object ∧
      object.field? "at" = some (.text leapSecond.write) := by
  obtain ⟨rows, fields, field, records, object, _, _, hrecords, hobject, htext, hread, hfields,
      hfield, _, _, _, _, hsame⟩ :=
    timestamps_exported (i := 1) (j := 0) toCsv_stamps rfl rfl
  refine ⟨rows, fields, field, records, object, hread, hfields, hfield, fun h => ?_, hrecords,
    hobject, htext fun k d hk hd => ?_⟩
  · obtain ⟨hleap, _⟩ := hsame.mp h
    exact absurd hleap (by decide)
  · obtain ⟨k, rfl⟩ := Nat.exists_eq_add_of_lt hk
    cases hd

open TimestampsTest in
/-- The exports of one table: in the comma-separated values nothing is left of the nanosecond, and
    the leap second is in the next year. -/
theorem csv_shows_microseconds :
    stamps.toCsv = .ok csv ∧ stamps.toText none = grid ∧
    (stamps.record 0).field? "at" = some (.text "2024-01-01 12:30:00.000000001") ∧
    (stamps.record 1).field? "at" = some (.text "2016-12-31 23:59:60.250") := by
  have hnanosecond : nanosecond.write = "2024-01-01 12:30:00.000000001" := by decide +kernel
  have hleapSecond : leapSecond.write = "2016-12-31 23:59:60.250" := by decide +kernel
  refine ⟨toCsv_stamps, by decide +kernel, ?_, ?_⟩
  · rw [← hnanosecond]
    rfl
  · rw [← hleapSecond]
    rfl

end Table

end SqlClient
