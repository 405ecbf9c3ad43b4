import SqlClient.Proofs.Table.OwnRows
import SqlClient.Proofs.Timestamp.Micros
import SqlClient.Table.RecordBatch

namespace SqlClient

/-!
# Record batches of tables

Every table leaves as a record batch: its columns are of one length, and each of them agrees
with its field.  Only what is below a microsecond is lost.

* `Value.LeavesAs` — a cell, and the cell of the batch that it leaves as.
* `Column.fits_toBatch` — a column agrees with its field.
* `Table.toRecordBatch_eq_ok` — the batch of a table.
* `Table.record_batch_of_every_table` — what is in it.
-/

/-- A cell of a table and what it leaves as: null as no value, a timestamp as the microseconds
    since 1970 that are over, and any other value as itself. -/
inductive Value.LeavesAs : Value → Option BatchCell → Prop where
  | null : LeavesAs .null none
  | int (i : Int64) : LeavesAs (.int i) (some (.int64 i))
  | float (x : Binary64) : LeavesAs (.float x) (some (.float64 x))
  | text (s : String) : LeavesAs (.text s) (some (.utf8 s))
  | bool (b : Bool) : LeavesAs (.bool b) (some (.boolean b))
  | timestamp (t : Timestamp) (micros : Int64) (h : micros.toInt = t.nanosSinceEpoch / 1000) :
      LeavesAs (.timestamp t) (some (.timestampMicros micros))
  | blob (bytes : List UInt8) : LeavesAs (.blob bytes) (some (.binary bytes))

theorem Value.leavesAs_batchCell? (v : Value) : v.LeavesAs v.batchCell? := by
  cases v with
  | null => exact .null
  | int i => exact .int i
  | float x => exact .float x
  | text s => exact .text s
  | bool b => exact .bool b
  | timestamp t => exact .timestamp t _ t.toInt_unixMicros
  | blob bytes => exact .blob bytes

/-- Null is the only cell that leaves as no value. -/
theorem Value.LeavesAs.eq_none_iff {v : Value} {cell : Option BatchCell} (h : v.LeavesAs cell) :
    cell = none ↔ v = .null := by
  cases h <;> simp

/-- A value of a column's type leaves as one of the field's. -/
theorem Value.type_batchCell? {v : Value} {T : ColumnType} (h : v.naturalType? = some T) :
    ∃ cell, v.batchCell? = some cell ∧ cell.type = T.fieldType := by
  cases v with
  | null => exact absurd h nofun
  | _ =>
    obtain rfl := Option.some.inj h
    exact ⟨_, rfl, rfl⟩

/-! ### Columns -/

namespace Column

/-- A cell leaves in the row in which it stands. -/
theorem getD_toBatch (c : Column) (i : Nat) :
    ((c.toBatch.cells[i]?).getD none) = (c.get i).batchCell? := by
  rw [get, ← ColumnValues.getD_toList, toBatch, List.getElem?_map]
  cases c.values.toList[i]? <;> rfl

theorem length_toBatch (c : Column) : c.toBatch.cells.length = c.size := by
  rw [toBatch, List.length_map, ColumnValues.length_toList]
  rfl

/-- The column of a batch agrees with its field in type, and has as many cells as the column of
    the table. -/
theorem fits_toBatch (c : Column) : c.toBatch.fits c.size c.field = true := by
  have hcells : c.toBatch.cells.all fun cell => cell.all fun v => v.type = c.toBatch.type := by
    refine List.all_eq_true.mpr fun cell hcell => ?_
    obtain ⟨v, hv, rfl⟩ := List.mem_map.mp hcell
    rcases ColumnValues.naturalType?_of_mem hv with rfl | hnatural
    · rfl
    · obtain ⟨leaving, hleaves, htype⟩ := Value.type_batchCell? hnatural
      rw [hleaves]
      exact decide_eq_true htype
  simp only [BatchColumn.fits, hcells, c.length_toBatch]
  simp [toBatch, field]

end Column

namespace Table

/-! ### Tables -/

/-- The batch of a table. -/
def batch (t : Table) : RecordBatch :=
  ⟨t.columns.map Column.field, t.columns.map Column.toBatch, t.rowCount⟩

/-- Every table has its batch, as its columns have one size. -/
theorem toRecordBatch_eq_ok (t : Table) : t.toRecordBatch = .ok t.batch := by
  have hfits : ((t.columns.map Column.field).zip (t.columns.map Column.toBatch)).findIdx?
      (fun p => !p.2.fits t.rowCount p.1) = none := by
    rw [List.zip_map', List.findIdx?_eq_none_iff]
    intro p hp
    obtain ⟨c, hc, rfl⟩ := List.mem_map.mp hp
    -- columns are as long as the table has rows
    have hsize : c.size = t.rowCount := t.uniform c hc
    have hfit := c.fits_toBatch
    rw [hsize] at hfit
    simp [hfit]
  simp [toRecordBatch, RecordBatch.of?, hfits, batch]

/-- Columns make a table exactly if no two are of different lengths. -/
private theorem exists_of?_iff {columns : List Column} :
    (∃ t, of? columns = .ok t) ↔ ∀ c ∈ columns, ∀ d ∈ columns, c.size = d.size := by
  simp only [of?_eq_ok]
  constructor
  · rintro ⟨t, rfl, huniform⟩ c hc d hd
    rw [huniform c hc, huniform d hd]
  · intro h
    have huniform : ∀ c ∈ columns, c.size = commonSize columns := by
      intro c hc
      cases columns with
      | nil => exact absurd hc List.not_mem_nil
      | cons first rest => exact h c hc first List.mem_cons_self
    exact ⟨⟨columns, huniform⟩, rfl, huniform⟩

/-- **Every table leaves as a batch.** Columns make a table exactly if they are of one length.
    A table, built from columns or made of a result set, has as many cells in every column as it
    has rows, and its batch is never refused.  The batch has the rows and, in order, the names;
    every field may be null and is of its column's type, and so are the cells under it.  A cell
    is null where the table's is, for a timestamp it is the microseconds since 1970, cut off
    downwards, and otherwise it is the table's. -/
theorem record_batch_of_every_table :
    (∀ columns, (∃ t, of? columns = .ok t) ↔ ∀ c ∈ columns, ∀ d ∈ columns, c.size = d.size) ∧
    ∀ t : Table, (∀ c ∈ t.columns, c.values.toList.length = t.rowCount) ∧
      ∃ batch, t.toRecordBatch = .ok batch ∧ batch.rowCount = t.rowCount ∧
        batch.fields.map (·.name) = t.columnNames ∧
        batch.columns.length = t.columns.length ∧
        ∀ (j : Nat) (c : Column), t.columns[j]? = some c →
          ∃ field column, batch.fields[j]? = some field ∧ batch.columns[j]? = some column ∧
            field.nullable = true ∧ field.type = c.type.fieldType ∧ column.type = field.type ∧
            column.cells.length = t.rowCount ∧
            ∀ i < t.rowCount, ∃ cell, column.cells[i]? = some cell ∧
              (cell = none ↔ c.get i = .null) ∧ (c.get i).LeavesAs cell := by
  constructor
  · intro columns
    exact exists_of?_iff
  · intro t
    refine ⟨?_, t.batch, t.toRecordBatch_eq_ok, rfl, ?_, List.length_map _, ?_⟩
    · intro c hc
      rw [ColumnValues.length_toList]
      exact t.uniform c hc
    · simp [batch, columnNames, Column.field]
    · intro j c hc
      -- field and column of the batch are both made of the column of the table
      have hfield : t.batch.fields[j]? = some c.field := by
        rw [batch, List.getElem?_map, hc]
        rfl
      have hcolumn : t.batch.columns[j]? = some c.toBatch := by
        rw [batch, List.getElem?_map, hc]
        rfl
      have hlength : c.toBatch.cells.length = t.rowCount := by
        rw [c.length_toBatch]
        exact t.uniform c (List.mem_of_getElem? hc)
      refine ⟨c.field, c.toBatch, hfield, hcolumn, rfl, rfl, rfl, hlength, ?_⟩
      intro i hi
      have hcell : c.toBatch.cells[i]? = some (c.get i).batchCell? := by
        rw [← c.getD_toBatch, List.getElem?_eq_getElem (hlength ▸ hi)]
        rfl
      have hleaves := (c.get i).leavesAs_batchCell?
      exact ⟨_, hcell, hleaves.eq_none_iff, hleaves⟩

namespace RecordBatchTest

/-- The last nanosecond before 1970. -/
def before : Timestamp where
  date := ⟨1969, 12, 31, by decide⟩
  time := ⟨23, 59, 59, 999999999, by decide⟩

/-- A timestamp above a null, and nulls alone. -/
def stamped : List Column := [⟨"at", .timestamp [some before, none]⟩, ⟨"gone", .null 2⟩]

end RecordBatchTest

open RecordBatchTest in
/-- The last nanosecond before 1970 leaves as the microsecond it is in, the one before zero. -/
theorem record_batch_of_every_table_of_last_nanosecond :
    ∃ t batch column cell, of? stamped = .ok t ∧ t.toRecordBatch = .ok batch ∧
      batch.rowCount = 2 ∧ batch.columns[0]? = some column ∧ column.type = .timestampMicros ∧
      column.cells[0]? = some (some cell) ∧ cell = .timestampMicros (-1) := by
  obtain ⟨t, ht⟩ := (record_batch_of_every_table.1 stamped).mpr (by decide)
  have hstamped : t.columns = stamped := (of?_eq_ok.mp ht).1
  have hcount : t.rowCount = 2 := by
    rw [rowCount, hstamped]
    rfl
  have hat : t.columns[0]? = some ⟨"at", .timestamp [some before, none]⟩ := by
    rw [hstamped]
    rfl
  obtain ⟨_, batch, hbatch, hrows, _, _, hcolumns⟩ := record_batch_of_every_table.2 t
  obtain ⟨field, column, _, hcolumn, _, hfield, htype, _, hcells⟩ := hcolumns 0 _ hat
  obtain ⟨cell, hcell, _, hleaves⟩ := hcells 0 (by omega)
  cases hleaves with
  | timestamp _ micros hmicros =>
    have hbefore : before.nanosSinceEpoch / 1000 = -1 := by decide +kernel
    refine ⟨t, batch, column, _, ht, hbatch, hrows.trans hcount, hcolumn, htype.trans hfield,
      hcell, ?_⟩
    rw [← Int64.ofInt_toInt micros, hmicros, hbefore]
    rfl

end Table

end SqlClient
