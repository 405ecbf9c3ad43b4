import SqlClient.Proofs.Csv.Reader
import SqlClient.Proofs.Table.RecordBatch

namespace SqlClient

/-!
# The fields of a table

What a table is written as in comma-separated values is read as its names and, row by row,
its cells, each in a field of its own.

* `Csv.Shows` — the field that shows a cell.
* `Table.toCsv_eq_ok` — the lines of a table.
* `Csv.rowTexts_eq_ok` — the fields of a row.
* `Table.exists_field_toCsv` — the field of a cell.
* `Table.read_toCsv` — a table is read field by field.
-/

namespace Csv

/-- A field shows a cell: null is the empty field, text is itself, and everything else is
    the text of its kind. -/
structure Shows (i j : Nat) (v : Value) (field : List Char) : Prop where
  null : v = .null → field = []
  text : ∀ s, v = .text s → field = s.toList
  written : cellText i j v.batchCell? = .ok field

/-- A cell of a table is shown in its field by its text, and null by an empty field. -/
private theorem shows_of_cellText {i j : Nat} {v : Value} {field : List Char}
    (h : cellText i j v.batchCell? = .ok field) : Shows i j v field where
  null hv := by
    subst hv
    exact (Except.ok.inj h).symm
  text s hv := by
    subst hv
    exact (Except.ok.inj h).symm
  written := h

/-- The fields of a row show its cells from left to right. -/
theorem rowTexts_eq_ok {t : Table} {i : Nat} {fields : List (List Char)} :
    rowTexts t.batch i = .ok fields ↔
      List.Forall₂ (fun p field => cellText i p.2 (p.1.get i).batchCell? = .ok field)
        t.columns.zipIdx fields := by
  unfold rowTexts
  rw [mapM_eq_ok_iff, Table.batch, List.zipIdx_map, List.forall₂_map_left_iff]
  simp only [Prod.map, Column.getD_toBatch, id]

end Csv

namespace Table

variable {t : Table}

/-- The lines of a table are the one of its names and those of its rows. -/
theorem toCsv_eq_ok {out : String} (h : t.toCsv = .ok out) :
    ∃ rows, List.Forall₂ (fun i fields => Csv.rowTexts t.batch i = .ok fields)
        (List.range t.rowCount) rows ∧
      out.toList = ((t.columnNames.map String.toList :: rows).map Csv.record).flatten := by
  unfold toCsv at h
  cases hrows : (List.range t.rowCount).mapM (Csv.rowTexts t.batch) with
  | error e =>
    have hnone : Csv.records t.batch = .error e := by
      rw [Csv.records, show t.batch.rowCount = t.rowCount from rfl, hrows]
      rfl
    simp [t.toRecordBatch_eq_ok, hnone, bind, Except.bind] at h
  | ok rows =>
    have hlines : Csv.records t.batch =
        .ok ((t.columnNames.map String.toList :: rows).map Csv.record) := by
      rw [Csv.records, show t.batch.rowCount = t.rowCount from rfl, hrows]
      simp [bind, Except.bind, batch, Column.field, columnNames, Function.comp_def]
    refine ⟨rows, mapM_eq_ok_iff.mp hrows, ?_⟩
    simp only [t.toRecordBatch_eq_ok, hlines, bind, Except.bind, Except.ok.injEq] at h
    rw [← h, String.toList_ofList]

/-- The fields of a row that is written show its cells from left to right. -/
theorem forall₂_fields {rows : List (List (List Char))}
    (hrows : List.Forall₂ (fun i fields => Csv.rowTexts t.batch i = .ok fields)
      (List.range t.rowCount) rows) {i : Nat} {fields : List (List Char)}
    (hi : rows[i]? = some fields) :
    List.Forall₂ (fun p field => Csv.cellText i p.2 (p.1.get i).batchCell? = .ok field)
      t.columns.zipIdx fields := by
  obtain ⟨hlt, rfl⟩ := List.getElem?_eq_some_iff.mp hi
  have hat := hrows.get (by rw [hrows.length_eq]; exact hlt) hlt
  rw [List.get_eq_getElem, List.getElem_range] at hat
  exact Csv.rowTexts_eq_ok.mp hat

/-- Where a table is written, a reader finds a field for every cell, and its text is that of the
    cell. -/
theorem exists_field_toCsv {out : String} (h : t.toCsv = .ok out) {i j : Nat} {c : Column}
    (hi : i < t.rowCount) (hc : t.columns[j]? = some c) :
    ∃ rows fields field, Csv.read out.toList = some (t.columnNames.map String.toList :: rows) ∧
      rows[i]? = some fields ∧ fields[j]? = some field ∧
      Csv.cellText i j (c.get i).batchCell? = .ok field := by
  obtain ⟨rows, hrows, hout⟩ := toCsv_eq_ok h
  obtain ⟨hj, rfl⟩ := List.getElem?_eq_some_iff.mp hc
  have hwidth : ∀ (k : Nat) (fields : List (List Char)), rows[k]? = some fields →
      fields.length = t.columns.length := by
    intro k fields hk
    rw [← (forall₂_fields hrows hk).length_eq, List.length_zipIdx]
  -- there is a column, so no record is without fields and the reader finds them all
  have hne : ∀ fields ∈ t.columnNames.map String.toList :: rows, fields ≠ [] := by
    intro fields hmem
    apply List.ne_nil_of_length_pos
    rcases List.mem_cons.mp hmem with rfl | hmem
    · rw [List.length_map, columnNames, List.length_map]
      omega
    · obtain ⟨k, hk⟩ := List.mem_iff_getElem?.mp hmem
      rw [hwidth k fields hk]
      omega
  have hrow : i < rows.length := by
    rw [← hrows.length_eq, List.length_range]
    exact hi
  have hfields := List.getElem?_eq_getElem hrow
  have hfield : j < rows[i].length := by
    rw [hwidth i _ hfields]
    exact hj
  have hat := (forall₂_fields hrows hfields).get (by simpa using hj) hfield
  refine ⟨rows, rows[i], rows[i][j], ?_, hfields, List.getElem?_eq_getElem hfield, ?_⟩
  · rw [hout, Csv.read_flatten_record hne]
  · simpa using hat

/-- **No field is lost.** If a table with columns is written as comma-separated values, a
    reader of the format finds one record more than the table has rows, all as wide as the
    table: its names, and for every row the cells, each shown by a field of its own. -/
theorem read_toCsv (hcolumns : t.columns ≠ []) {out : String} (h : t.toCsv = .ok out) :
    ∃ rows, Csv.read out.toList = some (t.columnNames.map String.toList :: rows) ∧
      rows.length = t.rowCount ∧
      ∀ i fields, rows[i]? = some fields →
        fields.length = t.columnCount ∧
        ∀ j c field, t.columns[j]? = some c → fields[j]? = some field →
          Csv.Shows i j (c.get i) field := by
  obtain ⟨rows, hrows, hout⟩ := toCsv_eq_ok h
  have hcells : ∀ (i : Nat) (fields : List (List Char)), rows[i]? = some fields →
      List.Forall₂ (fun p field => Csv.cellText i p.2 (p.1.get i).batchCell? = .ok field)
        t.columns.zipIdx fields := by
    intro i fields hi
    obtain ⟨hi', rfl⟩ := List.getElem?_eq_some_iff.mp hi
    have hat := hrows.get (by rw [hrows.length_eq]; exact hi') hi'
    rw [List.get_eq_getElem, List.getElem_range] at hat
    exact Csv.rowTexts_eq_ok.mp hat
  have hwidth : ∀ (i : Nat) (fields : List (List Char)), rows[i]? = some fields →
      fields.length = t.columns.length := by
    intro i fields hi
    rw [← (hcells i fields hi).length_eq, List.length_zipIdx]
  -- a table with columns has no line without fields
  have hfields : ∀ fields ∈ t.columnNames.map String.toList :: rows, fields ≠ [] := by
    intro fields hmem
    rcases List.mem_cons.mp hmem with rfl | hmem
    · simpa [columnNames] using hcolumns
    · obtain ⟨i, hi⟩ := List.mem_iff_getElem?.mp hmem
      rw [← List.length_pos_iff, hwidth i fields hi]
      exact List.length_pos_iff.mpr hcolumns
  refine ⟨rows, ?_, ?_, fun i fields hi => ⟨hwidth i fields hi, fun j c field hc hfield => ?_⟩⟩
  · rw [hout, Csv.read_flatten_record hfields]
  · rw [← hrows.length_eq, List.length_range]
  · obtain ⟨hj, rfl⟩ := List.getElem?_eq_some_iff.mp hc
    obtain ⟨hj', rfl⟩ := List.getElem?_eq_some_iff.mp hfield
    have hat := (hcells i fields hi).get (by simpa using hj) hj'
    exact Csv.shows_of_cellText (by simpa using hat)

namespace CsvTest

/-- A column whose name holds a comma and a line end, over an empty text and a null. -/
def lone : Table := ⟨[⟨"a,\n\"", .utf8 [some "", none, some "\r\""]⟩], by decide⟩

end CsvTest

open CsvTest in
/-- Empty text and null in the only column still make a record each. -/
theorem read_toCsv_of_lone :
    lone.columns ≠ [] ∧
    lone.toCsv = .ok "\"a,\n\"\"\"\n\"\"\n\"\"\n\"\r\"\"\"\n" ∧
    ∃ rows, Csv.read "\"a,\n\"\"\"\n\"\"\n\"\"\n\"\r\"\"\"\n".toList =
        some (["a,\n\"".toList] :: rows) ∧
      rows.length = 3 ∧
      ∀ i fields, rows[i]? = some fields → fields.length = 1 ∧
        ∀ j c field, lone.columns[j]? = some c → fields[j]? = some field →
          Csv.Shows i j (c.get i) field := by
  have hcolumns : lone.columns ≠ [] := by decide
  have hwritten : lone.toCsv = .ok "\"a,\n\"\"\"\n\"\"\n\"\"\n\"\r\"\"\"\n" := by decide +kernel
  obtain ⟨rows, hread, hlength, hrows⟩ := read_toCsv hcolumns hwritten
  exact ⟨hcolumns, hwritten, rows, hread, hlength, hrows⟩

end Table

end SqlClient
