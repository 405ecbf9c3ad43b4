import SqlClient.Proofs.Json.Members
import SqlClient.Proofs.ResultSet.Rows
import SqlClient.Proofs.Table.Materialize
import SqlClient.Table.Records

namespace SqlClient

/-!
# Cells by name

A value is found by name in a row of a result set, its cell in a column of the table made of
it, and the cell again as a field of the row's record.  Rows and tables take the first column
of the name.  Records take the last one, so they agree with the others on names that no two
columns share.

* `Table.lastColumn?` — the last column of a name.
* `Table.field?_record` — a record reads it.
* `Table.lastColumn?_eq_column?` — it is the first, if there is no other.
* `Row.get?_eq_bind` — a row reads the first.
* `lookups_agree` — how the three readings of a name relate.
-/

/-! ### The last of a kind -/

/-- Where at most one member of a list will do, the last one that does is the first. -/
private theorem find?_reverse_of_countP_le_one {α : Type} {p : α → Bool} {l : List α}
    (h : l.countP p ≤ 1) : l.reverse.find? p = l.find? p := by
  rw [← List.head?_filter, ← List.head?_filter, List.filter_reverse]
  rw [List.countP_eq_length_filter] at h
  match hfilter : l.filter p with
  | [] => rfl
  | [a] => rfl
  | a :: b :: rest =>
    rw [hfilter] at h
    simp at h

namespace Table

/-- The last column of this name. -/
def lastColumn? (t : Table) (name : String) : Option Column :=
  t.columns.reverse.find? (·.name = name)

/-- A column is the last of its name if no column to the right of it has the name. -/
theorem lastColumn?_of_getElem? {t : Table} {j : Nat} {c : Column} (hc : t.columns[j]? = some c)
    (hlast : ∀ k d, j < k → t.columns[k]? = some d → d.name ≠ c.name) :
    t.lastColumn? c.name = some c := by
  have hsplit : t.columns = t.columns.take j ++ c :: t.columns.drop (j + 1) := by
    obtain ⟨hj, rfl⟩ := List.getElem?_eq_some_iff.mp hc
    rw [← List.drop_eq_getElem_cons hj, List.take_append_drop]
  have hright : (t.columns.drop (j + 1)).reverse.find? (·.name = c.name) = none := by
    rw [List.find?_eq_none]
    intro d hd
    obtain ⟨k, hk⟩ := List.mem_iff_getElem?.mp (List.mem_reverse.mp hd)
    rw [List.getElem?_drop] at hk
    simpa using hlast (j + 1 + k) d (by omega) hk
  rw [lastColumn?, hsplit, List.reverse_append, List.reverse_cons, List.append_assoc,
    List.find?_append, hright]
  simp

/-- A record shows the cell of the last column of the name. -/
theorem field?_record (t : Table) (row : Nat) (name : String) :
    (t.record row).field? name =
      (t.lastColumn? name).map fun c => (c.get row).toRecordField := by
  unfold record lastColumn?
  rw [Json.field?_objectOf, ← List.map_reverse, List.find?_map, Option.map_map]
  rfl

/-- There is a first column of a name exactly if there is a last. -/
theorem isSome_lastColumn? (t : Table) (name : String) :
    (t.lastColumn? name).isSome = (t.column? name).isSome := by
  unfold lastColumn? column?
  rw [Bool.eq_iff_iff, List.find?_isSome, List.find?_isSome]
  simp only [List.mem_reverse]

/-- As many columns have a name as it is among their names. -/
theorem count_columnNames (t : Table) (name : String) :
    t.columnNames.count name = t.columns.countP (·.name = name) := by
  rw [columnNames, List.count, List.countP_map]
  refine List.countP_congr fun c _ => ?_
  simp

/-- Both are the same for a name that no two columns share. -/
theorem lastColumn?_eq_column? {t : Table} {name : String}
    (h : t.columnNames.count name ≤ 1) : t.lastColumn? name = t.column? name := by
  rw [count_columnNames] at h
  exact find?_reverse_of_countP_le_one h

/-- A column is found by its name if no other column has it. -/
theorem column?_of_mem {t : Table} {c : Column} (hc : c ∈ t.columns)
    (h : t.columnNames.count c.name = 1) : t.column? c.name = some c := by
  have hlength : (t.columns.filter (·.name = c.name)).length = 1 := by
    rw [← List.countP_eq_length_filter, ← count_columnNames, h]
  obtain ⟨d, hd⟩ := List.length_eq_one_iff.mp hlength
  have hmem : c ∈ t.columns.filter (·.name = c.name) := List.mem_filter.mpr ⟨hc, by simp⟩
  rw [hd, List.mem_singleton] at hmem
  rw [column?, ← List.head?_filter, hd, hmem]
  rfl

/-- The records of a table are one for each row, in the order of the rows. -/
theorem getElem?_records (t : Table) {row : Nat} (h : row < t.rowCount) :
    t.records[row]? = some (t.record row) := by
  rw [records, List.getElem?_map, List.getElem?_range h]
  rfl

end Table

/-! ### Rows of a result set and columns of a table -/

/-- Rows are appended only if all of them have the right width. -/
private theorem ResultSet.length_of_addAll {r s : ResultSet} {rows : List (List Value)}
    (h : r.addAll rows = .ok s) : ∀ row ∈ rows, row.length = r.columns.length := by
  induction rows generalizing r with
  | nil => exact fun row hrow => absurd hrow List.not_mem_nil
  | cons row rest ih =>
    rw [addAll, List.foldlM_cons] at h
    by_cases hrow : row.length = r.columns.length
    · simp only [add, hrow, if_true] at h
      have hrest := ih (r := { r with
        rows := r.rows ++ [⟨r.columnNames, row⟩], rowsAffected := r.rowsAffected + 1 }) h
      exact List.forall_mem_cons.mpr ⟨hrow, hrest⟩
    · simp [add, hrow, bind, Except.bind] at h

section Lookup

variable {r : ResultSet} {t : Table} (hmade : r.Makes t.columns)
  (hrows : ∀ row ∈ r.rows, row.values.length = r.columns.length) {i : Nat} {row : Row}
  (hi : r.rows[i]? = some row)

include hmade hrows hi

/-- What a row has in the place of a column is the value of the column's cell in that row. -/
theorem ResultSet.Makes.isCell {j : Nat} {column : Column} {v : Value}
    (hcolumn : t.columns[j]? = some column) (hv : row.values[j]? = some v) :
    IsCell column.type v (column.get i) := by
  have hj : j < r.columns.length := by
    rw [← hmade.length_eq]
    exact (List.getElem?_eq_some_iff.mp hcolumn).1
  have hmeta := List.getElem?_eq_getElem hj
  obtain ⟨_, _, hcells⟩ := ColumnMeta.column_eq_ok.mp (hmade.column_eq_ok hmeta hcolumn)
  refine isCell_get hcells ?_
  rw [r.columnValues_eq_map hrows hj, List.getElem?_map, hi, Option.map_some, hv]
  rfl

/-- A name that a row knows is that of a column, whose place they agree on; and a name that it
    does not know is that of none. -/
theorem ResultSet.Makes.get?_cases (hnames : row.names = r.columnNames) (name : String) :
    row.get? name = none ∧ t.column? name = none ∨
    ∃ column v, row.get? name = some v ∧ t.column? name = some column ∧
      IsCell column.type v (column.get i) := by
  -- row and table look for a name among the same names, from the first on
  have hplace : row.columnIndex? name = t.columns.findIdx? (·.name = name) := by
    rw [Row.columnIndex?_eq_findIdx?, hnames, ← hmade.columnNames_eq, List.findIdx?_map]
    rfl
  have hcolumn : t.column? name = (row.columnIndex? name).bind (t.columns[·]?) := by
    rw [hplace]
    exact List.find?_eq_bind_findIdx?_getElem?
  cases hj : row.columnIndex? name with
  | none =>
    refine .inl ⟨?_, ?_⟩
    · rw [Row.get?, hj]
      rfl
    · rw [hcolumn, hj]
      rfl
  | some j =>
    have hlt : j < t.columns.length := by
      rw [hplace] at hj
      exact (List.findIdx?_eq_some_iff_findIdx_eq.mp hj).1
    have hvalues : j < row.values.length := by
      rw [hrows row (List.mem_of_getElem? hi), ← hmade.length_eq]
      exact hlt
    refine .inr ⟨t.columns[j], row.values[j], ?_, ?_, ?_⟩
    · rw [Row.get?, hj]
      exact List.getElem?_eq_getElem hvalues
    · rw [hcolumn, hj]
      exact List.getElem?_eq_getElem hlt
    · exact hmade.isCell hrows hi (List.getElem?_eq_getElem hlt) (List.getElem?_eq_getElem hvalues)

end Lookup

/-- **Three readings of a name.** Rows of a result set, the columns of the table made of it
    and the records of that table know the same names.  The cell of the first column of a name
    is what the value in the row's first column of it converts to.  The record shows the cell
    of the last column of the name, so it shows the same cell if no two columns share it. -/
theorem lookups_agree {columns : List ColumnMeta} {rows : List (List Value)} {r : ResultSet}
    {t : Table} (hcolumns : columns ≠ [])
    (hadd : (ResultSet.ofColumns columns).addAll rows = .ok r)
    (ht : materialize r = .ok t) {i : Nat} {row : Row} (hi : r.rows[i]? = some row)
    (name : String) :
    ∃ records object, t.toRecords = .array records ∧ records[i]? = some object ∧
      (row.get? name).isSome = (t.column? name).isSome ∧
      (object.field? name).isSome = (t.column? name).isSome ∧
      (∀ column v, t.column? name = some column → row.get? name = some v →
        IsCell column.type v (column.get i)) ∧
      (object.field? name =
        (t.lastColumn? name).map fun column => (column.get i).toRecordField) ∧
      (t.columnNames.count name ≤ 1 → object.field? name =
        (t.column? name).map fun column => (column.get i).toRecordField) := by
  have hwidth := ResultSet.length_of_addAll hadd
  obtain rfl : ResultSet.ofRows columns rows = r :=
    Except.ok.inj ((ResultSet.addAll_ofColumns hwidth).symm.trans hadd)
  have hmade := materialize_eq_ok.mp ht
  have hrows : ∀ row ∈ (ResultSet.ofRows columns rows).rows,
      row.values.length = columns.length := by
    intro row hrow
    obtain ⟨values, hvalues, rfl⟩ := List.mem_map.mp hrow
    exact hwidth values hvalues
  have hnames : row.names = (ResultSet.ofRows columns rows).columnNames := by
    obtain ⟨values, _, rfl⟩ := List.mem_map.mp (List.mem_of_getElem? hi)
    rfl
  -- a table takes the number of its rows from its first column, so there must be one
  have hcount : i < t.rowCount := by
    rw [rowCount_of_makes hrows hcolumns hmade]
    exact (List.getElem?_eq_some_iff.mp hi).1
  refine ⟨t.records, t.record i, rfl, t.getElem?_records hcount, ?_, ?_, ?_,
    t.field?_record i name, fun hone => ?_⟩
  · rcases hmade.get?_cases hrows hi hnames name with
      ⟨hrow, hcolumn⟩ | ⟨_, _, hrow, hcolumn, _⟩
    · rw [hrow, hcolumn]
      rfl
    · rw [hrow, hcolumn]
      rfl
  · rw [t.field?_record, Option.isSome_map, t.isSome_lastColumn?]
  · intro column v hcolumn hrow
    rcases hmade.get?_cases hrows hi hnames name with ⟨hnone, _⟩ | ⟨c, w, hw, hc, hcell⟩
    · rw [hnone] at hrow
      exact absurd hrow nofun
    · obtain rfl := Option.some.inj (hw.symm.trans hrow)
      obtain rfl := Option.some.inj (hc.symm.trans hcolumn)
      exact hcell
  · rw [t.field?_record, Table.lastColumn?_eq_column? hone]

namespace LookupTest

/-- Columns of a join, two of them with one name. -/
def columns : List ColumnMeta := [⟨"a", none⟩, ⟨"b", none⟩, ⟨"a", none⟩]

def rows : List (List Value) := [[.int 1, .null, .int 3], [.int 4, .text "y", .int 6]]

def table : Table where
  columns := [⟨"a", .int64 [some 1, some 4]⟩, ⟨"b", .utf8 [none, some "y"]⟩,
    ⟨"a", .int64 [some 3, some 6]⟩]
  uniform := by decide

theorem materialize_rows : materialize (ResultSet.ofRows columns rows) = .ok table := by
  decide +kernel

end LookupTest

open LookupTest in
/-- The name that is not shared is read in the same way everywhere. -/
theorem lookups_agree_of_join :
    ∃ records object, table.toRecords = .array records ∧ records[1]? = some object ∧
      IsCell .utf8 (.text "y") (.text "y") ∧ object.field? "b" = some (.text "y") := by
  have hadd : (ResultSet.ofColumns columns).addAll rows = .ok (ResultSet.ofRows columns rows) :=
    rfl
  obtain ⟨records, object, hrecords, hobject, _, _, hcell, _, hfield⟩ :=
    lookups_agree (by simp [columns]) hadd materialize_rows (i := 1) rfl "b"
  refine ⟨records, object, hrecords, hobject, hcell _ _ rfl ?_, ?_⟩
  · rw [Row.get?_eq_findIdx?_bind]
    rfl
  · rw [hfield (by decide)]
    rfl

open LookupTest in
/-- The name that is shared is not: the row and the table read the first column of it, and the
    record the last. -/
theorem record_reads_last :
    ∃ r row, (ResultSet.ofColumns columns).addAll rows = .ok r ∧ materialize r = .ok table ∧
      r.rows[0]? = some row ∧ row.get? "a" = some (.int 1) ∧
      (table.column? "a").map (·.get 0) = some (.int 1) ∧
      (table.record 0).field? "a" = some (.int 3) :=
  ⟨_, _, rfl, materialize_rows, rfl, Row.get?_eq_findIdx?_bind _ _, rfl, rfl⟩

end SqlClient
