import SqlClient.Embedded.Datum
import SqlClient.Proofs.ResultSet.Rows
import SqlClient.Proofs.Table.Materialize
import SqlClient.Proofs.Timestamp.Layout

namespace SqlClient

/-!
# What is bound reads back

The embedded database has no booleans and no timestamps.  They are bound as something else,
and a column that was declared for them turns what is read into what was bound.

* `Embedded.Datum.exists_toValue_ofValue` — what a bound value is read as.
* `Embedded.bound_reads_back` — a column of bound values, read back and made into a table.
-/

/-- The result set of one column with these values. -/
def ResultSet.ofColumn (column : ColumnMeta) (values : List Value) : ResultSet where
  columns := [column]
  rows := values.map fun v => ⟨[column.name], [v]⟩
  rowsAffected := values.length

private theorem ResultSet.addAll_singletons (column : ColumnMeta) (values : List Value) :
    (ResultSet.ofColumns [column]).addAll (values.map ([·])) =
      .ok (ResultSet.ofColumn column values) := by
  have hwidth : ∀ row ∈ values.map ([·]),
      row.length = (ResultSet.ofColumns [column]).columns.length := by
    simp [ofColumns]
  rw [addAll_eq_ok _ hwidth]
  simp [ofColumns, ofColumn, columnNames]

private theorem ResultSet.columnValues_ofColumn (column : ColumnMeta) (values : List Value) :
    (ResultSet.ofColumn column values).columnValues 0 = values := by
  simp [columnValues, ofColumn, List.filterMap_map]

namespace Embedded

/-- The database keeps every value but NaN as it is bound. -/
theorem Datum.ofParameter_eq {v : Value} (hnan : ∀ x, v = .float x → x.isNaN = false) :
    Datum.ofParameter v = Datum.ofValue v := by
  cases v with
  | float x => simp [ofParameter, ofValue, hnan x rfl]
  | _ => rfl

/-- The value belongs in a column of its own type, so it is enough to look there. -/
theorem isCell_of_naturalType? {v w cell : Value} {own : ColumnType}
    (hown : v.naturalType? = some own) (h : ConvertsTo own w cell) (T : ColumnType)
    (hT : v = .null ∨ v.naturalType? = some T) : IsCell T w cell := by
  rcases hT with rfl | hT
  · exact absurd hown nofun
  · obtain rfl : own = T := Option.some.inj (hown.symm.trans hT)
    exact .inr h

/-- What a value is read as once it is bound is null for null, and else it converts to what the
    text of the value tells, in a column of its type. -/
theorem Datum.exists_toValue_ofValue (v : Value) :
    ∃ w, (Datum.ofValue v).toValue = .ok w ∧
      ∀ T, v = .null ∨ v.naturalType? = some T → IsCell T w v.asWritten := by
  cases v with
  | null => exact ⟨.null, rfl, fun _ _ => .inl ⟨rfl, rfl⟩⟩
  | int i => exact ⟨.int i, rfl, isCell_of_naturalType? rfl (.int i)⟩
  | float x => exact ⟨.float x, rfl, isCell_of_naturalType? rfl (.float x)⟩
  | text s => exact ⟨.text s, rfl, isCell_of_naturalType? rfl (.text s)⟩
  | bool b => exact ⟨.int (if b then 1 else 0), rfl, isCell_of_naturalType? rfl (.bit b)⟩
  | timestamp t =>
    exact ⟨.text t.write, rfl,
      isCell_of_naturalType? rfl (.stamp t.write t.asWritten (Timestamp.ofText?_write t))⟩
  | blob bytes => exact ⟨.blob bytes, rfl, isCell_of_naturalType? rfl (.blob bytes)⟩

/-- Values that are the cells of a column make that column. -/
private theorem exists_ofValues_of_isCell {T : ColumnType} {stored values : List Value}
    (h : List.Forall₂ (IsCell T) stored values) :
    ∃ c, ColumnValues.ofValues T stored = .ok c ∧ c.toList = values := by
  obtain ⟨c, hc⟩ := ColumnValues.exists_ofValues.mpr (exists_forall₂_iff.mp ⟨values, h⟩)
  -- a value has one cell, so the column has these cells and no others
  obtain ⟨_, hcells⟩ := ColumnValues.ofValues_eq_ok.mp hc
  exact ⟨c, hc, List.right_unique_forall₂' (fun _ _ _ hw hw' => hw.unique hw') hcells h⟩

/-- A result set of one column, filled with values and made into a table. -/
theorem materialize_one_column {name declared : String} {T : ColumnType}
    (hT : ColumnType.ofDeclared? declared = some T) {stored values : List Value}
    (h : List.Forall₂ (IsCell T) stored values) :
    ∃ r t, (ResultSet.ofColumns [⟨name, some declared⟩]).addAll (stored.map ([·])) = .ok r ∧
      materialize r = .ok t ∧ t.columnNames = [name] ∧ t.columnTypes = [T] ∧
      t.columns.map (·.values.toList) = [values] := by
  obtain ⟨c, hc, htoList⟩ := exists_ofValues_of_isCell h
  obtain ⟨htype, hcells⟩ := ColumnValues.ofValues_eq_ok.mp hc
  have hcolumn : (⟨name, some declared⟩ : ColumnMeta).column stored = .ok ⟨name, c⟩ := by
    refine ColumnMeta.column_eq_ok.mpr ⟨rfl, .inl ?_, ?_⟩
    · rw [Column.type, htype]
      exact hT
    · rw [Column.type, htype]
      exact hcells
  -- the values of the only column are those that it was filled with
  have hmade : (ResultSet.ofColumn ⟨name, some declared⟩ stored).Makes [⟨name, c⟩] := by
    refine .cons ?_ .nil
    rw [ResultSet.columnValues_ofColumn]
    exact hcolumn
  refine ⟨_, ⟨[⟨name, c⟩], by simp [commonSize]⟩, ResultSet.addAll_singletons _ stored,
    materialize_eq_ok.mpr hmade, rfl, ?_, ?_⟩
  · exact congrArg ([·]) htype
  · exact congrArg ([·]) htoList

/-- **Bound and read back.** Values of one kind, nulls among them, that are bound, stored,
    read back and made into a column declared for their kind are the same values again, but for
    timestamps in which a second runs on out of place.  The text that those are bound as tells
    the next second, and so they are read. -/
theorem bound_reads_back {declared : String} {T : ColumnType}
    (hT : ColumnType.ofDeclared? declared = some T) (name : String) (values : List Value)
    (hkind : ∀ v ∈ values, v = .null ∨ v.naturalType? = some T)
    (hnan : ∀ x, .float x ∈ values → x.isNaN = false) :
    (∃ stored r t,
      values.mapM (fun v => (Datum.ofValue v).toValue) = .ok stored ∧
      (ResultSet.ofColumns [⟨name, some declared⟩]).addAll (stored.map ([·])) = .ok r ∧
      materialize r = .ok t ∧ t.columnNames = [name] ∧ t.columnTypes = [T] ∧
      t.columns.map (·.values.toList) = [values.map Value.asWritten]) ∧
    (∀ v ∈ values, Datum.ofParameter v = Datum.ofValue v) ∧
    (∀ v : Value, v.asWritten = v ↔ ¬ v.Strays) ∧
    ∀ t : Timestamp, (Value.text t.write).asTimestamp? = some t.asWritten := by
  refine ⟨?_, fun v hv => ?_, fun _ => Value.asWritten_eq_self, Timestamp.ofText?_write⟩
  · -- every value that was bound has one that is read, and that has the cell
    have hread : ∀ v ∈ values,
        ∃ w, (Datum.ofValue v).toValue = .ok w ∧ IsCell T w v.asWritten := by
      intro v hv
      obtain ⟨w, hw, hcell⟩ := Datum.exists_toValue_ofValue v
      exact ⟨w, hw, hcell T (hkind v hv)⟩
    obtain ⟨stored, hstored⟩ := exists_forall₂_iff.mpr hread
    -- reading never fails on what was bound
    have hmap : values.mapM (fun v => (Datum.ofValue v).toValue) = .ok stored :=
      mapM_eq_ok_iff.mpr (hstored.imp fun _ _ h => h.1)
    have hcells : List.Forall₂ (IsCell T) stored (values.map Value.asWritten) :=
      List.forall₂_map_right_iff.mpr (hstored.imp fun _ _ h => h.2).flip
    obtain ⟨r, t, hadd, hmade, hnames, htypes, hvalues⟩ := materialize_one_column hT hcells
    exact ⟨stored, r, t, hmap, hadd, hmade, hnames, htypes, hvalues⟩
  · exact Datum.ofParameter_eq fun x hx => hnan x (hx ▸ hv)

namespace BindingTest

/-- The leap second at the end of a year far away. -/
def leap : Timestamp where
  date := ⟨-262143, 12, 31, by decide⟩
  time := ⟨23, 59, 59, 1999999999, by decide⟩

end BindingTest

open BindingTest in
/-- A leap second long ago and a null, in a column declared for timestamps. -/
theorem bound_reads_back_of_leap :
    ColumnType.ofDeclared? "timestamp" = some .timestamp ∧
    (∃ stored r t,
      [Value.timestamp leap, .null].mapM (fun v => (Datum.ofValue v).toValue) = .ok stored ∧
      (ResultSet.ofColumns [⟨"at", some "timestamp"⟩]).addAll (stored.map ([·])) = .ok r ∧
      materialize r = .ok t ∧ t.columnNames = ["at"] ∧ t.columnTypes = [.timestamp] ∧
      t.columns.map (·.values.toList) = [[.timestamp leap, .null]]) ∧
    leap.write = "-262143-12-31 23:59:60.999999999" ∧
    Timestamp.ofText? "-262143-12-31 23:59:60.999999999" = some leap := by
  have hdeclared : ColumnType.ofDeclared? "timestamp" = some .timestamp := by decide +kernel
  have hkind : ∀ v ∈ [Value.timestamp leap, .null],
      v = .null ∨ v.naturalType? = some .timestamp := by
    simp [Value.naturalType?]
  have hwritten : leap.write = "-262143-12-31 23:59:60.999999999" := by decide +kernel
  obtain ⟨hcolumn, _, hsame, hread⟩ := bound_reads_back hdeclared "at" _ hkind (by simp)
  have hplace : leap.asWritten = leap := by decide
  refine ⟨hdeclared, ?_, hwritten, ?_⟩
  · have hvalues :
        [Value.timestamp leap, .null].map Value.asWritten = [.timestamp leap, .null] := by
      simp [Value.asWritten, hplace]
    rw [hvalues] at hcolumn
    exact hcolumn
  · rw [← hwritten, ← hplace]
    exact hread leap

open LayoutTest in
/-- **What does not read back.** A second that runs on and is not the last of its minute is bound
    as the text of the second after it, and read back as that. -/
theorem bound_stray_reads_back_as_next :
    (Datum.ofValue (.timestamp stray)).toValue = .ok (.text "2024-01-02 03:04:06.500") ∧
    Datum.ofValue (.timestamp stray) = Datum.ofValue (.timestamp next) ∧
    (Value.text stray.write).asTimestamp? = some next ∧ next ≠ stray := by
  have hwritten : stray.write = "2024-01-02 03:04:06.500" := by decide +kernel
  have hnext : next.write = "2024-01-02 03:04:06.500" := by decide +kernel
  refine ⟨?_, ?_, ?_, by decide⟩
  · rw [← hwritten]
    rfl
  · simp only [Datum.ofValue, hwritten, hnext]
  · rw [← asWritten_stray]
    exact Timestamp.ofText?_write stray

end Embedded

end SqlClient
