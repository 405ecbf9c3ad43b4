import SqlClient.Proofs.Table.Lookup

namespace SqlClient

/-!
# Rows of different widths

The rows of a result set need not be as wide as it has columns.  A column leaves out the rows
that are too short for it, so the values below such a row move up in that column.  A table is
made only where all columns leave out the same rows, and then no cell is in a row that it does
not belong to.

* `ResultSet.occupied`, `ResultSet.IsEven` — the rows that have values, and that none has too
  few of them.
* `ResultSet.trimmed` — the rows that have values, cut to the columns.
* `ResultSet.Makes.isEven` — columns of one length are made of even rows only.
* `ResultSet.makes_trimmed` — what rows make is made of the trimmed rows.
* `materialize_ragged_rows` — which rows a table has, and the rows of which there is none.
-/

namespace ResultSet

variable {r : ResultSet}

/-- The rows that have values, from top to bottom. -/
def occupied (r : ResultSet) : List Row := r.rows.filter fun row => row.values ≠ []

/-- No row has some values, but too few for the columns. -/
def IsEven (r : ResultSet) : Prop :=
  ∀ row ∈ r.rows, row.values = [] ∨ r.columns.length ≤ row.values.length

/-! ### Which rows a column leaves out -/

/-- A column has as many values as there are rows that reach to it. -/
theorem length_columnValues (j : Nat) :
    (r.columnValues j).length = (r.rows.filter fun row => j < row.values.length).length := by
  rw [columnValues, List.length_filterMap_eq_countP, List.countP_eq_length_filter]
  congr 2
  funext row
  by_cases h : j < row.values.length <;> simp [h]

/-- The columns of a table have as many values as it has rows. -/
theorem Makes.length_columnValues {t : Table} (hmade : r.Makes t.columns) {j : Nat}
    (hj : j < r.columns.length) : (r.columnValues j).length = t.rowCount := by
  have hj' : j < t.columns.length := hmade.length_eq ▸ hj
  have hcolumn := hmade.column_eq_ok (List.getElem?_eq_getElem hj) (List.getElem?_eq_getElem hj')
  obtain ⟨_, _, hcells⟩ := ColumnMeta.column_eq_ok.mp hcolumn
  rw [hcells.length_eq, ColumnValues.length_toList]
  exact t.uniform _ (List.getElem_mem hj')

/-- A row that reaches to the last column reaches to the first.  As many rows reach to the one
    as to the other, so no row ends in between. -/
theorem Makes.isEven {t : Table} (hmade : r.Makes t.columns) (hcolumns : r.columns ≠ []) :
    r.IsEven := by
  have hfirst : 0 < r.columns.length := List.length_pos_iff.mpr hcolumns
  have hlast : r.columns.length - 1 < r.columns.length := by omega
  have hsublist : (r.rows.filter fun row => r.columns.length - 1 < row.values.length).Sublist
      (r.rows.filter fun row => 0 < row.values.length) := by
    apply List.monotone_filter_right
    intro row hreaches
    simp only [decide_eq_true_eq] at hreaches ⊢
    omega
  have hsame := hsublist.eq_of_length <| by
    rw [← r.length_columnValues, ← r.length_columnValues, hmade.length_columnValues hfirst,
      hmade.length_columnValues hlast]
  intro row hrow
  by_cases hempty : row.values = []
  · exact .inl hempty
  · have hreaches : row ∈ r.rows.filter fun row => 0 < row.values.length :=
      List.mem_filter.mpr ⟨hrow, by simpa [List.length_pos_iff] using hempty⟩
    rw [← hsame] at hreaches
    have hwide := (List.mem_filter.mp hreaches).2
    simp only [decide_eq_true_eq] at hwide
    exact .inr (by omega)

/-! ### Trimmed rows -/

/-- The result set of the rows that have values, cut to the columns. -/
def trimmed (r : ResultSet) : ResultSet :=
  { r with
    rows := r.occupied.map fun row => { row with values := row.values.take r.columns.length } }

/-- Even rows are as wide as there are columns once they are trimmed. -/
theorem width_trimmed (h : r.IsEven) :
    ∀ row ∈ r.trimmed.rows, row.values.length = r.trimmed.columns.length := by
  intro row hrow
  obtain ⟨source, hsource, rfl⟩ := List.mem_map.mp hrow
  obtain ⟨hmem, hvalues⟩ := List.mem_filter.mp hsource
  have hwide := (h source hmem).resolve_left (by simpa using hvalues)
  simpa [trimmed] using hwide

/-- Rows without values have none for any column. -/
private theorem columnValues_eq_filterMap (j : Nat) :
    r.columnValues j = r.occupied.filterMap (·.values[j]?) := by
  rw [columnValues, occupied, List.filterMap_filter]
  refine List.filterMap_congr fun row _ => ?_
  cases hvalues : row.values with
  | nil => simp
  | cons v rest => simp

private theorem columnValues_trimmed {j : Nat} (hj : j < r.columns.length) :
    r.trimmed.columnValues j = r.columnValues j := by
  rw [r.columnValues_eq_filterMap, columnValues, trimmed, List.filterMap_map]
  refine List.filterMap_congr fun row _ => ?_
  exact List.getElem?_take_of_lt hj

/-- Trimming changes nothing about the columns that are made. -/
theorem makes_trimmed {columns : List Column} : r.trimmed.Makes columns ↔ r.Makes columns := by
  have hcolumns : r.trimmed.columns = r.columns := rfl
  unfold Makes
  rw [hcolumns, List.forall₂_iff_get, List.forall₂_iff_get]
  refine and_congr_right fun hlength => ?_
  refine forall_congr' fun j => forall_congr' fun hj => ?_
  have hj' : j < r.columns.length := by simpa using hj
  simp [columnValues_trimmed hj']

/-! ### The rows of a table -/

/-- The types of the columns are declared or the narrowest. -/
theorem Makes.hasTypes {t : Table} (hmade : r.Makes t.columns) :
    List.Forall₂ (fun p T => p.1.HasType (r.columnValues p.2) T) r.columns.zipIdx
      t.columnTypes := by
  rw [Table.columnTypes, List.forall₂_map_right_iff]
  exact List.Forall₂.imp (fun _ _ hcolumn => (ColumnMeta.column_eq_ok.mp hcolumn).2.1) hmade

/-- A row of the table has the cells of one row of values, each of its column's type. -/
theorem Makes.forall₂_rowCells {t : Table} (hmade : r.Makes t.columns)
    (hrows : ∀ row ∈ r.rows, row.values.length = r.columns.length) {i : Nat} {row : Row}
    (hi : r.rows[i]? = some row) :
    List.Forall₂ (fun p cell => IsCell p.1 p.2 cell) (t.columnTypes.zip row.values)
      (t.rowCells i) := by
  have hwidth : row.values.length = t.columns.length := by
    rw [hrows row (List.mem_of_getElem? hi), hmade.length_eq]
  refine List.forall₂_iff_get.mpr ⟨by simp [Table.columnTypes, Table.rowCells, hwidth], ?_⟩
  intro j hj hj'
  have hcolumn : j < t.columns.length := by simpa [Table.rowCells] using hj'
  have hcell := hmade.isCell hrows hi (List.getElem?_eq_getElem hcolumn)
    (List.getElem?_eq_getElem (hwidth ▸ hcolumn))
  simpa [Table.columnTypes, Table.rowCells] using hcell

end ResultSet

/-- **Ragged rows.** Let a result set have columns, and rows of any widths.  If it becomes a
    table, each of its rows has no values at all or enough for the columns.  The table has the
    names of the columns, their types, and one row for each row that has values; the cells of
    that row are those of the row's first values, one for each column.  If some row has values
    but too few, there is no table and the error says so. -/
theorem materialize_ragged_rows {r : ResultSet} (hcolumns : r.columns ≠ []) :
    (∀ t, materialize r = .ok t →
      (∀ row ∈ r.rows, row.values = [] ∨ r.columns.length ≤ row.values.length) ∧
      t.rowCount = r.occupied.length ∧ t.columnNames = r.columnNames ∧
      List.Forall₂ (fun p T => p.1.HasType (r.columnValues p.2) T) r.columns.zipIdx
        t.columnTypes ∧
      ∀ (i : Nat) (row : Row), r.occupied[i]? = some row →
        ∃ cells, t.row? i = some cells ∧
          List.Forall₂ (fun p cell => IsCell p.1 p.2 cell)
            (t.columnTypes.zip (row.values.take r.columns.length)) cells) ∧
    ∀ row ∈ r.rows, row.values ≠ [] → row.values.length < r.columns.length →
      ∃ e, materialize r = .error e ∧ e.kind = .materialization := by
  constructor
  · intro t ht
    have hmade : r.Makes t.columns := materialize_eq_ok.mp ht
    have heven : r.IsEven := hmade.isEven hcolumns
    -- values beyond the columns and empty rows make no difference, so they may be left out
    have htrimmed : r.trimmed.Makes t.columns := ResultSet.makes_trimmed.mpr hmade
    have hcount : t.rowCount = r.occupied.length := by
      rw [rowCount_of_makes (ResultSet.width_trimmed heven) hcolumns htrimmed]
      exact List.length_map _
    refine ⟨heven, hcount, hmade.columnNames_eq, hmade.hasTypes, ?_⟩
    intro i row hi
    have hbelow : i < t.rowCount := by
      rw [hcount]
      exact (List.getElem?_eq_some_iff.mp hi).1
    refine ⟨t.rowCells i, if_pos hbelow, ?_⟩
    have hcut : r.trimmed.rows[i]? =
        some { row with values := row.values.take r.columns.length } := by
      rw [ResultSet.trimmed, List.getElem?_map, hi]
      rfl
    exact htrimmed.forall₂_rowCells (ResultSet.width_trimmed heven) hcut
  · -- a table would have no row that is neither empty nor wide enough
    intro row hrow hvalues hshort
    cases h : materialize r with
    | error e =>
      obtain ⟨misfit, rfl⟩ := materialize_eq_error h
      exact ⟨_, rfl, rfl⟩
    | ok t =>
      rcases (materialize_eq_ok.mp h).isEven hcolumns row hrow with hempty | hwide
      · exact absurd hempty hvalues
      · omega

namespace RaggedTest

/-- A row with a value too many, one without values, and one of the right width. -/
def gap : ResultSet where
  columns := [⟨"a", some "INTEGER"⟩, ⟨"b", none⟩]
  rows := [⟨["a", "b"], [.int 1, .text "x", .null]⟩, ⟨["a", "b"], []⟩,
    ⟨["a", "b"], [.null, .text "y"]⟩]
  rowsAffected := 3

/-- A row that ends before the second column, above one of the right width. -/
def short : ResultSet where
  columns := [⟨"a", some "INTEGER"⟩, ⟨"b", none⟩]
  rows := [⟨["a", "b"], [.int 1]⟩, ⟨["a", "b"], [.int 2, .text "y"]⟩]
  rowsAffected := 2

end RaggedTest

open RaggedTest in
/-- Below the gap the table goes on with the last row, and a row of one value is refused. -/
theorem materialize_ragged_rows_of_gap :
    gap.columns ≠ [] ∧ short.columns ≠ [] ∧
    (∃ t, materialize gap = .ok t ∧ t.rowCount = 2 ∧ ∃ cells, t.row? 1 = some cells ∧
      List.Forall₂ (fun p cell => IsCell p.1 p.2 cell)
        (t.columnTypes.zip [.null, .text "y"]) cells) ∧
    ∃ e, materialize short = .error e ∧ e.kind = .materialization := by
  have hgap : gap.columns ≠ [] := by simp [gap]
  have hshort : short.columns ≠ [] := by simp [short]
  have hok : (materialize gap).isOk = true := by decide +kernel
  obtain ⟨t, ht⟩ := exists_eq_ok hok
  obtain ⟨_, hcount, _, _, hrows⟩ := (materialize_ragged_rows hgap).1 t ht
  refine ⟨hgap, hshort, ⟨t, ht, hcount, hrows 1 _ rfl⟩, ?_⟩
  exact (materialize_ragged_rows hshort).2 _ List.mem_cons_self nofun (by decide)

end SqlClient
