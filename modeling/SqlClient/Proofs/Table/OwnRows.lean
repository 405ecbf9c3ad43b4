import SqlClient.Proofs.ResultSet.Rows
import SqlClient.Proofs.Table.Materialize

namespace SqlClient

/-!
# Tables made of their own rows

The rows of a table, put into a result set with its columns, make the same table again.
Row by row and column by column, every cell is read as a value of its column's type, and
such a value needs no conversion.

* `ColumnValues.toList_eq_map_get` — the cells of a column, read one by one.
* `ColumnMeta.AsksFor` — a result column that a column of a table comes back in.
* `ColumnMeta.AsksFor.column_eq_ok` — one column comes back.
* `materialize_own_rows` — the whole table does.
-/

/-! ### Columns read from rows -/

/-- The cells of a column, read one by one, are all that it holds. -/
theorem ColumnValues.toList_eq_map_get (c : ColumnValues) :
    c.toList = (List.range c.size).map c.get := by
  apply List.ext_getElem
  · simp
  · intro i hi _
    rw [List.getElem_map, List.getElem_range, ← getD_toList, List.getElem?_eq_getElem hi,
      Option.getD_some]

/-- A cell is null or a value of its column's type. -/
theorem ColumnValues.naturalType?_of_mem {c : ColumnValues} {v : Value} (h : v ∈ c.toList) :
    v = .null ∨ v.naturalType? = some c.type := by
  cases c with
  | null count => exact .inl (List.eq_of_mem_replicate h)
  | _ =>
    obtain ⟨cell, _, rfl⟩ := List.mem_map.mp h
    cases cell with
    | none => exact .inl rfl
    | some a => exact .inr rfl

/-- A cell is null or a value of its column's type, past the end too. -/
theorem Column.naturalType?_get (c : Column) (row : Nat) :
    c.get row = .null ∨ (c.get row).naturalType? = some c.type := by
  rw [get, ← ColumnValues.getD_toList]
  cases hv : c.values.toList[row]? with
  | none => exact .inl rfl
  | some v => exact ColumnValues.naturalType?_of_mem (List.mem_of_getElem? hv)

namespace Table

@[simp] theorem length_rowCells (t : Table) (i : Nat) :
    (t.rowCells i).length = t.columns.length := by
  simp [rowCells]

/-- The rows of a table are the ones it answers with. -/
private theorem getElem?_rows (t : Table) (i : Nat) : t.rows[i]? = t.row? i := by
  unfold rows row?
  rw [List.getElem?_map]
  split
  · rename_i hi
    rw [List.getElem?_range hi]
    rfl
  · rename_i hi
    rw [List.getElem?_eq_none (by simpa using hi)]
    rfl

/-- What the rows of a table have in the place of a column are its cells. -/
private theorem filterMap_rows (t : Table) {j : Nat} {c : Column} (hc : t.columns[j]? = some c) :
    t.rows.filterMap (·[j]?) = c.values.toList := by
  -- columns are as long as there are rows
  have hsize : c.values.size = t.rowCount := t.uniform c (List.mem_of_getElem? hc)
  rw [ColumnValues.toList_eq_map_get, hsize, rows, List.filterMap_map, ← List.filterMap_eq_map]
  refine List.filterMap_congr fun i _ => ?_
  simp [rowCells, hc, Column.get]

end Table

/-! ### Columns that come back -/

/-- A result column that a column of a table comes back in: it has the name, and what is
    declared for it, if anything, settles the column's type.  Nothing is declared where the
    column has nothing but nulls to go by. -/
structure ColumnMeta.AsksFor (m : ColumnMeta) (c : Column) : Prop where
  name : m.name = c.name
  typed : c.type ≠ .null →
    ∃ declared, m.declared = some declared ∧ ColumnType.ofDeclared? declared = some c.type
  untyped : c.type = .null → m.declared = none

namespace ColumnMeta.AsksFor

variable {m : ColumnMeta} {c : Column}

/-- The type of a column is found again from its own cells, if it is declared or has a value that
    settles it. -/
theorem hasType (h : m.AsksFor c) : m.HasType c.values.toList c.type := by
  by_cases hnull : c.type = .null
  · have hnone : m.declared.bind ColumnType.ofDeclared? = none := by
      rw [h.untyped hnull]
      rfl
    -- a column of that type has no value but null, so nothing asks for a type
    have hno : naturalTypes c.values.toList = [] := by
      refine List.filterMap_eq_nil_iff.mpr fun v hv => ?_
      rcases ColumnValues.naturalType?_of_mem hv with rfl | hnatural
      · rfl
      · rw [show c.values.type = .null from hnull] at hnatural
        exact absurd hnatural (by cases v <;> simp [Value.naturalType?])
    refine .inr ⟨hnone, ?_⟩
    rw [hno, hnull]
    exact .nothing
  · obtain ⟨declared, hdeclared, htype⟩ := h.typed hnull
    exact .inl (by rw [hdeclared]; exact htype)

/-- One column of a table comes back from its own cells, with its type and its values. -/
theorem column_eq_ok (h : m.AsksFor c) : m.column c.values.toList = .ok c := by
  refine ColumnMeta.column_eq_ok.mpr ⟨h.name.symm, h.hasType, List.forall₂_same.mpr ?_⟩
  intro v hv
  rcases ColumnValues.naturalType?_of_mem hv with rfl | hnatural
  · exact .inl ⟨rfl, rfl⟩
  · exact .inr (convertsTo_natural hnatural)

end ColumnMeta.AsksFor

/-- The columns that the rows of a table make are its own. -/
theorem Table.makes_ofRows {t : Table} {metas : List ColumnMeta}
    (hmetas : List.Forall₂ ColumnMeta.AsksFor metas t.columns) :
    (ResultSet.ofRows metas t.rows).Makes t.columns := by
  have hlength : metas.length = t.columns.length := hmetas.length_eq
  refine List.forall₂_iff_get.mpr ⟨by simpa using hlength, ?_⟩
  intro j hj hj'
  have hmeta : j < metas.length := by simpa using hj
  have hasks : metas[j].AsksFor t.columns[j] := hmetas.get hmeta hj'
  have hvalues : (ResultSet.ofRows metas t.rows).columnValues j = t.columns[j].values.toList := by
    rw [ResultSet.columnValues_ofRows]
    exact t.filterMap_rows (List.getElem?_eq_getElem hj')
  have hcolumn := hasks.column_eq_ok
  rw [← hvalues] at hcolumn
  simpa using hcolumn

/-- **A table makes itself again.** Columns that make a table, whatever their number, names
    and types: their rows, as the table answers with them, are all appended to a result set
    with the same columns, and what is made of it is that table, cell for cell. -/
theorem materialize_own_rows {columns : List Column} {t : Table} (ht : Table.of? columns = .ok t)
    {metas : List ColumnMeta} (hmetas : List.Forall₂ ColumnMeta.AsksFor metas columns) :
    t.columns = columns ∧ (∀ i, t.rows[i]? = t.row? i) ∧
    ∃ r, (ResultSet.ofColumns metas).addAll t.rows = .ok r ∧
      r.rows.length = t.rowCount ∧ materialize r = .ok t := by
  obtain ⟨rfl, _⟩ := Table.of?_eq_ok.mp ht
  have hwidth : ∀ row ∈ t.rows, row.length = metas.length := by
    intro row hrow
    obtain ⟨i, _, rfl⟩ := List.mem_map.mp hrow
    rw [t.length_rowCells, hmetas.length_eq]
  refine ⟨rfl, t.getElem?_rows, _, ResultSet.addAll_ofColumns hwidth, ?_, ?_⟩
  · simp [ResultSet.ofRows, Table.rows]
  · exact materialize_eq_ok.mpr (t.makes_ofRows hmetas)

namespace OwnRowsTest

/-- A column of nothing but nulls beside one of doubles, both of the same name. -/
def columns : List Column :=
  [⟨"x", .null 2⟩, ⟨"x", .float64 [some .nan, none]⟩]

def metas : List ColumnMeta := [⟨"x", none⟩, ⟨"x", some "double precision"⟩]

end OwnRowsTest

open OwnRowsTest in
/-- Two columns of one name, with nulls and a double that is not a number. -/
theorem materialize_own_rows_of_nulls :
    ∃ t, Table.of? columns = .ok t ∧ List.Forall₂ ColumnMeta.AsksFor metas columns ∧
      t.rows = [[.null, .float .nan], [.null, .null]] ∧
      ∃ r, (ResultSet.ofColumns metas).addAll t.rows = .ok r ∧ materialize r = .ok t := by
  have huniform : ∀ c ∈ columns, c.size = commonSize columns := by decide
  have ht : Table.of? columns = .ok ⟨columns, huniform⟩ := Table.of?_eq_ok.mpr ⟨rfl, huniform⟩
  have hmetas : List.Forall₂ ColumnMeta.AsksFor metas columns := by
    refine .cons ⟨rfl, fun h => absurd rfl h, fun _ => rfl⟩ (.cons ⟨rfl, fun _ => ?_, nofun⟩ .nil)
    exact ⟨"double precision", rfl, by decide +kernel⟩
  obtain ⟨_, _, r, hadd, _, hmade⟩ := materialize_own_rows ht hmetas
  exact ⟨_, ht, hmetas, rfl, r, hadd, hmade⟩

end SqlClient
