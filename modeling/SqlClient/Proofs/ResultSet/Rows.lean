import Mathlib.Tactic.Common
import SqlClient.ResultSet
import Std.Data.HashMap.Lemmas

namespace SqlClient

/-!
# Rows of a result set

Rows of the right width are appended one after the other, a column is read off them, and a
name is looked up in the index of the names of their columns.

* `Row.columnIndex?_eq_findIdx?` — what the index of names is for.
* `ResultSet.addAll_eq_ok` — what is left by appending rows of the right width.
* `ResultSet.columnValues_ofRows` — the values of a column of them.
-/

/-! ### The index of names -/

/-- Going through more names leaves those found before, and finds the first of the others. -/
private theorem getElem?_foldl_insertIfNew (names : List String) (start : Nat)
    (index : Std.HashMap String Nat) (name : String) :
    ((names.zipIdx start).foldl (fun index p => index.insertIfNew p.1 p.2) index)[name]? =
      index[name]?.or ((names.findIdx? (· = name)).map (· + start)) := by
  induction names generalizing start index with
  | nil => simp
  | cons first rest ih =>
    rw [List.zipIdx_cons, List.foldl_cons, ih, Std.HashMap.getElem?_insertIfNew,
      List.findIdx?_cons]
    by_cases hfirst : first = name
    · subst hfirst
      by_cases hmem : first ∈ index
      · simp [hmem]
      · simp [hmem]
    · simp [hfirst, Function.comp_def, Nat.add_comm, Nat.add_left_comm]

/-- **The index of names** has the first place of every name: what a row finds in it is what it
    would find by going through its names. -/
theorem Row.columnIndex?_eq_findIdx? (row : Row) (name : String) :
    row.columnIndex? name = row.names.findIdx? (· = name) := by
  rw [columnIndex?, indexColumns, getElem?_foldl_insertIfNew]
  simp

theorem Row.get?_eq_findIdx?_bind (row : Row) (name : String) :
    row.get? name = (row.names.findIdx? (· = name)).bind (row.values[·]?) := by
  rw [get?, columnIndex?_eq_findIdx?]

namespace ResultSet

/-! ### Rows appended -/

/-- Rows of the right width are all appended, in their order, and each of them is counted. -/
theorem addAll_eq_ok (r : ResultSet) {rows : List (List Value)}
    (h : ∀ row ∈ rows, row.length = r.columns.length) :
    r.addAll rows = .ok { r with
      rows := r.rows ++ rows.map (Row.mk r.columnNames)
      rowsAffected := r.rowsAffected + rows.length } := by
  induction rows generalizing r with
  | nil => simp [addAll, pure, Except.pure]
  | cons row rest ih =>
    obtain ⟨hrow, hrest⟩ := List.forall_mem_cons.mp h
    have hadd : r.add row = .ok { r with
        rows := r.rows ++ [⟨r.columnNames, row⟩], rowsAffected := r.rowsAffected + 1 } :=
      if_pos hrow
    have hall := ih { r with
      rows := r.rows ++ [⟨r.columnNames, row⟩], rowsAffected := r.rowsAffected + 1 } hrest
    unfold addAll at hall ⊢
    rw [List.foldlM_cons, hadd]
    refine hall.trans ?_
    simp [columnNames, Nat.add_comm, Nat.add_left_comm]

/-- The result set of these columns and rows. -/
def ofRows (columns : List ColumnMeta) (rows : List (List Value)) : ResultSet where
  columns := columns
  rows := rows.map (Row.mk (columns.map (·.name)))
  rowsAffected := rows.length

@[simp] theorem columns_ofRows (columns : List ColumnMeta) (rows : List (List Value)) :
    (ofRows columns rows).columns = columns := rfl

/-- The room that a result set is given does not show. -/
theorem withCapacity_eq (columns : List ColumnMeta) (capacity : Nat) :
    withCapacity columns capacity = ofColumns columns := rfl

/-- It is what appending the rows leaves, if they are of the right width. -/
theorem addAll_ofColumns {columns : List ColumnMeta} {rows : List (List Value)}
    (h : ∀ row ∈ rows, row.length = columns.length) :
    (ofColumns columns).addAll rows = .ok (ofRows columns rows) := by
  rw [addAll_eq_ok _ h]
  simp [ofColumns, ofRows, columnNames]

/-- A column of it is what the rows have in its place. -/
theorem columnValues_ofRows (columns : List ColumnMeta) (rows : List (List Value)) (index : Nat) :
    (ofRows columns rows).columnValues index = rows.filterMap (·[index]?) := by
  simp only [columnValues, ofRows, List.filterMap_map]
  rfl

end ResultSet

end SqlClient
