import SqlClient.Error

namespace SqlClient

/-!
# Tables

A table is a list of named columns of one length, each holding cells of one type.

* `ColumnValues`, `Column` — typed cells, and a name for them.
* `Table`, `Table.of?` — columns of one length.
* `Table.row?`, `Table.column?` — the same cells by row and by name.
-/

/-- The cells of a column. -/
inductive ColumnValues where
  | null (count : Nat)
  | int64 (cells : List (Option Int64))
  | float64 (cells : List (Option Binary64))
  | utf8 (cells : List (Option String))
  | boolean (cells : List (Option Bool))
  | timestamp (cells : List (Option Timestamp))
  | binary (cells : List (Option (List UInt8)))
deriving DecidableEq, Repr

namespace ColumnValues

def type : ColumnValues → ColumnType
  | null _ => .null
  | int64 _ => .int64
  | float64 _ => .float64
  | utf8 _ => .utf8
  | boolean _ => .boolean
  | timestamp _ => .timestamp
  | binary _ => .binary

/-- A cell as a value. -/
def cellValue {α : Type} (wrap : α → Value) : Option α → Value
  | none => .null
  | some a => wrap a

/-- The cells as values, from top to bottom. -/
def toList : ColumnValues → List Value
  | null count => List.replicate count .null
  | int64 cells => cells.map (cellValue .int)
  | float64 cells => cells.map (cellValue .float)
  | utf8 cells => cells.map (cellValue .text)
  | boolean cells => cells.map (cellValue .bool)
  | timestamp cells => cells.map (cellValue .timestamp)
  | binary cells => cells.map (cellValue .blob)

/-- The number of cells. -/
def size : ColumnValues → Nat
  | null count => count
  | int64 cells => cells.length
  | float64 cells => cells.length
  | utf8 cells => cells.length
  | boolean cells => cells.length
  | timestamp cells => cells.length
  | binary cells => cells.length

/-- The cell in a row; null past the end. -/
def get (c : ColumnValues) (row : Nat) : Value :=
  match c with
  | null _ => .null
  | int64 cells => cellValue .int (cells[row]?).join
  | float64 cells => cellValue .float (cells[row]?).join
  | utf8 cells => cellValue .text (cells[row]?).join
  | boolean cells => cellValue .bool (cells[row]?).join
  | timestamp cells => cellValue .timestamp (cells[row]?).join
  | binary cells => cellValue .blob (cells[row]?).join

/-- Two cells that are both absent or numerically equal. -/
def sameNumber : Option Binary64 → Option Binary64 → Bool
  | none, none => true
  | some x, some y => x.numericallyEqual y
  | _, _ => false

/-- Equality of cells, in which doubles compare as numbers. -/
def equal : ColumnValues → ColumnValues → Bool
  | float64 xs, float64 ys => xs.length = ys.length && (xs.zip ys).all fun p => sameNumber p.1 p.2
  | c, d => c = d

/-! ### One view of the cells -/

@[simp] theorem length_toList (c : ColumnValues) : c.toList.length = c.size := by
  cases c <;> simp [toList, size]

/-- A list of cells seen as values, past its end too. -/
theorem getD_map_cellValue {α : Type} (wrap : α → Value) (cells : List (Option α)) (row : Nat) :
    ((cells.map (cellValue wrap))[row]?).getD .null = cellValue wrap (cells[row]?).join := by
  rw [List.getElem?_map]
  rcases cells[row]? with _ | _ | a <;> rfl

theorem getD_toList (c : ColumnValues) (row : Nat) : (c.toList[row]?).getD .null = c.get row := by
  cases c with
  | null count =>
    rw [toList, List.getElem?_replicate, get]
    split <;> rfl
  | _ => exact getD_map_cellValue _ _ row

end ColumnValues

/-- A named column. -/
structure Column where
  name : String
  values : ColumnValues
deriving DecidableEq, Repr

namespace Column

def type (c : Column) : ColumnType := c.values.type

def size (c : Column) : Nat := c.values.size

def get (c : Column) (row : Nat) : Value := c.values.get row

/-- Equality of names and cells. -/
def equal (c d : Column) : Bool := c.name = d.name && c.values.equal d.values

end Column

/-- The length of the first column, which all columns of a table share. -/
def commonSize (columns : List Column) : Nat := (columns.head?.map (·.size)).getD 0

/-- Columns of one length. -/
structure Table where
  columns : List Column
  uniform : ∀ c ∈ columns, c.size = commonSize columns
deriving DecidableEq, Repr

namespace Table

/-- The table with these columns, if they are of one length. -/
def of? (columns : List Column) : Except Error Table :=
  match h : columns.find? (·.size ≠ commonSize columns) with
  | some c => .error (.misfit (.length c.name c.size (commonSize columns)))
  | none => .ok ⟨columns, by simpa using h⟩

/-- The table without columns. -/
def empty : Table := ⟨[], by simp⟩

def rowCount (t : Table) : Nat := commonSize t.columns

def columnCount (t : Table) : Nat := t.columns.length

def isEmpty (t : Table) : Bool := t.rowCount = 0

def columnNames (t : Table) : List String := t.columns.map (·.name)

def columnTypes (t : Table) : List ColumnType := t.columns.map (·.type)

/-- The first column of this name. -/
def column? (t : Table) (name : String) : Option Column := t.columns.find? (·.name = name)

/-- The cells of a row from left to right. -/
def rowCells (t : Table) (row : Nat) : List Value := t.columns.map (·.get row)

/-- The row at an index below the row count. -/
def row? (t : Table) (row : Nat) : Option (List Value) :=
  if row < t.rowCount then some (t.rowCells row) else none

/-- The cells of all rows, from top to bottom. -/
def rows (t : Table) : List (List Value) := (List.range t.rowCount).map t.rowCells

/-- Equality of columns one by one. -/
def equal (t u : Table) : Bool :=
  t.columns.length = u.columns.length && (t.columns.zip u.columns).all fun p => p.1.equal p.2

end Table

end SqlClient
