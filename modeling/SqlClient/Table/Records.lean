import SqlClient.Json
import SqlClient.Table

namespace SqlClient

/-!
# Tables as JSON

A table is written row by row, as objects by column name, or column by column.

* `Table.toRecords` — an array of one object a row; `Table.toNdjson` — one line a row.
* `Table.toColumnar` — the columns with their types and cells.
-/

/-- A cell in a record. -/
def Value.toRecordField : Value → Json
  | null => .null
  | int i => .int i.toInt
  | float x => if x.isFinite then .float x else .null
  | text s => .text s
  | bool b => .bool b
  | timestamp t => .text t.write
  | blob bytes => .ofBytes bytes

/-- A cell among the cells of its column. -/
def Value.toColumnarCell : Value → Json
  | timestamp t => .text t.writeIso
  | v => v.toRecordField

namespace Table

/-- The object of a row.  A name that comes again keeps its first place and takes the later
    cell. -/
def record (t : Table) (row : Nat) : Json :=
  .objectOf (t.columns.map fun c => (c.name, (c.get row).toRecordField))

/-- The objects of all rows. -/
def records (t : Table) : List Json := (List.range t.rowCount).map t.record

def toRecords (t : Table) : Json := .array t.records

/-- The objects of all rows, each on a line of its own. -/
def toNdjson (t : Table) : String :=
  String.ofList (t.records.flatMap fun r => r.chars ++ ['\n'])

end Table

/-- The cells of a column; a column of nulls is just its length. -/
def ColumnValues.toColumnar (c : ColumnValues) : Json :=
  let cells := match c with
    | null count => .int count
    | c => .array (c.toList.map Value.toColumnarCell)
  .object [("type", .text c.type.name), ("values", cells)]

def Column.toColumnar (c : Column) : Json :=
  .object [("name", .text c.name), ("values", c.values.toColumnar)]

/-- The columns of a table and its row count. -/
def Table.toColumnar (t : Table) : Json :=
  .object [("columns", .array (t.columns.map Column.toColumnar)), ("num_rows", .int t.rowCount)]

end SqlClient
