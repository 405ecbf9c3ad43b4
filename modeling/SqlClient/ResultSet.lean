import SqlClient.Error
import Std.Data.HashMap.Basic

namespace SqlClient

/-!
# Result sets

What an engine answers to one statement, before it is made into a table: columns in the
order they were selected, and rows of values under them.

* `indexColumns` — the places of columns by name; the first column of a name counts.
* `Row.columnIndex?`, `Row.get?` — what a row finds by a name.
* `ResultSet.add` — a row of the right width is appended and counted.
* `ResultSet.offer`, `offerAll` — rows of any width, and what is answered.
* `ResultSet.columnValues` — one column from top to bottom.
-/

/-- The name of a result column and the type it was declared with, if any. -/
structure ColumnMeta where
  name : String
  declared : Option String
deriving DecidableEq, Repr

/-- The place of the first column of each name.  The names are gone through once, and a name
    that is there already stays where it is. -/
def indexColumns (names : List String) : Std.HashMap String Nat :=
  names.zipIdx.foldl (fun index p => index.insertIfNew p.1 p.2) ∅

/-- A row: its values, and the names of the columns they stand in. -/
structure Row where
  names : List String
  values : List Value
deriving DecidableEq, Repr

namespace Row

/-- Where the first column of this name is, as the index of the names has it. -/
def columnIndex? (row : Row) (name : String) : Option Nat := (indexColumns row.names)[name]?

/-- The value in the first column of this name. -/
def get? (row : Row) (name : String) : Option Value :=
  (row.columnIndex? name).bind (row.values[·]?)

end Row

/-- The answer to one statement. -/
structure ResultSet where
  columns : List ColumnMeta
  rows : List Row
  rowsAffected : Nat
deriving DecidableEq, Repr

namespace ResultSet

/-- No rows yet under the given columns. -/
def ofColumns (columns : List ColumnMeta) : ResultSet := ⟨columns, [], 0⟩

/-- No rows yet under the given columns, and room for some. -/
def withCapacity (columns : List ColumnMeta) (capacity : Nat) : ResultSet where
  columns := columns
  rows := (Array.emptyWithCapacity capacity).toList
  rowsAffected := 0

/-- The answer of a statement without columns. -/
def affected (count : Nat) : ResultSet := ⟨[], [], count⟩

def columnNames (r : ResultSet) : List String := r.columns.map (·.name)

/-- Append a row of values as wide as the result set, and count it. -/
def add (r : ResultSet) (values : List Value) : Except Error ResultSet :=
  if values.length = r.columns.length then
    .ok { r with rows := r.rows ++ [⟨r.columnNames, values⟩], rowsAffected := r.rowsAffected + 1 }
  else .error (.rowWidth values.length r.columns.length)

/-- Append rows until one is refused. -/
def addAll (r : ResultSet) (rows : List (List Value)) : Except Error ResultSet :=
  rows.foldlM add r

/-- Offer a row: it is appended, or refused for a reason, and then nothing changes. -/
def offer (r : ResultSet) (values : List Value) : ResultSet × Option Error :=
  match r.add values with
  | .ok r => (r, none)
  | .error e => (r, some e)

/-- Offer rows one after the other. -/
def offerAll (r : ResultSet) : List (List Value) → ResultSet × List (Option Error)
  | [] => (r, [])
  | values :: rest =>
    let (r, answer) := r.offer values
    let (r, answers) := offerAll r rest
    (r, answer :: answers)

/-- The values of one column, from top to bottom; rows too short for it are left out. -/
def columnValues (r : ResultSet) (index : Nat) : List Value :=
  r.rows.filterMap (·.values[index]?)

end ResultSet

end SqlClient
