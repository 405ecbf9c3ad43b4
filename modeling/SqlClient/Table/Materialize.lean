import SqlClient.ResultSet
import SqlClient.Table

namespace SqlClient

/-!
# From result sets to tables

Each column takes the type it was declared with, or else the narrowest type that holds
all its values.  Then every value must convert to that type without loss.

* `inferType` — the type of a column nothing was declared for.
* `ColumnValues.ofValues` — the cells of a column, or the first value that does not fit.
* `materialize` — a whole result set; the first column that does not fit decides the error.
-/

/-- The type of column a value asks for; null asks for none. -/
def Value.naturalType? : Value → Option ColumnType
  | null => none
  | int _ => some .int64
  | float _ => some .float64
  | text _ => some .utf8
  | bool _ => some .boolean
  | timestamp _ => some .timestamp
  | blob _ => some .binary

namespace ColumnType

def isNumeric (t : ColumnType) : Bool := t = .int64 || t = .float64

/-- The type that holds the values of both; integers and doubles meet in doubles. -/
def join? (current next : ColumnType) : Option ColumnType :=
  if current = next then some current
  else if current.isNumeric && next.isNumeric then some .float64
  else none

end ColumnType

/-- Infer a column's type from `row` on, having seen values of type `seen` above. -/
def inferFrom (column : String) (row : Nat) (seen : Option ColumnType) :
    List Value → Except Misfit ColumnType
  | [] => .ok (seen.getD .null)
  | v :: rest =>
    match v.naturalType?, seen with
    | none, _ => inferFrom column (row + 1) seen rest
    | some t, none => inferFrom column (row + 1) (some t) rest
    | some t, some current =>
      match current.join? t with
      | some joined => inferFrom column (row + 1) (some joined) rest
      | none => .error (.mixture column row v.kind current)

/-- The narrowest type for the values of a column. -/
def inferType (column : String) (values : List Value) : Except Misfit ColumnType :=
  inferFrom column 0 none values

/-- Convert the values of a column; the error is the first row whose value does not convert,
    and that value. -/
def convertFrom {α : Type} (convert : Value → Option α) (row : Nat) :
    List Value → Except (Nat × Value) (List (Option α))
  | [] => .ok []
  | v :: rest =>
    if v.isNull then (convertFrom convert (row + 1) rest).map (none :: ·)
    else
      match convert v with
      | some a => (convertFrom convert (row + 1) rest).map (some a :: ·)
      | none => .error (row, v)

/-- No value but null fits a column of nulls. -/
def Value.asNothing? (_ : Value) : Option Empty := none

namespace ColumnValues

/-- The cells of a column of the given type. -/
def ofValues (type : ColumnType) (values : List Value) :
    Except (Nat × Value) ColumnValues :=
  match type with
  | .null => (convertFrom Value.asNothing? 0 values).map fun cells => .null cells.length
  | .int64 => (convertFrom Value.asInt? 0 values).map .int64
  | .float64 => (convertFrom Value.exactFloat? 0 values).map .float64
  | .utf8 => (convertFrom Value.asText? 0 values).map .utf8
  | .boolean => (convertFrom Value.asBool? 0 values).map .boolean
  | .timestamp => (convertFrom Value.asTimestamp? 0 values).map .timestamp
  | .binary => (convertFrom Value.asBlob? 0 values).map .binary

end ColumnValues

/-- The type of a column: the declared one, if it settles it, or the inferred one. -/
def ColumnMeta.type (m : ColumnMeta) (values : List Value) : Except Misfit ColumnType :=
  match m.declared.bind ColumnType.ofDeclared? with
  | some t => .ok t
  | none => inferType m.name values

/-- The column a result column makes of its values. -/
def ColumnMeta.column (m : ColumnMeta) (values : List Value) : Except Misfit Column := do
  let type ← m.type values
  match ColumnValues.ofValues type values with
  | .ok cells => .ok ⟨m.name, cells⟩
  | .error (row, v) => .error (.value m.name row v.kind type)

/-- The columns of a result set from index `index` on. -/
def materializeFrom (r : ResultSet) (index : Nat) : List ColumnMeta → Except Misfit (List Column)
  | [] => .ok []
  | m :: rest => do
    let column ← m.column (r.columnValues index)
    let columns ← materializeFrom r (index + 1) rest
    .ok (column :: columns)

/-- The table of a result set. -/
def materialize (r : ResultSet) : Except Error Table := do
  let columns ← (materializeFrom r 0 r.columns).mapError .misfit
  Table.of? columns

end SqlClient
