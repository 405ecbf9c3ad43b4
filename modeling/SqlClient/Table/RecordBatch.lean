import SqlClient.Table

namespace SqlClient

/-!
# Record batches

A batch is the form in which tables leave for columnar tools: a schema of fields, and
columns of machine values under it.  Timestamps are microseconds since 1970.

* `RecordBatch.of?` — columns that agree with their schema.
* `Table.toRecordBatch` — the batch of a table.
-/

/-- The type of a field. -/
inductive FieldType where
  | null
  | int64
  | float64
  | utf8
  | boolean
  | timestampMicros
  | binary
deriving DecidableEq, Repr

/-- The type as schemas print it. -/
def FieldType.text : FieldType → String
  | null => "Null"
  | int64 => "Int64"
  | float64 => "Float64"
  | utf8 => "Utf8"
  | boolean => "Boolean"
  | timestampMicros => "Timestamp(Microsecond, None)"
  | binary => "Binary"

/-- The field type that a column type leaves as. -/
def ColumnType.fieldType : ColumnType → FieldType
  | null => .null
  | int64 => .int64
  | float64 => .float64
  | utf8 => .utf8
  | boolean => .boolean
  | timestamp => .timestampMicros
  | binary => .binary

/-- A named place in a schema. -/
structure Field where
  name : String
  type : FieldType
  nullable : Bool
deriving DecidableEq, Repr

/-- A value in a batch. -/
inductive BatchCell where
  | int64 (i : Int64)
  | float64 (x : Binary64)
  | utf8 (s : String)
  | boolean (b : Bool)
  | timestampMicros (micros : Int64)
  | binary (bytes : List UInt8)
deriving DecidableEq, Repr

def BatchCell.type : BatchCell → FieldType
  | int64 _ => .int64
  | float64 _ => .float64
  | utf8 _ => .utf8
  | boolean _ => .boolean
  | timestampMicros _ => .timestampMicros
  | binary _ => .binary

/-- A column of a batch. -/
structure BatchColumn where
  type : FieldType
  cells : List (Option BatchCell)
deriving DecidableEq, Repr

namespace BatchColumn

/-- The column agrees with its field and is as long as the batch. -/
def fits (rowCount : Nat) (field : Field) (c : BatchColumn) : Bool :=
  c.type = field.type && c.cells.length = rowCount && (field.nullable || c.cells.all Option.isSome)
    && c.cells.all fun cell => cell.all fun v => v.type = c.type

end BatchColumn

/-- Columns under a schema. -/
structure RecordBatch where
  fields : List Field
  columns : List BatchColumn
  rowCount : Nat
deriving DecidableEq, Repr

namespace RecordBatch

/-- The batch of these columns, if they agree with the schema. -/
def of? (fields : List Field) (columns : List BatchColumn) (rowCount : Nat) :
    Except Error RecordBatch :=
  if fields.length ≠ columns.length then
    .error (.misfit (.fieldCount columns.length fields.length))
  else
    match (fields.zip columns).findIdx? fun p => !p.2.fits rowCount p.1 with
    | some index => .error (.misfit (.batchColumn index))
    | none => .ok ⟨fields, columns, rowCount⟩

end RecordBatch

/-- A value in a batch; null has none. -/
def Value.batchCell? : Value → Option BatchCell
  | null => none
  | int i => some (.int64 i)
  | float x => some (.float64 x)
  | text s => some (.utf8 s)
  | bool b => some (.boolean b)
  | timestamp t => some (.timestampMicros t.unixMicros)
  | blob bytes => some (.binary bytes)

/-- A column leaves with its cells in order. -/
def Column.toBatch (c : Column) : BatchColumn :=
  ⟨c.type.fieldType, c.values.toList.map Value.batchCell?⟩

/-- Every field of a table's schema may be null. -/
def Column.field (c : Column) : Field := ⟨c.name, c.type.fieldType, true⟩

/-- The batch of a table. -/
def Table.toRecordBatch (t : Table) : Except Error RecordBatch :=
  RecordBatch.of? (t.columns.map Column.field) (t.columns.map Column.toBatch) t.rowCount

end SqlClient
