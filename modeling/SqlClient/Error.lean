import SqlClient.ColumnType
import SqlClient.Text.Quoted
import SqlClient.Value

namespace SqlClient

/-!
# Errors

Errors are kept as their causes.  Each has a kind, which callers tell errors apart by,
and a message, which starts with the kind.

* `Misfit` — why rows do not make a table, or a table does not export.
* `Error`, `Error.kind` — the causes and their kinds.
* `Error.text`, `Error.message` — the whole message, and the message as messages are compared.
-/

/-- The kinds of error. -/
inductive ErrorKind where
  | engineInit
  | statement
  | closedConnection
  | materialization
  | configuration
  | execution
deriving DecidableEq, Repr

/-- Why rows do not make a table, or a table cannot be exported. -/
inductive Misfit where
  /-- a value that does not convert to its column's type -/
  | value (column : String) (row : Nat) (kind : ValueKind) (type : ColumnType)
  /-- a value of another kind than those above it, in a column without a type -/
  | mixture (column : String) (row : Nat) (kind : ValueKind) (type : ColumnType)
  /-- a column longer or shorter than the first -/
  | length (column : String) (rows expected : Nat)
  /-- a batch with more or fewer fields than columns -/
  | fieldCount (columns fields : Nat)
  /-- a batch column whose cells are not of its field's type, or too many or too few -/
  | batchColumn (index : Nat)
  /-- a timestamp with no date that is kept -/
  | outOfCalendar (row column : Nat) (micros : Int64)
deriving DecidableEq, Repr

/-- Why an operation failed. -/
inductive Error where
  /-- an error as an engine words it -/
  | reported (kind : ErrorKind) (detail : String)
  | closed
  | misfit (m : Misfit)
  | rowWidth (values columns : Nat)
  | blankPath
  | readOnlyInMemory
  /-- the engine broke down while it opened a handle, in the task of this number -/
  | openBroke (task : Nat) (detail : String)
  /-- the engine broke down while it ran a statement, in the task of this number -/
  | statementBroke (task : Nat) (detail : String)
deriving DecidableEq, Repr

namespace Misfit

/-- What went wrong, before the kind of error is put in front. -/
def detail : Misfit → String
  | value column row kind type =>
    s!"column {column} row {row}: {kind.name} value does not fit column type {type.name}"
  | mixture column row kind type =>
    s!"column {column} row {row}: {kind.name} value in a column of {type.name} values"
  | length column rows expected => s!"column {column} has {rows} rows, expected {expected}"
  | fieldCount columns fields =>
    s!"Arrow conversion failed: Invalid argument error: number of columns({columns}) must match number of fields({fields}) in schema"
  | batchColumn index =>
    s!"Arrow conversion failed: Invalid argument error: column {index} does not match the schema"
  | outOfCalendar row column micros =>
    s!"Arrow conversion failed: Csv error: Error processing row {row}, col {column}: Cast error: Failed to convert {micros.toInt} to datetime for Timestamp(Microsecond, None)"

end Misfit

namespace Error

/-- What a task on the worker pool says of itself when it breaks down. -/
def brokenTask (task detail : String) : String :=
  "task " ++ task ++ " panicked with message " ++ Text.quoted detail

def kind : Error → ErrorKind
  | reported kind _ => kind
  | closed => .closedConnection
  | misfit _ => .materialization
  | rowWidth _ _ => .execution
  | blankPath => .configuration
  | readOnlyInMemory => .configuration
  | openBroke _ _ => .engineInit
  | statementBroke _ _ => .execution

/-- What went wrong, before the kind of error is put in front.  `written` writes the number of
    a task. -/
def detail (written : Nat → String) : Error → String
  | reported _ detail => detail
  | closed => ""
  | misfit m => m.detail
  | rowWidth values columns => s!"row has {values} values but the result set has {columns} columns"
  | blankPath => "db_path must not be empty; leave it unset for an in-memory database"
  | readOnlyInMemory => "an in-memory database cannot be opened read-only"
  | openBroke task detail =>
    "engine open task failed to complete: " ++ brokenTask (written task) detail
  | statementBroke task detail =>
    "engine spawn_blocking join error: " ++ brokenTask (written task) detail

/-- The kind of an error and what went wrong.  A closed connection has nothing to add to its
    kind. -/
def worded (written : Nat → String) (e : Error) : String :=
  match e.kind with
  | .engineInit => "Engine initialization error: " ++ e.detail written
  | .statement => "Statement error: " ++ e.detail written
  | .closedConnection => "Connection closed"
  | .materialization => "Materialization error: " ++ e.detail written
  | .configuration => "Configuration error: " ++ e.detail written
  | .execution => "SQL execution error: " ++ e.detail written

/-- The whole message, as its user reads it. -/
def text (e : Error) : String := e.worded toString

/-- The message with a letter for the number of a task: the pool counts the tasks of the whole
    process, so messages of different runs are compared without the number. -/
def message (e : Error) : String := e.worded fun _ => "N"

end Error

end SqlClient
