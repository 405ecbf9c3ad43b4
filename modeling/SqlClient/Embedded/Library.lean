import SqlClient.Embedded.Blank
import SqlClient.Embedded.Complaint
import SqlClient.Embedded.Datum
import SqlClient.Engine

namespace SqlClient.Embedded

/-!
# Handles on a database library

A handle of the embedded engine owns a connection of a database library.  Nothing is known of
the library but its calls; what statements return is collected, and what they change is told
from the two counters of the connection.

* `Library` — the calls of a library.
* `Library.submit`, `Library.submitBatch` — the calls of a handle.
-/

/-- A database library, with its connections and its prepared statements.  A call that fails
    gives a message. -/
structure Library (Conn Stmt : Type) where
  /-- prepare the only statement of a text -/
  prepare : Conn → String → Conn × Except String Stmt
  /-- how what a statement returns is told; a statement without columns returns no rows -/
  columns : Stmt → List ColumnMeta
  /-- run a statement without columns; gives what `changes` is afterwards -/
  execute : Conn → Stmt → List Value → Conn × Except String Nat
  /-- run a statement with columns; gives its rows, and a message may stand for one of them -/
  query : Conn → Stmt → List Value → Conn × Except String (List (Except String (List Datum)))
  /-- run the statements of a text, up to the first that fails -/
  batch : Conn → String → Conn × Except String Unit
  /-- how many rows the last completed statement that changes rows has changed -/
  changes : Conn → Nat
  /-- how many rows were changed since the connection was opened -/
  totalChanges : Conn → Nat

/-! ### Rows -/

/-- As many values of a row as there are columns. -/
def rowValues (columns : Nat) (row : List Datum) : Except Complaint (List Value) :=
  (List.range columns).mapM fun i =>
    match row[i]? with
    | some d => d.toValue.mapError fun fault => .notText fault i
    | none => .error (.noColumn i)

/-- The values of a row that a library gives, if it can be had. -/
def readRow (columns : Nat) (row : Except String (List Datum)) : Except String (List Value) := do
  (rowValues columns (← row)).mapError Complaint.text

/-- A statement that fails, with the message of the library. -/
def statementError (message : String) : Error := .reported .statement message

/-- All rows of a query, up to the first that cannot be had.  There is room for ten to begin
    with. -/
def collectRows (columns : List ColumnMeta) (rows : List (Except String (List Datum))) :
    Outcome ResultSet :=
  match rows.mapM (readRow columns.length) with
  | .error message => .failed (statementError message)
  | .ok rows =>
    match (ResultSet.withCapacity columns 10).addAll rows with
    | .ok r => .done r
    | .error e => .failed e

namespace Library

variable {Conn Stmt : Type}

/-- Run a prepared statement.  The counter of changes is left alone by statements that change
    no rows, so it is only told where the total has moved. -/
def run (lib : Library Conn Stmt) (c : Conn) (s : Stmt) (params : List Value) :
    Conn × Outcome ResultSet :=
  if lib.columns s = [] then
    match lib.execute c s params with
    | (after, .error message) => (after, .failed (statementError message))
    | (after, .ok changed) =>
      let affected := if lib.totalChanges after = lib.totalChanges c then 0 else changed
      (after, .done (.affected affected))
  else
    match lib.query c s params with
    | (after, .error message) => (after, .failed (statementError message))
    | (after, .ok rows) => (after, collectRows (lib.columns s) rows)

/-- Run the only statement of a text.  A blank text does not get to the library. -/
def submit (lib : Library Conn Stmt) (c : Conn) (sql : String) (params : List Value) :
    Conn × Outcome ResultSet :=
  if isBlankStatement sql then (c, .done (.affected 0))
  else
    match lib.prepare c sql with
    | (after, .error message) => (after, .failed (statementError message))
    | (after, .ok s) => lib.run after s params

/-- Run the statements of a text, whatever they return. -/
def submitBatch (lib : Library Conn Stmt) (c : Conn) (sql : String) : Conn × Outcome Unit :=
  match lib.batch c sql with
  | (after, .error message) => (after, .failed (statementError message))
  | (after, .ok ()) => (after, .done ())

end Library

end SqlClient.Embedded
