import SqlClient.Table.Csv
import SqlClient.Table.Grid
import SqlClient.Table.Materialize
import SqlClient.Table.Records

namespace SqlClient

/-!
# Result sets shown and exported

A result set is made into a table only when one is asked for, so every export may fail as
`materialize` does.

* `ResultSet.recordBatch`, `json`, `ndjson`, `csv`, `showAll`, `showFirst` — the exports.
* `ResultSet.display` — a text in any case.
-/

namespace ResultSet

def recordBatch (r : ResultSet) : Except Error RecordBatch := do (← materialize r).toRecordBatch

def json (r : ResultSet) : Except Error Json := (materialize r).map Table.toRecords

def ndjson (r : ResultSet) : Except Error String := (materialize r).map Table.toNdjson

def csv (r : ResultSet) : Except Error String := do (← materialize r).toCsv

/-- The grid of all rows. -/
def showAll (r : ResultSet) : Except Error String := (materialize r).map (·.toText none)

/-- The grid of the first rows. -/
def showFirst (r : ResultSet) (limit : Nat) : Except Error String :=
  (materialize r).map (·.toText (some limit))

/-- The count of a statement without columns, the grid of one with them, or what keeps the
    rows from making a table. -/
def display (r : ResultSet) : String :=
  if r.columns = [] then s!"({r.rowsAffected} rows affected)"
  else
    match r.showAll with
    | .ok grid => grid
    | .error e => "<" ++ e.message ++ ">"

end ResultSet

end SqlClient
