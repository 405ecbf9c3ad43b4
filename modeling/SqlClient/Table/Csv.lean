import SqlClient.Binary64.Decimal
import SqlClient.Table.RecordBatch

namespace SqlClient

/-!
# Comma-separated values

A batch as lines of fields: the names, then the rows.  A field with a comma, a quote or a
line end in it stands in quotes, the quotes inside doubled.

* `Csv.quote`, `Csv.record` — a field and a line.
* `Csv.cellText` — the text of a cell; a timestamp is one of whole microseconds.
* `Table.toCsv` — the lines of a table.
-/

namespace Csv

/-- Doubles as in JSON, but no sign before an exponent that is not negative. -/
def numberStyle : NumberStyle where
  wholeEnd := ".0"
  positional := some (-5, 16)
  exponentPlus := false
  tie := .even

/-- A character that makes a field need quotes. -/
def isSpecial (c : Char) : Bool := c = ',' || c = '"' || c = '\n' || c = '\r'

/-- A field, in quotes if it needs them. -/
def quote (field : List Char) : List Char :=
  if field.any isSpecial then
    '"' :: (field.flatMap fun c => if c = '"' then ['"', '"'] else [c]) ++ ['"']
  else field

/-- Fields with commas between them. -/
def joined (fields : List (List Char)) : List Char :=
  match fields with
  | [] => []
  | [field] => quote field
  | field :: rest => quote field ++ ',' :: joined rest

/-- A line of fields.  One without a character in it is written as two quotes, so that no
    line is empty. -/
def record (fields : List (List Char)) : List Char :=
  let text := joined fields
  (if text = [] then ['"', '"'] else text) ++ ['\n']

/-- The text of a cell, null being empty; a timestamp past the calendar has none. -/
def cellText (row column : Nat) : Option BatchCell → Except Error (List Char)
  | none => .ok []
  | some (.int64 i) => .ok (toString i.toInt).toList
  | some (.float64 x) => .ok (numberStyle.text x).toList
  | some (.utf8 s) => .ok s.toList
  | some (.boolean b) => .ok (toString b).toList
  | some (.timestampMicros micros) =>
    match Timestamp.ofUnixMicros? micros with
    | some t => .ok t.write.toList
    | none => .error (.misfit (.outOfCalendar (row + 1) (column + 1) micros))
  | some (.binary bytes) => .ok (Text.hex bytes)

/-- The cell texts of a row of a batch. -/
def rowTexts (b : RecordBatch) (row : Nat) : Except Error (List (List Char)) :=
  b.columns.zipIdx.mapM fun p => cellText row p.2 ((p.1.cells[row]?).getD none)

/-- The lines of a batch. -/
def records (b : RecordBatch) : Except Error (List (List Char)) := do
  let rows ← (List.range b.rowCount).mapM (rowTexts b)
  .ok (record (b.fields.map fun f => f.name.toList) :: rows.map record)

end Csv

/-- The table as comma-separated values. -/
def Table.toCsv (t : Table) : Except Error String := do
  let batch ← t.toRecordBatch
  let records ← Csv.records batch
  .ok (String.ofList records.flatten)

end SqlClient
