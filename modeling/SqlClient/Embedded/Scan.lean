import SqlClient.Embedded.Database

namespace SqlClient.Embedded

/-!
# Scans

A selection that needs a single column of a table may read it off an index, in the order of
that column.  It does so when the index looks narrower than the table.

* `ColumnDef.sizeEstimate`, `logEstimate` — how wide things look.
* `coveringScan?` — the column by whose index a selection reads its table.
* `scanRows` — the rows in the order of the scan.
-/

/-! ### Widths -/

/-- What follows the last occurrence of a word in a text. -/
def afterLast? (word : List Char) : List Char → Option (List Char)
  | [] => none
  | c :: rest =>
    match afterLast? word rest with
    | some tail => some tail
    | none => if word.isPrefixOf (c :: rest) then some ((c :: rest).drop word.length) else none

/-- What follows the first occurrence of a word in a text. -/
def afterFirst? (word : List Char) : List Char → Option (List Char)
  | [] => none
  | c :: rest =>
    if word.isPrefixOf (c :: rest) then some ((c :: rest).drop word.length)
    else afterFirst? word rest

/-- The part of a declared type that tells a size: what follows the last `char`, or a bracket
    right after the first `blob`. -/
def sizePart? (declared : String) : Option (List Char) :=
  let lower := declared.toList.map Char.toLower
  match afterLast? "char".toList lower with
  | some tail => some tail
  | none => (afterFirst? "blob".toList lower).filter fun tail => tail.head? = some '('

/-- The first number of a text; zero if there is none, or none of 31 bits. -/
def firstNumber (cs : List Char) : Nat :=
  let digits := (cs.dropWhile fun c => !c.isDigit).takeWhile Char.isDigit
  let n := Text.digitsValue digits
  if n < 2 ^ 31 then n else 0

/-- How much room a column seems to take; a number takes one. -/
def ColumnDef.sizeEstimate (c : ColumnDef) : Nat :=
  match c.declared with
  | none => 1
  | some d =>
    if (Affinity.ofDeclared c.declared).isNumber then 1
    else min 255 (((sizePart? d).map firstNumber).getD 16 / 4 + 1)

/-- What an eighth part of a doubling adds to ten times the binary logarithm. -/
def eighths : List Nat := [0, 2, 3, 5, 6, 7, 8, 9]

/-- Ten times the binary logarithm, roughly, of a number from eight on. -/
def logEstimate (x : Nat) : Nat :=
  let shift := Nat.log2 x - 3
  30 + 10 * shift + eighths.getD (x / 2 ^ shift % 8) 0

/-- An index on the column looks narrower than the table.  Both hold row numbers too. -/
def looksNarrower (r : Relation) (c : ColumnDef) : Bool :=
  logEstimate (4 * (c.sizeEstimate + 1)) <
    logEstimate (4 * (r.columns.foldr (fun d size => d.sizeEstimate + size) 0 + 1))

/-! ### The choice -/

/-- The filter asks for the rows with one value of the column. -/
def looksUp (column : Nat) : Filter Nat → Bool
  | none => false
  | some (l, r) => l = .column column && r.refs.isEmpty || r = .column column && l.refs.isEmpty

/-- The column by whose index all rows are read: the only one that is read, unless the index
    serves to find the rows with one value. -/
def coveringScan? (db : Database) (r : Relation) (columnsRead : List Nat) (filter : Filter Nat) :
    Option Nat := do
  let i ← columnsRead.head?
  let c ← r.columns[i]?
  if columnsRead.all (· = i) && db.indexes.any (fun x => x.table = r.name && x.column = i)
      && looksNarrower r c && !looksUp i filter then some i
  else none

/-- Rows in the order of a scan; equal ones stay as they were inserted. -/
def scanRows (scan : Option Nat) (rows : List (List Datum)) : List (List Datum) :=
  match scan with
  | none => rows
  | some i =>
    let key (row : List Datum) : Datum := (row[i]?).getD .null
    rows.mergeSort fun a b => (key a).order (key b) ≠ .gt

end SqlClient.Embedded
