import SqlClient.Embedded.Affinity
import SqlClient.Embedded.Complaint
import SqlClient.Embedded.Keyword
import SqlClient.Embedded.Statement

namespace SqlClient.Embedded

/-!
# Databases

A database is a list of tables, each with its columns and its rows in the order they were
inserted.

* `Relation`, `Index`, `Database` — tables, their indexes, and databases.
* `ForeignKey` — what columns refer to.
* `Expr.eval`, `holds` — expressions over a row.
* `Pass` — work on rows one after the other, which may have to stop.
* `Relation.insert`, `update`, `delete` — changes to the rows of a table.
-/

/-- A table of the database. -/
structure Relation where
  name : String
  columns : List ColumnDef
  rows : List (List Datum)
deriving DecidableEq, Repr

/-- An index: its name, its table, and the place of its column. -/
structure Index where
  name : String
  table : String
  column : Nat
deriving DecidableEq, Repr

/-- A foreign key: the column of one table that refers to another. -/
structure ForeignKey where
  child : String
  column : Nat
  parent : String
deriving DecidableEq, Repr

/-- The foreign keys of a table, the last one first. -/
def Relation.foreignKeys (r : Relation) : List ForeignKey :=
  (r.columns.zipIdx.flatMap fun p => p.1.references.map (⟨r.name, p.2, ·⟩)).reverse

/-- A database: its tables and its indexes. -/
structure Database where
  relations : List Relation
  indexes : List Index
deriving DecidableEq, Repr

namespace Database

def empty : Database := ⟨[], []⟩

/-- The table of a name. -/
def relation? (db : Database) (name : String) : Option Relation :=
  db.relations.find? (sameName ·.name name)

/-- Put a changed table in the place of the one of its name. -/
def replace (db : Database) (r : Relation) : Database :=
  { db with relations := db.relations.map fun q => if q.name = r.name then r else q }

/-- Add a table without rows. -/
def create (db : Database) (name : String) (columns : List ColumnDef) : Database :=
  { db with relations := db.relations ++ [⟨name, columns, []⟩] }

/-- Drop a table and its indexes. -/
def drop (db : Database) (name : String) : Database where
  relations := db.relations.filter fun r => !sameName r.name name
  indexes := db.indexes.filter fun i => !sameName i.table name

/-- The tables with their columns, and the indexes: all but the rows. -/
def shape (db : Database) : List (String × List ColumnDef) × List Index :=
  (db.relations.map fun r => (r.name, r.columns), db.indexes)

/-- The foreign keys that refer to a table, those of the last table first. -/
def referencesTo (db : Database) (name : String) : List ForeignKey :=
  db.relations.reverse.flatMap fun r => r.foreignKeys.filter (sameName ·.parent name)

def hasIndex (db : Database) (name : String) : Bool := db.indexes.any (sameName ·.name name)

def addIndex (db : Database) (i : Index) : Database :=
  { db with indexes := db.indexes ++ [i] }

end Database

/-! ### Expressions over a row -/

namespace Expr

/-- The magnitude of a number.  The least integer has none; text and blobs count as zero. -/
def magnitude : Datum → Except Complaint Datum
  | .null => .ok .null
  | .integer i =>
    if i.toInt = -2 ^ 63 then .error .integerOverflow
    else .ok (.integer (Int64.ofInt i.toInt.natAbs))
  | .real x => .ok (.real { x with negative := false })
  | _ => .ok (.real Binary64.zero)

/-- A datum made into one of the class that a type prefers. -/
def castTo (type : String) (d : Datum) : Datum :=
  match Affinity.ofDeclared (some type), d with
  | _, .null => .null
  | .text, .blob bytes => .ofTextBytes bytes
  | .text, d => Affinity.toText d
  | .none, .text s => .blob s.toUTF8.toList
  | .none, d => d
  | a, d => a.apply d

/-- The datum of an expression over a row; parameters that are missing are null. -/
def eval (params row : List Datum) : Expr Nat → Except Complaint Datum
  | literal d => .ok d
  | parameter n => .ok ((params[n - 1]?).getD .null)
  | column i => .ok ((row[i]?).getD .null)
  | absolute e => do magnitude (← eval params row e)
  | cast e type => (eval params row e).map (castTo type)

/-- What an expression prefers when it is compared; only columns and casts have a say. -/
def affinity? (columns : List ColumnDef) : Expr Nat → Option Affinity
  | column i => (columns[i]?).map fun c => Affinity.ofDeclared c.declared
  | cast _ type => some (Affinity.ofDeclared (some type))
  | _ => none

end Expr

/-- Two data as they are compared.  Where both sides have a say, numbers win and texts have
    none; where one has, it is followed. -/
def comparable (a b : Option Affinity) (left right : Datum) : Datum × Datum :=
  let numbers := (Affinity.toNumber left, Affinity.toNumber right)
  let asPreferred (c : Affinity) : Datum × Datum :=
    if c.isNumber then numbers
    else if c = .text then (Affinity.toText left, Affinity.toText right)
    else (left, right)
  match a, b with
  | some a, some b => if a.isNumber || b.isNumber then numbers else (left, right)
  | some a, none => asPreferred a
  | none, some b => asPreferred b
  | none, none => (left, right)

/-- Two data are equal as they are compared.  Null equals nothing. -/
def equalUnder (a b : Option Affinity) (left right : Datum) : Bool :=
  let (left, right) := comparable a b left right
  left ≠ .null && right ≠ .null && left.order right = .eq

/-- A row passes a filter. -/
def holds (columns : List ColumnDef) (params : List Datum) (filter : Filter Nat)
    (row : List Datum) : Except Complaint Bool :=
  match filter with
  | none => .ok true
  | some (l, r) => do
    let left ← l.eval params row
    let right ← r.eval params row
    .ok (equalUnder (l.affinity? columns) (r.affinity? columns) left right)

/-! ### Work on rows -/

/-- Work on rows one after the other: the rows that come of it, how many were changed, and
    what it had to stop at. -/
structure Pass where
  rows : List (List Datum)
  changed : Nat
  fault : Option Complaint
deriving DecidableEq, Repr

/-- Take things one by one, up to the first at fault.  A step gives rows, and how many of
    them it changed. -/
def Pass.along {α : Type} (step : α → Except Complaint (List (List Datum) × Nat)) :
    List α → Pass
  | [] => ⟨[], 0, none⟩
  | a :: rest =>
    match step a with
    | .error c => ⟨[], 0, some c⟩
    | .ok (rows, n) =>
      let pass := along step rest
      ⟨rows ++ pass.rows, n + pass.changed, pass.fault⟩

/-! ### Changes to a table -/

namespace Relation

/-- The place of the column of a name. -/
def columnIndex? (r : Relation) (name : String) : Option Nat :=
  r.columns.findIdx? (sameName ·.name name)

/-- A datum as a column stores it. -/
def storedIn (r : Relation) (c : ColumnDef) (d : Datum) : Except Complaint Datum :=
  if c.notNull && d = .null then .error (.notNull r.name c.name)
  else .ok ((Affinity.ofDeclared c.declared).apply d)

/-- A row as it is stored. -/
def stored (r : Relation) (row : List Datum) : Except Complaint (List Datum) :=
  (r.columns.zip row).mapM fun p => r.storedIn p.1 p.2

/-- Insert rows at the end. -/
def insert (r : Relation) (params : List Datum) (rows : List (List (Expr Nat))) : Pass :=
  let new := Pass.along (fun row => do
    .ok ([← r.stored (← row.mapM (Expr.eval params []))], 1)) rows
  { new with rows := r.rows ++ new.rows }

/-- A row with some columns changed, all new data being worked out from the old row. -/
def changed (r : Relation) (params : List Datum) (changes : List (Nat × Expr Nat))
    (row : List Datum) : Except Complaint (List Datum) := do
  let data ← changes.mapM fun c => do
    let d ← c.2.eval params row
    .ok (c.1, d)
  r.stored (data.foldl (fun row c => row.set c.1 c.2) row)

/-- Change the rows that pass a filter. -/
def update (r : Relation) (params : List Datum) (changes : List (Nat × Expr Nat))
    (filter : Filter Nat) : Pass :=
  Pass.along (fun row => do
    if ← holds r.columns params filter row then .ok ([← r.changed params changes row], 1)
    else .ok ([row], 0)) r.rows

/-- Delete the rows that pass a filter. -/
def delete (r : Relation) (params : List Datum) (filter : Filter Nat) : Pass :=
  Pass.along (fun row => do
    if ← holds r.columns params filter row then .ok ([], 1) else .ok ([row], 0)) r.rows

end Relation

end SqlClient.Embedded
