import SqlClient.Embedded.Database
import SqlClient.Embedded.Reader
import SqlClient.Embedded.Scan
import SqlClient.ResultSet

namespace SqlClient.Embedded

/-!
# Plans

A statement is prepared against a database: its tables and columns are looked up once, and
what is wrong with them is found before anything is run.

* `Plan` — a prepared statement; `Plan.ofStatement` — preparing one.
* `Prepared.first` — preparing the first statement of a text.
* `Plan.work` — what a plan makes of a database.
* `queryRows` — the rows of a query, one after the other.
-/

/-- Something selected: how it is told, the name given to it, and where it comes from. -/
structure Output where
  column : ColumnMeta
  given : Option String
  expr : Expr Nat

/-- A selection with its references looked up. -/
structure SelectionPlan where
  relation : Option Relation
  filter : Filter Nat
  outputs : List Output
  /-- the column by whose index the rows are read, if they are -/
  scan : Option Nat

/-- What the rows of a query are sorted by. -/
inductive SortKey where
  /-- a selected datum -/
  | output (index : Nat)
  /-- a column of the table, selected or not -/
  | column (index : Nat)
deriving DecidableEq, Repr

/-- A statement with its references looked up. -/
inductive Plan where
  | query (columns : List ColumnMeta) (parts : List SelectionPlan) (sort : Option SortKey)
  | insert (relation : Relation) (rows : List (List (Expr Nat)))
  | update (relation : Relation) (changes : List (Nat × Expr Nat)) (filter : Filter Nat)
  | delete (relation : Relation) (filter : Filter Nat)
  | createTable (name : String) (columns : List ColumnDef)
  /-- `referenced` tells whether foreign keys refer to the table -/
  | dropTable (relation : Relation) (referenced : Bool)
  | createIndex (index : Index)
  | begin
  | commit
  | rollback

/-- How what a plan selects is told; nothing but a query selects. -/
def Plan.columns : Plan → List ColumnMeta
  | .query columns _ _ => columns
  | _ => []

/-! ### Looking references up -/

/-- The table of a name. -/
def findRelation (db : Database) (name : String) : Except Located Relation :=
  match db.relation? name with
  | some r => .ok r
  | none => .error (Complaint.noSuchTable name).anywhere

/-- The names in sight: the columns of a table, and the names given to what is selected. -/
structure Scope where
  relation : Option Relation
  given : List (String × Expr Nat)

namespace Scope

/-- No names but columns. -/
def ofColumns (r : Relation) : Scope := ⟨some r, []⟩

/-- No names at all. -/
def nothing : Scope := ⟨none, []⟩

/-- What a name stands for that is neither a column nor given: the truth values, and what is
    in double quotes. -/
def constant? (r : NameRef) : Option Datum :=
  match r.quoting with
  | .double => some (.text r.name)
  | .strict => none
  | .bare =>
    if sameName r.name "true" then some (.integer 1)
    else if sameName r.name "false" then some (.integer 0)
    else none

/-- What a name stands for: a column before anything else.  The functions that there are
    have been told from the others before. -/
def resolve (s : Scope) (r : NameRef) : Except Located (Expr Nat) :=
  if r.called then .error ((Complaint.noSuchFunction r.name).located r.offset)
  else
    match s.relation.bind (·.columnIndex? r.name) with
    | some i => .ok (.column i)
    | none =>
      match s.given.find? (sameName ·.1 r.name), constant? r with
      | some p, _ => .ok p.2
      | none, some d => .ok (.literal d)
      | none, none => .error ((Complaint.noSuchColumn r.name).located r.offset)

end Scope

def resolveFilter (s : Scope) : Filter NameRef → Except Located (Filter Nat)
  | none => .ok none
  | some (l, r) => do
    let l ← l.bindRefs s.resolve
    let r ← r.bindRefs s.resolve
    .ok (some (l, r))

/-! ### Selections -/

/-- The table of a selection; without one there is no way to select every column. -/
def sourceOf (db : Database) (s : Selection) : Except Located (Option Relation) := do
  match s.source with
  | some name => (findRelation db name).map some
  | none =>
    if s.items.any (· = .every) then .error Complaint.noTables.anywhere else .ok none

/-- The outputs of an item. -/
def resolveItem (relation : Option Relation) : Item → Except Located (List Output)
  | .every =>
    .ok (((relation.map (·.columns)).getD []).zipIdx.map fun p =>
      ⟨⟨p.1.name, p.1.declared⟩, none, .column p.2⟩)
  | .one e name source => do
    let e ← e.bindRefs (Scope.resolve ⟨relation, []⟩)
    let column : Option ColumnDef := match e with
      | .column i => relation.bind (·.columns[i]?)
      | _ => none
    let told := name.getD ((column.map (·.name)).getD source)
    .ok [⟨⟨told, column.bind (·.declared)⟩, name, e⟩]

/-- The names given to outputs. -/
def givenNames (outputs : List Output) : List (String × Expr Nat) :=
  outputs.filterMap fun o => o.given.map fun name => (name, o.expr)

/-- Look up the references of a selection from a table. -/
def resolveSelection (relation : Option Relation) (s : Selection) :
    Except Located SelectionPlan := do
  let outputs := (← s.items.mapM (resolveItem relation)).flatten
  let filter ← resolveFilter ⟨relation, givenNames outputs⟩ s.filter
  .ok ⟨relation, filter, outputs, none⟩

/-- Look up the references of selections with their tables, the last one first.  One selects
    as much as the next. -/
def resolveParts : List (Option Relation × Selection) → Except Located (List SelectionPlan)
  | [] => .ok []
  | (relation, s) :: rest => do
    let parts ← resolveParts rest
    let part ← resolveSelection relation s
    if parts.head?.any fun next => next.outputs.length ≠ part.outputs.length then
      .error Complaint.unevenUnion.anywhere
    else .ok (part :: parts)

/-- The output to which a name was given. -/
def givenIndex? (outputs : List Output) (name : String) : Option Nat :=
  outputs.findIdx? fun o => o.given.any (sameName · name)

/-- The output that a name stands for in one of several selections: the name was given to
    it, or it is the column of that name. -/
def outputIndex? (name : String) (part : SelectionPlan) : Option Nat :=
  match givenIndex? part.outputs name with
  | some i => some i
  | none => do
    let column ← part.relation.bind (·.columnIndex? name)
    part.outputs.findIdx? fun o => o.expr = .column column

/-- What a single selection is sorted by: an output of the name, or else what the name stands
    for.  A constant sorts nothing. -/
def resolveName (part : SelectionPlan) (r : NameRef) : Except Located (Option SortKey) :=
  match givenIndex? part.outputs r.name with
  | some i => .ok (some (.output i))
  | none => do
    match ← (Scope.mk part.relation []).resolve r with
    | .column i => .ok (some (.column i))
    | _ => .ok none

/-- What the rows of selections are sorted by. -/
def resolveOrder (parts : List SelectionPlan) : OrderTerm → Except Located (Option SortKey)
  | .place number offset =>
    let width := (parts.head?.map (·.outputs.length)).getD 0
    if 1 ≤ number ∧ number ≤ width then .ok (some (.output (number - 1)))
    else .error ((Complaint.orderRange width).located offset)
  | .named r =>
    match parts with
    | [part] => resolveName part r
    | parts =>
      match parts.findSome? (outputIndex? r.name) with
      | some i => .ok (some (.output i))
      | none => .error Complaint.unmatchedOrder.anywhere

/-- The columns that a selection has to read, those of its rows' order among them. -/
def SelectionPlan.columnsRead (p : SelectionPlan) (sort : Option SortKey) : List Nat :=
  let filtered := match p.filter with
    | none => []
    | some (l, r) => l.refs ++ r.refs
  let sorted := match sort with
    | some (.column i) => [i]
    | _ => []
  p.outputs.flatMap (·.expr.refs) ++ filtered ++ sorted

/-- Choose how a selection reads its table. -/
def SelectionPlan.withScan (db : Database) (sort : Option SortKey) (p : SelectionPlan) :
    SelectionPlan :=
  { p with scan := p.relation.bind fun r => coveringScan? db r (p.columnsRead sort) p.filter }

/-- Prepare a selection of rows. -/
def resolveQuery (db : Database) (selections : List Selection) (order : Option OrderTerm) :
    Except Located Plan := do
  let sources ← selections.reverse.mapM (sourceOf db)
  let parts ← resolveParts (sources.reverse.zip selections)
  let sort ← match order with
    | none => .ok none
    | some term => resolveOrder parts term
  let columns := (parts.head?.map fun p => p.outputs.map (·.column)).getD []
  .ok (.query columns (parts.map (·.withScan db sort)) sort)

/-! ### Foreign keys -/

/-- Why a foreign key cannot be followed: the table it refers to is missing, or else has no
    key, as tables have none. -/
def ForeignKey.fault (db : Database) (k : ForeignKey) : Complaint :=
  match db.relation? k.parent with
  | none => .noSuchTable ("main." ++ k.parent)
  | some _ => .foreignKeyMismatch k.child k.parent

/-- Foreign keys that have to be followed; the first of them is at fault. -/
def checkKeys (db : Database) (keys : List ForeignKey) : Except Located Unit :=
  match keys with
  | [] => .ok ()
  | k :: _ => .error (k.fault db).anywhere

/-- An insertion follows the keys of its table.  Only one of several rows looks for rows that
    refer to it. -/
def keysOfInsert (db : Database) (r : Relation) (rows : List (List (Expr Nat))) :
    List ForeignKey :=
  r.foreignKeys ++ if 1 < rows.length then db.referencesTo r.name else []

/-- A change of a column with a key follows it, and keys of the table to itself. -/
def keysOfUpdate (r : Relation) (changes : List (Nat × Expr Nat)) : List ForeignKey :=
  let isChanged (k : ForeignKey) : Bool := changes.any (·.1 = k.column)
  if r.foreignKeys.any isChanged then
    r.foreignKeys.filter fun k => isChanged k || sameName k.parent r.name
  else []

/-- A deletion follows the keys of its table, and those to it. -/
def keysOfDelete (db : Database) (r : Relation) : List ForeignKey :=
  r.foreignKeys ++ db.referencesTo r.name

/-! ### Changes -/

/-- Prepare the rows of an insertion. -/
def resolveInsert (db : Database) (table : String) (rows : List (List (Expr NameRef))) :
    Except Located Plan := do
  let relation ← findRelation db table
  let width := (rows.head?.map List.length).getD 0
  if rows.any fun row => row.length ≠ width then .error Complaint.unevenValues.anywhere
  else
    let rows ← rows.mapM fun row => row.mapM (Expr.bindRefs Scope.nothing.resolve)
    if width ≠ relation.columns.length then
      .error (Complaint.valueCount table relation.columns.length width).anywhere
    else do
      checkKeys db (keysOfInsert db relation rows)
      .ok (.insert relation rows)

/-- The place of a column that is changed. -/
def findChanged (relation : Relation) (name : String) : Except Located Nat :=
  match relation.columnIndex? name with
  | some i => .ok i
  | none => .error (Complaint.noSuchColumn name).anywhere

/-- Names that begin like this are kept for the database itself. -/
def isKept (name : String) : Bool := "sqlite_".toList.isPrefixOf name.toLower.toList

/-- Prepare an index on a column. -/
def resolveIndex (db : Database) (name table : String) (column : NameRef) :
    Except Located Plan :=
  match db.relation? table with
  | none => .error (Complaint.noSuchTable ("main." ++ table)).anywhere
  | some r =>
    if isKept name then .error (Complaint.reservedName name).anywhere
    else if (db.relation? name).isSome then .error (Complaint.tableNamed name).anywhere
    else if db.hasIndex name then .error (Complaint.indexExists name).anywhere
    else
      match r.columnIndex? column.name with
      | some i => .ok (.createIndex ⟨name, r.name, i⟩)
      | none => .error ((Complaint.noSuchColumn column.name).located column.offset)

/-- Why a table cannot be created under its name. -/
def newTableFault? (db : Database) (t : NewTable) : Option Located :=
  if isKept t.name then some (Complaint.reservedName t.name).anywhere
  else if (db.relation? t.name).isSome then
    some ((Complaint.tableExists t.source).located t.offset)
  else if db.hasIndex t.name then some (Complaint.indexNamed t.name).anywhere
  else none

/-- Prepare a statement. -/
def Plan.ofStatement (db : Database) : Statement → Except Located Plan
  | .createTable name columns => .ok (.createTable name columns)
  | .dropTable name =>
    (findRelation db name).map fun r => .dropTable r !(db.referencesTo r.name).isEmpty
  | .createIndex name table column => resolveIndex db name table column
  | .insert table rows => resolveInsert db table rows
  | .update table changes filter => do
    let relation ← findRelation db table
    let scope := Scope.ofColumns relation
    let changes ← changes.mapM fun c => do
      let e ← c.2.bindRefs scope.resolve
      let i ← findChanged relation c.1
      .ok (i, e)
    let filter ← resolveFilter scope filter
    checkKeys db (keysOfUpdate relation changes)
    .ok (.update relation changes filter)
  | .delete table filter => do
    let relation ← findRelation db table
    let filter ← resolveFilter (Scope.ofColumns relation) filter
    checkKeys db (keysOfDelete db relation)
    .ok (.delete relation filter)
  | .select first others order => resolveQuery db (first :: others) order
  | .begin => .ok .begin
  | .commit => .ok .commit
  | .rollback => .ok .rollback

/-! ### Statement texts -/

/-- A statement that was prepared: what it says, how many parameters it needs, and how what
    it selects is told. -/
structure Prepared where
  statement : Statement
  newTable : Option NewTable
  parameters : Nat
  columns : List ColumnMeta

namespace Prepared

/-- The plan of a statement, a table to be created being looked at first. -/
def planOf (db : Database) (newTable : Option NewTable) (s : Statement) : Except Located Plan :=
  match newTable.bind (newTableFault? db) with
  | some l => .error l
  | none => Plan.ofStatement db s

/-- The plan of a prepared statement for a database as it is now. -/
def plan (p : Prepared) (db : Database) : Except Located Plan := planOf db p.newTable p.statement

/-- Prepare the first statement of a text, if it has one; gives the text after it too.  A
    table that cannot be created is complained about before anything behind its name. -/
def first (db : Database) (t : StatementText) : Except Located (Option Prepared × List Char) :=
  match t.newTable.bind (newTableFault? db), t.statement with
  | some l, _ => .error l
  | none, .error l => .error l
  | none, .ok none => .ok (none, [])
  | none, .ok (some r) =>
    (Plan.ofStatement db r.statement).map fun plan =>
      (some ⟨r.statement, t.newTable, r.parameters, plan.columns⟩, r.rest)

end Prepared

/-! ### Queries -/

namespace SelectionPlan

/-- The rows a selection reads: those of its table, or a single one without columns. -/
def sourceRows (p : SelectionPlan) : List (List Datum) :=
  match p.relation with
  | none => [[]]
  | some r => scanRows p.scan r.rows

def sourceColumns (p : SelectionPlan) : List ColumnDef := (p.relation.map (·.columns)).getD []

/-- The data selected from a row, if it passes the filter. -/
def selected (p : SelectionPlan) (params row : List Datum) :
    Except Complaint (Option (List Datum)) := do
  if ← holds p.sourceColumns params p.filter row then
    .ok (some (← p.outputs.mapM (·.expr.eval params row)))
  else .ok none

/-- What comes of a row: nothing, data together with the row, or a complaint. -/
def rowResult? (p : SelectionPlan) (params row : List Datum) :
    Option (Except Complaint (List Datum × List Datum)) :=
  match p.selected params row with
  | .ok none => none
  | .ok (some data) => some (.ok (row, data))
  | .error c => some (.error c)

end SelectionPlan

/-- The datum a row is sorted by. -/
def SortKey.datum (k : SortKey) (p : List Datum × List Datum) : Datum :=
  match k with
  | output i => (p.2[i]?).getD .null
  | column i => (p.1[i]?).getD .null

/-- The rows of a query one after the other; a complaint may stand in the place of one.
    A sorted query has to see all rows before the first. -/
def queryRows (params : List Datum) (parts : List SelectionPlan) (sort : Option SortKey) :
    List (Except Complaint (List Datum)) :=
  let found := parts.flatMap fun p => p.sourceRows.filterMap (p.rowResult? params)
  match sort with
  | none => found.map fun r => r.map (·.2)
  | some k =>
    match found.mapM id with
    | .error c => [.error c]
    | .ok rows =>
      (rows.mergeSort fun a b => (k.datum a).order (k.datum b) ≠ .gt).map fun r => .ok r.2

/-! ### Changes at work -/

/-- What comes of a change: the database after it, the rows changed if it is about rows,
    whether anything was written on the way, and what it stopped at. -/
structure Work where
  content : Database
  count : Option Nat
  touched : Bool
  reshaped : Bool
  fault : Option Complaint

namespace Work

/-- A change of the rows of a table. -/
def ofPass (db : Database) (r : Relation) (pass : Pass) (touched : Bool) : Work where
  content := db.replace { r with rows := pass.rows }
  count := some pass.changed
  touched := touched || 0 < pass.changed
  reshaped := false
  fault := pass.fault

/-- A change of the tables themselves, and the rows that are deleted one by one for it. -/
def ofShape (db : Database) (count : Option Nat) : Work := ⟨db, count, true, true, none⟩

end Work

/-- What a plan makes of a database.  Deleting all rows of a table writes even if there are
    none.  A table that others refer to loses its rows before it is dropped itself. -/
def Plan.work (db : Database) (params : List Datum) : Plan → Work
  | .insert r rows => .ofPass db r (r.insert params rows) false
  | .update r changes filter => .ofPass db r (r.update params changes filter) false
  | .delete r filter => .ofPass db r (r.delete params filter) filter.isNone
  | .createTable name columns => .ofShape (db.create name columns) none
  | .dropTable r referenced =>
    .ofShape (db.drop r.name) (if referenced then some r.rows.length else none)
  | .createIndex index => .ofShape (db.addIndex index) none
  | _ => ⟨db, none, false, false, none⟩

end SqlClient.Embedded
