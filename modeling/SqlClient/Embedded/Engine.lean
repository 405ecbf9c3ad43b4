import SqlClient.Embedded.Disk
import SqlClient.Embedded.Library
import SqlClient.Embedded.Plan

namespace SqlClient.Embedded

/-!
# The embedded engine

Handles have a database of their own in memory or share one in a file.  Statements run in
the transaction that was begun, or else each in one of its own.

* `EmbeddedHandle` — a handle, with its transaction and its counts of changes.
* `EmbeddedHandle.prepare` — a text as the handle understands it.
* `EmbeddedHandle.run` — a prepared statement at work.
* `Embedded.library` — the calls on handles.
* `Embedded.engine` — the engine.
-/

/-- What a handle is in the middle of. -/
inductive Transaction where
  | idle
  /-- begun, without having looked at the database -/
  | begun
  | active (v : View)
deriving DecidableEq, Repr

/-- A handle of the embedded engine. -/
structure EmbeddedHandle where
  id : Nat
  /-- where its file is; without one the database is in memory -/
  place : Option Location
  memory : Store
  readOnly : Bool
  transaction : Transaction
  /-- the database whose tables the handle knows, since it looked last -/
  known : Option Database
  /-- rows changed by the last statement that changes rows -/
  changes : Nat
  /-- rows changed since the handle was opened -/
  totalChanges : Nat
deriving DecidableEq, Repr

/-- What running a statement gives: rows, one after the other, or nothing. -/
inductive Effect where
  | rows (rows : List (Except Complaint (List Datum)))
  | nothing

/-- A disk and a handle, as a call leaves them. -/
abbrev EngineState := Disk × EmbeddedHandle

namespace EmbeddedHandle

/-! ### Looking and writing -/

/-- The store the handle is at. -/
def store (d : Disk) (h : EmbeddedHandle) : Store :=
  match h.place with
  | none => h.memory
  | some place => (d.file? place).getD (.empty true)

/-- Change the store the handle is at. -/
def setStore (d : Disk) (h : EmbeddedHandle) (s : Store) : EngineState :=
  match h.place with
  | none => (d, { h with memory := s })
  | some place => (d.write place s, h)

/-- See the database, through the view of the transaction if it has one. -/
def look (d : Disk) (h : EmbeddedHandle) : Except Complaint (EngineState × View) :=
  match h.transaction with
  | .active v => .ok ((d, h), v)
  | _ => do
    let (s, v) ← (h.store d).look h.id
    .ok ({ h with transaction := .active v }.setStore d s, v)

/-- See the database to write to it. -/
def claim (d : Disk) (h : EmbeddedHandle) : Except Complaint (EngineState × View) := do
  if h.readOnly then .error .readOnly
  else
    let ((d, h), v) ← h.look d
    let s ← (h.store d).claim h.id v
    .ok (h.setStore d s, v)

/-- End the transaction, whatever was written in it being lost. -/
def abandon (d : Disk) (h : EmbeddedHandle) : EngineState :=
  let known := match h.transaction with
    | .active v => if v.reshaped then none else h.known
    | _ => h.known
  { h with transaction := .idle, known := known }.setStore d ((h.store d).leave h.id)

/-- Put what was written in the place of the database and end the transaction; `false` if
    that is not possible yet. -/
def settle (d : Disk) (h : EmbeddedHandle) : EngineState × Bool :=
  match h.transaction with
  | .active v =>
    let (s, settled) := (h.store d).settle h.id v
    let h := if settled then { h with transaction := .idle } else h
    (h.setStore d s, settled)
  | _ => ((d, { h with transaction := .idle }), true)

/-! ### Preparing -/

/-- Prepare the first statement of a text, as `Prepared.first` does, with the tables that the
    handle knows.  It gets to know them when it needs them first, and gets to know them anew
    when a complaint may come of their having changed. -/
def prepare (d : Disk) (h : EmbeddedHandle) (text : List Char) :
    EmbeddedHandle × Except Located (Option Prepared × List Char) :=
  let t := StatementText.read text
  let current := (h.look d).map fun r => r.2.content
  if !t.needsDatabase then (h, Prepared.first .empty t)
  else
    match h.known, current with
    | none, .error c => (h, .error c.anywhere)
    | none, .ok db => ({ h with known := some db }, Prepared.first db t)
    | some known, current =>
      match Prepared.first known t, current with
      | .error l, .ok db =>
        if l.complaint.mayBeStale && db.shape ≠ known.shape then
          ({ h with known := some db }, Prepared.first db t)
        else (h, .error l)
      | result, _ => (h, result)

/-- The only statement of a text; there is none in the text after it, which is prepared to
    make sure.  `fuel` bounds the number of statements. -/
def prepareOnly (d : Disk) :
    Nat → EmbeddedHandle → List Char → EmbeddedHandle × Except String (Option Prepared)
  | 0, h, _ => (h, .ok none)
  | fuel + 1, h, text =>
    match h.prepare d text with
    | (h, .error l) => (h, .error (l.message (String.ofList text)))
    | (h, .ok (p, [])) => (h, .ok p)
    | (h, .ok (p, rest)) =>
      match prepareOnly d fuel h rest with
      | (h, .error e) => (h, .error e)
      | (h, .ok none) => (h, .ok p)
      | (h, .ok (some _)) => (h, .error Complaint.severalStatements.text)

/-! ### Running -/

/-- Run something in the transaction, or else in one of its own, which settles at once or
    comes to nothing. -/
def inTransaction (d : Disk) (h : EmbeddedHandle)
    (f : EngineState → EngineState × Except Complaint Effect) :
    EngineState × Except Complaint Effect :=
  match h.transaction, f (d, h) with
  | .idle, ((d, h), .error c) => (h.abandon d, .error c)
  | .idle, ((d, after), .ok effect) =>
    match after.settle d with
    | (state, true) => (state, .ok effect)
    | ((d, after), false) =>
      let counts := { after with changes := h.changes, totalChanges := h.totalChanges }
      (counts.abandon d, .error .locked)
  | _, result => result

/-- The rows of a query, in a view of the database. -/
def query (p : Prepared) (params : List Datum) (state : EngineState) :
    EngineState × Except Complaint Effect :=
  match state.2.look state.1 with
  | .error c => (state, .error c)
  | .ok ((d, h), v) =>
    ((d, { h with known := some v.content }), match p.plan v.content with
      | .ok (.query _ parts sort) => .ok (.rows (queryRows params parts sort))
      | .ok _ => .ok .nothing
      | .error l => .error l.complaint)

/-- What a change leaves of a view, and of the counts. -/
def record (h : EmbeddedHandle) (v : View) (w : Work) : EmbeddedHandle × Except Complaint Effect :=
  let touched := v.touched || w.touched
  match w.fault with
  | some c => ({ h with transaction := .active { v with touched := touched } }, .error c)
  | none =>
    let view : View := { v with
      content := w.content, touched := touched, reshaped := v.reshaped || w.reshaped }
    let h := { h with transaction := .active view, known := some w.content }
    match w.count with
    | some n => ({ h with changes := n, totalChanges := h.totalChanges + n }, .ok .nothing)
    | none => (h, .ok .nothing)

/-- Change a view of the database.  What fails changes nothing, but it may have written. -/
def change (p : Prepared) (params : List Datum) (state : EngineState) :
    EngineState × Except Complaint Effect :=
  match state.2.claim state.1 with
  | .error c => (state, .error c)
  | .ok ((d, h), v) =>
    let h := { h with known := some v.content }
    match p.plan v.content with
    | .error l => ((d, h), .error l.complaint)
    | .ok plan =>
      let w := plan.work v.content params
      if w.touched && !(h.store d).hasJournal then ((d, h), .error .noJournal)
      else
        let (h, result) := h.record v w
        ((d, h), result)

/-- Run a prepared statement. -/
def run (d : Disk) (h : EmbeddedHandle) (p : Prepared) (params : List Datum) :
    EngineState × Except Complaint Effect :=
  match p.statement, h.transaction with
  | .begin, .idle => ((d, { h with transaction := .begun }), .ok .nothing)
  | .begin, _ => ((d, h), .error .nestedTransaction)
  | .commit, .idle => ((d, h), .error .nothingToCommit)
  | .commit, _ =>
    match h.settle d with
    | (state, true) => (state, .ok .nothing)
    | (state, false) => (state, .error .locked)
  | .rollback, .idle => ((d, h), .error .nothingToRollBack)
  | .rollback, _ => (h.abandon d, .ok .nothing)
  | .select _ _ _, _ =>
    if p.statement.usesTables then h.inTransaction d (query p params)
    else
      match p.plan .empty with
      | .ok (.query _ parts sort) => ((d, h), .ok (.rows (queryRows params parts sort)))
      | _ => ((d, h), .ok .nothing)
  | _, _ => h.inTransaction d (change p params)

/-! ### Calls -/

/-- Prepare the only statement of a text. -/
def prepareText (state : EngineState) (sql : String) :
    EngineState × Except String (Option Prepared) :=
  let (h, result) := prepareOnly state.1 (sql.toList.length + 1) state.2 sql.toList
  ((state.1, h), result)

/-- The parameters are as many as needed; counting stops at the first too many. -/
def checkParameters (given needed : Nat) : Except Complaint Unit :=
  if given = needed then .ok () else .error (.parameterCount (min given (needed + 1)) needed)

/-- Run what was prepared with parameters.  A text without a statement has nothing to run. -/
def runWith (state : EngineState) (p : Option Prepared) (params : List Value) :
    EngineState × Except String Effect :=
  match checkParameters params.length ((p.map (·.parameters)).getD 0), p with
  | .error c, _ => (state, .error c.text)
  | .ok (), none => (state, .error Complaint.noStatement.text)
  | .ok (), some p =>
    let (state, result) := state.2.run state.1 p (params.map Datum.ofParameter)
    (state, result.mapError Complaint.text)

/-- Run what returns no rows; gives what the handle counted last. -/
def execute (state : EngineState) (p : Option Prepared) (params : List Value) :
    EngineState × Except String Nat :=
  let (state, result) := runWith state p params
  (state, result.map fun _ => state.2.changes)

/-- Run what returns rows. -/
def rows (state : EngineState) (p : Option Prepared) (params : List Value) :
    EngineState × Except String (List (Except String (List Datum))) :=
  let (state, result) := runWith state p params
  (state, result.map fun
    | .rows rows => rows.map (·.mapError Complaint.text)
    | .nothing => [])

/-- Run a statement of a batch.  Of a query only the first row is asked for. -/
def step (d : Disk) (h : EmbeddedHandle) (p : Prepared) :
    EngineState × Except Complaint Unit :=
  match h.run d p [] with
  | (state, .error c) => (state, .error c)
  | (state, .ok (.rows (.error c :: _))) => (state, .error c)
  | (state, .ok _) => (state, .ok ())

/-- Run the statements of a text one after the other, up to the first that fails.  `fuel`
    bounds their number. -/
def batchFrom : Nat → EngineState → List Char → EngineState × Except String Unit
  | 0, state, _ => (state, .ok ())
  | fuel + 1, (d, h), text =>
    match h.prepare d text with
    | (h, .error l) => ((d, h), .error (l.message (String.ofList text)))
    | (h, .ok (none, _)) => ((d, h), .ok ())
    | (h, .ok (some p, rest)) =>
      match h.step d p with
      | (state, .error c) => (state, .error c.text)
      | (state, .ok ()) => if rest = [] then (state, .ok ()) else batchFrom fuel state rest

/-- Run the statements of a text. -/
def batch (state : EngineState) (sql : String) : EngineState × Except String Unit :=
  batchFrom (sql.toList.length + 1) state sql.toList

end EmbeddedHandle

/-- The calls on handles, as those of a library. -/
def library : Library EngineState (Option Prepared) where
  prepare := EmbeddedHandle.prepareText
  columns p := (p.map (·.columns)).getD []
  execute := EmbeddedHandle.execute
  query := EmbeddedHandle.rows
  batch := EmbeddedHandle.batch
  changes state := state.2.changes
  totalChanges state := state.2.totalChanges

/-! ### Opening -/

/-- A handle with nothing done yet. -/
def newHandle (id : Nat) (place : Option Location) (readOnly : Bool) : EmbeddedHandle where
  id := id
  place := place
  memory := .empty true
  readOnly := readOnly
  transaction := .idle
  known := none
  changes := 0
  totalChanges := 0

/-- A file that cannot be opened. -/
def cannotOpen (path : String) (fault : Disk.Fault) : Error :=
  let why := match fault with
    | .noFile => "unable to open database file: " ++ path
    | .directory => "disk I/O error"
  .reported .engineInit ("Failed to open SQLite database " ++ path ++ ": " ++ why)

/-- A file that changes cannot be logged ahead of. -/
def cannotLog (c : Complaint) : Error :=
  .reported .engineInit ("Failed to enable WAL: " ++ c.text)

/-- The place of the database that options ask for, if it is in a file, and the disk with it. -/
def findPlace (d : Disk) (o : Options) : Except Error (Option Location × Disk) :=
  match o.dbPath with
  | none => .ok (none, d)
  | some path =>
    match d.openFile path o.readOnly with
    | .ok (place, d) => .ok (some place, d)
    | .error fault => .error (cannotOpen path fault)

/-- Log changes ahead of the file of a handle, which gets to know its tables by the way. -/
def startLog (d : Disk) (h : EmbeddedHandle) : Except Complaint EngineState := do
  let (_, v) ← (h.store d).look h.id
  let s ← (h.store d).startLog h.id
  .ok ({ h with known := some v.content }.setStore d s)

/-- The milliseconds of a timeout have 31 bits. -/
def timeoutLimit : Nat := 2 ^ 31

/-- Open a database in memory or in a file.  Files are made when they are first opened to
    be written. -/
def openHandle (d : Disk) (id : Nat) (o : Options) : Disk × Outcome EmbeddedHandle :=
  match o.validate with
  | .error e => (d, .failed e)
  | .ok () =>
    match findPlace d o with
    | .error e => (d, .failed e)
    | .ok (place, d) =>
      let h := newHandle id place o.readOnly
      if o.busyTimeout.any fun t => timeoutLimit ≤ t.millis then (d, .broke "too big")
      else if o.wal && !o.readOnly && place.isSome then
        match startLog d h with
        | .ok (d, h) => (d, .done h)
        | .error c => (d, .failed (cannotLog c))
      else (d, .done h)

/-- The embedded engine. -/
def engine : Engine Disk EmbeddedHandle where
  name := "sqlite"
  openHandle d id o := openHandle d id o
  submit d h sql params :=
    let (state, outcome) := library.submit (d, h) sql params
    (state.1, state.2, outcome)
  batch d h sql :=
    let (state, outcome) := library.submitBatch (d, h) sql
    (state.1, state.2, outcome)
  close d h := ((h.abandon d).1, .ok ())

end SqlClient.Embedded
