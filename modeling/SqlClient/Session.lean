import SqlClient.Engine

namespace SqlClient

/-!
# Sessions

A session is a client at work: the connections it has opened, the names it holds them by,
and the shared connections it keeps.  A connection is open while it has an engine handle.
Every call that reaches the engine is logged under the number of its handle.  Opens and
statements run as tasks of a worker pool, which numbers them.

* `Connection`, `Registry`, `Session` — the state.
* `Session.connect`, `release`, `close` — opening and closing connections.
* `Session.bind`, `unbind`, `hold`, `letGo` — references; the last one gone closes.
* `Session.execute`, `executeBatch` — statements.
* `Session.acquire`, `shutdown` — the shared connections.

Connections keep the place they were opened at, and a connection is known by its place
everywhere; two names are for one handle if they are for one place.  What its users see is the
id, which a counter has given to the connection when it was opened.
-/

/-- Who may close a connection. -/
inductive Ownership where
  /-- its users: by closing it, by leaving a scope, or by letting go of it -/
  | owned
  /-- the registry that opened it, and nobody else -/
  | shared
deriving DecidableEq, Repr

/-- A call that reached the engine, under the number of the handle. -/
inductive Event where
  | opened (handle : Nat)
  | submitted (handle : Nat) (statement : String)
  | batched (handle : Nat) (sql : String)
  | closed (handle : Nat)
deriving DecidableEq, Repr

/-- The line of the log. -/
def Event.text : Event → String
  | opened handle => s!"open {handle}"
  | submitted handle statement => s!"submit {handle} " ++ statement
  | batched handle sql => s!"batch {handle} " ++ sql
  | closed handle => s!"close {handle}"

/-- A connection: its id, and its handle with the handle's number, until it is closed. -/
structure Connection (Handle : Type) where
  id : Nat
  ownership : Ownership
  handle : Option (Nat × Handle)
deriving Repr

def Connection.isClosed {Handle : Type} (c : Connection Handle) : Bool := c.handle.isNone

/-- A place for one shared connection, opened when it is first asked for. -/
structure Registry where
  options : Options
  slot : Option Nat
deriving DecidableEq, Repr

/-- The two registries of a session. -/
inductive RegistryName where
  /-- the registry made for the session -/
  | session
  /-- the registry of the whole process -/
  | process
deriving DecidableEq, Repr

/-- A client at work. -/
structure Session (World Handle : Type) where
  world : World
  /-- how many opens were tried -/
  attempts : Nat
  /-- how many tasks were handed to the worker pool -/
  tasks : Nat
  /-- the id of the next connection that opens -/
  nextId : Nat
  /-- every connection opened so far, at its place -/
  connections : List (Connection Handle)
  /-- names for connections, in order -/
  names : List (String × Nat)
  /-- connections in use by scopes -/
  held : List Nat
  registry : RegistryName → Registry
  log : List Event
  /-- how much of the log has been told -/
  told : Nat

namespace Session

variable {World Handle : Type} (engine : Engine World Handle)

/-- A session in which nothing has happened yet. -/
def start (world : World) (registry : RegistryName → Options) : Session World Handle where
  world := world
  attempts := 0
  tasks := 0
  nextId := 1
  connections := []
  names := []
  held := []
  registry name := ⟨registry name, none⟩
  log := []
  told := 0

/-! ### Looking -/

/-- The place of the connection held by a name. -/
def named? (s : Session World Handle) (name : String) : Option Nat :=
  (s.names.find? (·.1 = name)).map (·.2)

/-- The handle of an open connection. -/
def handle? (s : Session World Handle) (c : Nat) : Option (Nat × Handle) :=
  (s.connections[c]?).bind (·.handle)

def isClosed (s : Session World Handle) (c : Nat) : Bool := (s.handle? c).isNone

def isShared (s : Session World Handle) (c : Nat) : Bool :=
  (s.connections[c]?).any (·.ownership = .shared)

/-- The id of a connection.  Every connection that a name or a scope stands for has one. -/
def idOf (s : Session World Handle) (c : Nat) : Nat :=
  ((s.connections[c]?).map (·.id)).getD 0

/-- Something still refers to the connection. -/
def isReferenced (s : Session World Handle) (c : Nat) : Bool :=
  s.names.any (·.2 = c) || s.held.contains c
    || (s.registry .session).slot = some c || (s.registry .process).slot = some c

/-! ### Small changes -/

/-- Log a call. -/
def note (s : Session World Handle) (e : Event) : Session World Handle :=
  { s with log := s.log ++ [e] }

/-- Hand a task to the worker pool; its number is the count of the tasks with it. -/
def spawn (s : Session World Handle) : Session World Handle := { s with tasks := s.tasks + 1 }

/-- Give a connection another handle, or none. -/
def setHandle (s : Session World Handle) (c : Nat) (handle : Option (Nat × Handle)) :
    Session World Handle :=
  { s with connections := s.connections.modify c fun conn => { conn with handle := handle } }

/-- Fill or empty the slot of a registry. -/
def setSlot (s : Session World Handle) (name : RegistryName) (slot : Option Nat) :
    Session World Handle :=
  { s with
    registry := fun n => if n = name then { s.registry n with slot := slot } else s.registry n }

/-- The part of the log not told yet, which is told now. -/
def tell (s : Session World Handle) : Session World Handle × List Event :=
  ({ s with told := s.log.length }, s.log.drop s.told)

/-! ### Opening and closing -/

/-- Open a connection; only a successful open takes the next place and the next id. -/
def connect (ownership : Ownership) (options : Options) (s : Session World Handle) :
    Session World Handle × Except Error Nat :=
  let number := s.attempts + 1
  let s := { s.spawn with attempts := number }.note (.opened number)
  let (world, outcome) := engine.openHandle s.world number options
  let s := { s with world := world }
  match outcome.toExcept (.openBroke s.tasks) with
  | .ok handle =>
    ({ s with
        nextId := s.nextId + 1
        connections := s.connections ++ [⟨s.nextId, ownership, some (number, handle)⟩] },
      .ok s.connections.length)
  | .error e => (s, .error e)

/-- Close a connection's handle, whoever owns it.  Only the first time reaches the engine,
    and the handle is gone even if the engine fails to close it. -/
def release (c : Nat) (s : Session World Handle) : Session World Handle × Except Error Unit :=
  match s.handle? c with
  | none => (s, .ok ())
  | some (number, handle) =>
    let s := (s.setHandle c none).note (.closed number)
    let (world, result) := engine.close s.world handle
    ({ s with world := world }, result)

/-- Close a connection as its user; shared connections stay open. -/
def close (c : Nat) (s : Session World Handle) : Session World Handle × Except Error Unit :=
  if s.isShared c then (s, .ok ()) else s.release engine c

/-- Close a connection that nothing refers to any more; nobody hears of an error. -/
def letGo (c : Nat) (s : Session World Handle) : Session World Handle :=
  if s.isReferenced c then s else (s.release engine c).1

/-! ### References -/

/-- Put a name in its place in the order. -/
def insertName (name : String) (c : Nat) : List (String × Nat) → List (String × Nat)
  | [] => [(name, c)]
  | (n, i) :: rest =>
    if name < n then (name, c) :: (n, i) :: rest
    else if n = name then (name, c) :: rest
    else (n, i) :: insertName name c rest

/-- Hold a connection by a name, then let go of what the name held before. -/
def bind (name : String) (c : Nat) (s : Session World Handle) : Session World Handle :=
  let before := s.named? name
  let s := { s with names := insertName name c s.names }
  match before with
  | none => s
  | some old => s.letGo engine old

/-- Give up a name and let go of what it held. -/
def unbind (name : String) (s : Session World Handle) : Session World Handle :=
  match s.named? name with
  | none => s
  | some c => { s with names := s.names.filter (·.1 ≠ name) }.letGo engine c

/-- Use a connection in a scope. -/
def hold (c : Nat) (s : Session World Handle) : Session World Handle :=
  { s with held := c :: s.held }

/-- The scope entered last no longer uses its connection. -/
def unhold (s : Session World Handle) : Session World Handle :=
  match s.held with
  | [] => s
  | c :: rest => { s with held := rest }.letGo engine c

/-! ### Statements -/

/-- Run a statement on a connection.  The task for it looks for the handle, so there is a task
    even if the connection is closed. -/
def execute (c : Nat) (statement : String) (params : List Value) (s : Session World Handle) :
    Session World Handle × Except Error ResultSet :=
  let s := s.spawn
  match s.handle? c with
  | none => (s, .error .closed)
  | some (number, handle) =>
    let s := s.note (.submitted number statement)
    let (world, handle, outcome) := engine.submit s.world handle statement params
    ({ s with world := world }.setHandle c (some (number, handle)),
      outcome.toExcept (.statementBroke s.tasks))

/-- Run a batch of statements on a connection, in a task of its own as well. -/
def executeBatch (c : Nat) (sql : String) (s : Session World Handle) :
    Session World Handle × Except Error Unit :=
  let s := s.spawn
  match s.handle? c with
  | none => (s, .error .closed)
  | some (number, handle) =>
    let s := s.note (.batched number sql)
    let (world, handle, outcome) := engine.batch s.world handle sql
    ({ s with world := world }.setHandle c (some (number, handle)),
      outcome.toExcept (.statementBroke s.tasks))

/-! ### Shared connections -/

/-- The shared connection, opened if the slot is empty.  A failed open leaves it empty. -/
def acquire (name : RegistryName) (s : Session World Handle) :
    Session World Handle × Except Error Nat :=
  match (s.registry name).slot with
  | some c => (s, .ok c)
  | none =>
    match s.connect engine .shared (s.registry name).options with
    | (s, .ok c) => (s.setSlot name (some c), .ok c)
    | (s, .error e) => (s, .error e)

/-- The shared connection asked for so many times. -/
def acquireMany (name : RegistryName) : Nat → Session World Handle →
    Session World Handle × List (Except Error Nat)
  | 0, s => (s, [])
  | count + 1, s =>
    let (s, first) := s.acquire engine name
    let (s, rest) := acquireMany name count s
    (s, first :: rest)

/-- Close the shared connection and empty the slot. -/
def shutdown (name : RegistryName) (s : Session World Handle) :
    Session World Handle × Except Error Unit :=
  match (s.registry name).slot with
  | none => (s, .ok ())
  | some c => (s.setSlot name none).release engine c

end Session

end SqlClient
