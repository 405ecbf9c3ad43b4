import SqlClient.Options.Text
import SqlClient.Session

namespace SqlClient

/-!
# Steps of a session

A program is a list of steps on named connections.  Scopes hold programs of their own:
whichever way a scope is left, the connection is closed with it.

* `Step`, `Answer` — what a client asks for, and what it hears.
* `Session.perform`, `run`, `runAll` — the steps at work.
* `Session.finish` — what is left open is closed.
-/

/-- How a scope is left. -/
inductive Leave where
  /-- by asking for the result of closing -/
  | exit
  /-- by falling out of it -/
  | drop
  /-- by breaking off in its middle -/
  | panic
deriving DecidableEq, Repr

/-- A step of a program. -/
inductive Step where
  | connect (name : String) (options : Options)
  | clone (source name : String)
  | drop (name : String)
  /-- on a named connection, or else on the shared one of the process -/
  | execute (target : Option String) (statement : String) (params : List Value)
  | batch (name sql : String)
  | close (name : String)
  | isClosed (name : String)
  | isShared (name : String)
  | engineName (name : String)
  | number (name : String)
  | describe (name : String)
  | sameHandle (first second : String)
  /-- run all steps, then leave the scope -/
  | scope (name : String) (steps : List Step) (leave : Leave)
  /-- run steps up to the first error, the connection known by another name too; then
      close it and end in the error, or in the one given, or in that of closing -/
  | within (name nickname : String) (steps : List Step) (result : Option Error)
  /-- a scope given up while it waits, entered only if it was looked at before -/
  | cancelled (name : String) (polled : Bool)
  | acquire (registry : RegistryName) (name : String)
  | acquireMany (count : Nat)
  | isInitialized
  | shutdown (registry : RegistryName)
  | describeRegistry
  /-- a step nobody knows -/
  | unknown
deriving Inhabited

/-- Why a step was refused. -/
inductive Refusal where
  | error (e : Error)
  | noSuchConnection
  | unknownStep
deriving DecidableEq, Repr

/-- How leaving a scope went. -/
inductive ScopeEnd where
  | quiet
  | failed (e : Error)
  | brokenOff
deriving DecidableEq, Repr

/-- The answer to a step; those of inner steps come with what they logged. -/
inductive Answer where
  | refused (r : Refusal)
  | done
  | flag (b : Bool)
  | number (n : Nat)
  | text (s : String)
  | rows (r : ResultSet)
  | numbers (ids : List (Except Error Nat))
  | scope (id : Nat) (replies : List (Answer × List Event)) (outcome : ScopeEnd)
  | within (replies : List (Answer × List Event)) (error : Option Error)

/-- An answer, and what the engine logged for it. -/
abbrev Reply := Answer × List Event

namespace Answer

/-- The answer to a step that has nothing to say unless it fails. -/
def ofUnit : Except Error Unit → Answer
  | .ok () => done
  | .error e => refused (.error e)

/-- The error of the client that the step ended in; a bad request is none. -/
def error? : Answer → Option Error
  | refused (.error e) => some e
  | within _ error => error
  | _ => none

end Answer

namespace Session

variable {World Handle : Type} (engine : Engine World Handle)

/-- A connection as it is shown to someone looking into it. -/
def describe (c : Nat) (s : Session World Handle) : String :=
  "Connection \x7b id: " ++ toString (s.idOf c) ++ ", engine: " ++ Text.quoted engine.name
    ++ ", ownership: " ++ (if s.isShared c then "Default" else "Owned")
    ++ ", closed: " ++ toString (s.isClosed c) ++ " \x7d"

/-- The session's registry as it is shown to someone looking into it. -/
def describeRegistry (s : Session World Handle) : String :=
  "DefaultRegistry \x7b engine: " ++ Text.quoted engine.name
    ++ ", options: " ++ (s.registry .session).options.text ++ ", .. \x7d"

/-- Answer about a named connection. -/
def onNamed (name : String) (s : Session World Handle)
    (f : Nat → Session World Handle × Answer) : Session World Handle × Answer :=
  match s.named? name with
  | none => (s, .refused .noSuchConnection)
  | some c => f c

/-- Hold a connection that was opened, or answer with the error. -/
def bindResult (name : String) :
    Session World Handle × Except Error Nat → Session World Handle × Answer
  | (s, .ok c) => (s.bind engine name c, .done)
  | (s, .error e) => (s, .refused (.error e))

/-- Answer with rows, or with the error. -/
def rowsResult : Session World Handle × Except Error ResultSet → Session World Handle × Answer
  | (s, .ok r) => (s, .rows r)
  | (s, .error e) => (s, .refused (.error e))

/-- Run a statement on the shared connection of the process. -/
def executeShared (statement : String) (params : List Value) (s : Session World Handle) :
    Session World Handle × Except Error ResultSet :=
  match s.acquire engine .process with
  | (s, .ok c) => s.execute engine c statement params
  | (s, .error e) => (s, .error e)

/-- The guard of a scope goes: it closes the connection, and nobody hears of an error. -/
def dropGuard (c : Nat) (s : Session World Handle) : Session World Handle := (s.close engine c).1

/-- Ask a guard how closing the connection goes.  The guard goes with that, so it closes the
    connection once more. -/
def exitScope (c : Nat) (s : Session World Handle) : Session World Handle × Except Error Unit :=
  let (s, result) := s.close engine c
  (s.dropGuard engine c, result)

/-- Leave a scope.  Its guard goes in any case, and only `exit` reports on the connection. -/
def leaveScope (c : Nat) (leave : Leave) (s : Session World Handle) :
    Session World Handle × ScopeEnd :=
  match leave with
  | .exit =>
    match s.exitScope engine c with
    | (s, .error e) => (s, .failed e)
    | (s, .ok ()) => (s, .quiet)
  | .drop => (s.dropGuard engine c, .quiet)
  | .panic => (s.dropGuard engine c, .brokenOff)

/-- The first of two errors, else the error of a result. -/
def firstError (body given : Option Error) (released : Except Error Unit) : Option Error :=
  match body, given, released with
  | some e, _, _ => some e
  | none, some e, _ => some e
  | none, none, .error e => some e
  | none, none, .ok () => none

/-- A scope given up while it waits: had it been entered, its guard goes with it. -/
def cancel (c : Nat) (polled : Bool) (s : Session World Handle) : Session World Handle :=
  if polled then s.dropGuard engine c else s

mutual

/-- Do what a step asks for. -/
def perform (step : Step) (s : Session World Handle) : Session World Handle × Answer :=
  match step with
  | .connect name options => bindResult engine name (s.connect engine .owned options)
  | .clone source name => s.onNamed source fun c => (s.bind engine name c, .done)
  | .drop name => s.onNamed name fun _ => (s.unbind engine name, .done)
  | .execute (some name) statement params =>
    s.onNamed name fun c => rowsResult (s.execute engine c statement params)
  | .execute none statement params => rowsResult (s.executeShared engine statement params)
  | .batch name sql => s.onNamed name fun c =>
    let (s, result) := s.executeBatch engine c sql
    (s, .ofUnit result)
  | .close name => s.onNamed name fun c =>
    let (s, result) := s.close engine c
    (s, .ofUnit result)
  | .isClosed name => s.onNamed name fun c => (s, .flag (s.isClosed c))
  | .isShared name => s.onNamed name fun c => (s, .flag (s.isShared c))
  | .engineName name => s.onNamed name fun _ => (s, .text engine.name)
  | .number name => s.onNamed name fun c => (s, .number (s.idOf c))
  | .describe name => s.onNamed name fun c => (s, .text (s.describe engine c))
  | .sameHandle first second =>
    s.onNamed first fun c => s.onNamed second fun d => (s, .flag (c = d))
  | .scope name steps leave =>
    match s.named? name with
    | none => (s, .refused .noSuchConnection)
    | some c =>
      let id := s.idOf c
      let (s, replies) := runAll steps (s.hold c)
      let (s, outcome) := s.leaveScope engine c leave
      (s.unhold engine, .scope id replies outcome)
  | .within name nickname steps result =>
    match s.named? name with
    | none => (s, .refused .noSuchConnection)
    | some c =>
      let (s, replies, error) := runUntilError steps ((s.hold c).bind engine nickname c)
      let (s, released) := s.exitScope engine c
      (s.unhold engine, .within replies (firstError error result released))
  | .cancelled name polled => s.onNamed name fun c => (s.cancel engine c polled, .flag polled)
  | .acquire registry name => bindResult engine name (s.acquire engine registry)
  | .acquireMany count =>
    let (s, answers) := s.acquireMany engine .session count
    (s, .numbers (answers.map fun a => a.map s.idOf))
  | .isInitialized => (s, .flag (s.registry .session).slot.isSome)
  | .shutdown registry =>
    let (s, result) := s.shutdown engine registry
    (s, .ofUnit result)
  | .describeRegistry => (s, .text (s.describeRegistry engine))
  | .unknown => (s, .refused .unknownStep)

/-- Do all steps, telling the log after each. -/
def runAll (steps : List Step) (s : Session World Handle) : Session World Handle × List Reply :=
  match steps with
  | [] => (s, [])
  | step :: rest =>
    let (s, answer) := perform step s
    let (s, events) := s.tell
    let (s, replies) := runAll rest s
    (s, (answer, events) :: replies)

/-- Do steps up to the first that ends in an error of the client. -/
def runUntilError (steps : List Step) (s : Session World Handle) :
    Session World Handle × List Reply × Option Error :=
  match steps with
  | [] => (s, [], none)
  | step :: rest =>
    let (s, answer) := perform step s
    let (s, events) := s.tell
    match answer.error? with
    | some e => (s, [(answer, events)], some e)
    | none =>
      let (s, replies, error) := runUntilError rest s
      (s, (answer, events) :: replies, error)

end

/-- Give up the names in order. -/
def unbindAll (names : List String) (s : Session World Handle) : Session World Handle :=
  names.foldl (fun s name => s.unbind engine name) s

/-- Give up all names, then close the shared connections. -/
def finish (s : Session World Handle) : Session World Handle :=
  let s := s.unbindAll engine (s.names.map (·.1))
  let s := (s.shutdown engine .session).1
  (s.shutdown engine .process).1

/-- Run a program from the start to the end: the replies, and what is logged at the end. -/
def runProgram (world : World) (registry : RegistryName → Options) (steps : List Step) :
    List Reply × List Event :=
  let (s, replies) := runAll engine steps (start world registry)
  (replies, ((s.finish engine).tell).2)

end Session

end SqlClient
