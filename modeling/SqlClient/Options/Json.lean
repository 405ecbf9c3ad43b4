import SqlClient.Json.Document
import SqlClient.Options
import SqlClient.Value.Json

namespace SqlClient

/-!
# Options as JSON

Options are written as an object of their four parts.  They are read from such an object,
in any order and with other members in it, or from an array of the parts.

* `Options.toJson`, `Options.ofDocument?` — written, and read back.
* `Duration.toJson`, `Duration.ofDocument?` — the same for a span of time.
-/

namespace Document

/-- Look a name up among members, as often as it stands there: none if more than once. -/
def lookup? (members : List (String × Document)) (name : String) : Option (Option Document) :=
  match members.filter (·.1 = name) with
  | [] => some none
  | [member] => some (some member.2)
  | _ => none

/-- The member of a name that has to be there. -/
def require? (members : List (String × Document)) (name : String) : Option Document :=
  (lookup? members name).bind id

/-- Read what is not null. -/
def optional? {α : Type} (read? : Document → Option α) : Document → Option (Option α)
  | null => some none
  | d => (read? d).map some

end Document

namespace Duration

def toJson (d : Duration) : Json :=
  .object [("secs", .int d.seconds.toNat), ("nanos", .int d.nanos.val)]

/-- Seconds of 64 bits and nanoseconds of 32. -/
def ofParts? (seconds nanos : Document) : Option Duration := do
  let s ← seconds.toNatBelow? (2 ^ 64)
  let n ← nanos.toNatBelow? (2 ^ 32)
  of? s n

/-- A span of time: an object of exactly the two parts, or an array of them. -/
def ofDocument? (d : Document) : Option Duration :=
  match d with
  | .array [seconds, nanos] => ofParts? seconds nanos
  | d => do
    let members ← d.toMembers?
    if members.all fun m => m.1 = "secs" ∨ m.1 = "nanos" then
      let seconds ← Document.require? members "secs"
      let nanos ← Document.require? members "nanos"
      ofParts? seconds nanos
    else none

end Duration

namespace Options

def toJson (o : Options) : Json :=
  .object [
    ("db_path", o.dbPath.elim .null .text),
    ("read_only", .bool o.readOnly),
    ("busy_timeout", o.busyTimeout.elim .null Duration.toJson),
    ("wal", .bool o.wal)]

/-- Options from their four parts. -/
def ofParts? (dbPath readOnly busyTimeout wal : Document) : Option Options := do
  let dbPath ← Document.optional? Document.toText? dbPath
  let readOnly ← readOnly.toBool?
  let busyTimeout ← Document.optional? Duration.ofDocument? busyTimeout
  let wal ← wal.toBool?
  some ⟨dbPath, readOnly, busyTimeout, wal⟩

/-- Options from an object or an array.  The path and the timeout may be left out of an
    object, and members of other names are passed over. -/
def ofDocument? (d : Document) : Option Options :=
  match d with
  | .array [dbPath, readOnly, busyTimeout, wal] => ofParts? dbPath readOnly busyTimeout wal
  | d => do
    let members ← d.toMembers?
    let dbPath ← Document.lookup? members "db_path"
    let readOnly ← Document.require? members "read_only"
    let busyTimeout ← Document.lookup? members "busy_timeout"
    let wal ← Document.require? members "wal"
    ofParts? (dbPath.getD .null) readOnly (busyTimeout.getD .null) wal

/-- The options a JSON text holds. -/
def ofJsonText? (s : String) : Option Options := (Document.ofText? s).bind ofDocument?

end Options

end SqlClient
