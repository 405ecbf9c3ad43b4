import SqlClient.Error
import SqlClient.Text.Blank
import SqlClient.Text.Digits

namespace SqlClient

/-!
# Connection options

Which database a connection opens, and how.

* `Duration` — seconds and nanoseconds.
* `Options`, `Options.validate` — the options, and which make no sense together.
* `Options.build`, `Options.ofEnvironment` — from settings one by one, or from two
  environment variables.
-/

/-- A span of time. -/
structure Duration where
  seconds : UInt64
  nanos : Fin 1000000000
deriving DecidableEq, Repr

namespace Duration

/-- Seconds and nanoseconds, of which whole seconds carry; none past 64 bits of seconds. -/
def of? (seconds nanos : Nat) : Option Duration :=
  let total := seconds + nanos / 1000000000
  if total < 2 ^ 64 then
    some ⟨UInt64.ofNat total, ⟨nanos % 1000000000, Nat.mod_lt _ (by decide)⟩⟩
  else none

def ofMillis (millis : UInt64) : Duration where
  seconds := millis / 1000
  nanos := ⟨millis.toNat % 1000 * 1000000, by omega⟩

/-- The whole milliseconds of a span. -/
def millis (d : Duration) : Nat := d.seconds.toNat * 1000 + d.nanos.val / 1000000

end Duration

/-- Options of a connection.  Without a path it has a database of its own in memory. -/
structure Options where
  dbPath : Option String
  readOnly : Bool
  busyTimeout : Option Duration
  /-- keep a log of writes ahead of a database file -/
  wal : Bool
deriving DecidableEq, Repr

/-- One choice among the options. -/
inductive Setting where
  | dbPath (path : String)
  | readOnly (yes : Bool)
  | busyTimeout (timeout : Duration)
  | wal (yes : Bool)
deriving DecidableEq, Repr

namespace Options

/-- A private database in memory. -/
def inMemory : Options := ⟨none, false, none, false⟩

/-- A database file, with a log of writes ahead of it. -/
def file (path : String) : Options := ⟨some path, false, none, true⟩

def isInMemory (o : Options) : Bool := o.dbPath.isNone

/-- Make one choice. -/
def set (o : Options) : Setting → Options
  | .dbPath path => { o with dbPath := some path }
  | .readOnly yes => { o with readOnly := yes }
  | .busyTimeout timeout => { o with busyTimeout := some timeout }
  | .wal yes => { o with wal := yes }

/-- The choices made one after the other. -/
def build (settings : List Setting) : Options := settings.foldl set inMemory

/-- Refuse a path of white space alone, and a database in memory that is not to be written. -/
def validate (o : Options) : Except Error Unit :=
  match o.dbPath with
  | some path => if Text.allBlank path then .error .blankPath else .ok ()
  | none => if o.readOnly then .error .readOnlyInMemory else .ok ()

/-! ### Options from the environment -/

/-- A count of milliseconds: digits after at most one plus sign, white space around them. -/
def readMillis? (s : String) : Option UInt64 :=
  Text.readWord? (Text.skipPlus (Text.trim s.toList))

/-- Options from the texts of the two variables, where they are set.  A path of white space
    alone is no path, and a timeout that is no count of milliseconds is none. -/
def ofEnvironment (path timeout : Option String) : Options :=
  let base := match path with
    | some p => if Text.allBlank p then inMemory else file p
    | none => inMemory
  { base with busyTimeout := (timeout.bind readMillis?).map Duration.ofMillis }

end Options

end SqlClient
