import SqlClient.Binary64
import SqlClient.Timestamp.Layout

namespace SqlClient

/-!
# Values

A value is what an engine produces or a statement takes as a parameter.

* `Value`, `ValueKind` — the seven kinds of value.
* `Value.asInt?`, …, `Value.asBlob?` — the value read as one of them.
* `Value.exactFloat?` — the value as a double, where nothing is rounded.
-/

/-- A value from an engine, or a parameter of a statement. -/
inductive Value where
  | null
  | int (i : Int64)
  | float (x : Binary64)
  | text (s : String)
  | bool (b : Bool)
  | timestamp (t : Timestamp)
  | blob (bytes : List UInt8)
deriving DecidableEq, Repr

/-- The kind of a value. -/
inductive ValueKind where
  | null
  | integer
  | float
  | text
  | boolean
  | timestamp
  | blob
deriving DecidableEq, Repr

/-- The kind's name in messages. -/
def ValueKind.name : ValueKind → String
  | null => "null"
  | integer => "integer"
  | float => "float"
  | text => "text"
  | boolean => "boolean"
  | timestamp => "timestamp"
  | blob => "blob"

namespace Value

def kind : Value → ValueKind
  | null => .null
  | int _ => .integer
  | float _ => .float
  | text _ => .text
  | bool _ => .boolean
  | timestamp _ => .timestamp
  | blob _ => .blob

def isNull (v : Value) : Bool := v.kind = .null

/-! ### Reading a value as one kind -/

def asInt? : Value → Option Int64
  | int i => some i
  | _ => none

/-- A double, or the one nearest to an integer. -/
def asFloat? : Value → Option Binary64
  | float x => some x
  | int i => some (.ofInt i.toInt)
  | _ => none

def asText? : Value → Option String
  | text s => some s
  | _ => none

/-- A boolean, or one of the integers 0 and 1 that engines keep in its place. -/
def asBool? : Value → Option Bool
  | bool b => some b
  | int i => if i = 0 then some false else if i = 1 then some true else none
  | _ => none

/-- A timestamp, or text in one of its layouts. -/
def asTimestamp? : Value → Option Timestamp
  | timestamp t => some t
  | text s => Timestamp.ofText? s
  | _ => none

def asBlob? : Value → Option (List UInt8)
  | blob bytes => some bytes
  | _ => none

/-- A double, or an integer that a double holds exactly. -/
def exactFloat? : Value → Option Binary64
  | int i =>
    let x := Binary64.ofInt i.toInt
    if x.toInt = i.toInt then some x else none
  | v => v.asFloat?

@[simp] theorem isNull_null : isNull null = true := rfl

theorem isNull_iff {v : Value} : v.isNull = true ↔ v = null := by
  cases v <;> simp [isNull, kind]

end Value

end SqlClient
