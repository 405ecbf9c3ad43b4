import SqlClient.ColumnType
import SqlClient.Json.Document
import SqlClient.Value

namespace SqlClient

/-!
# Values as JSON

A value is written with its kind: null as a word, every other value as an object of one
member named for its kind.

* `Value.toJson`, `Value.ofDocument?` — written, and read back.
* `ColumnType.ofDocument?` — the name of a column type.
-/

namespace Value

/-- The value with its kind. -/
def toJson : Value → Json
  | null => .text "Null"
  | int i => .object [("Int", .int i.toInt)]
  | float x => .object [("Float", if x.isFinite then .float x else .null)]
  | text s => .object [("Text", .text s)]
  | bool b => .object [("Bool", .bool b)]
  | timestamp t => .object [("Timestamp", .text t.writeIso)]
  | blob bytes => .object [("Blob", .ofBytes bytes)]

end Value

namespace Document

/-- An integer of 64 bits with a sign. -/
def toInt64? (d : Document) : Option Int64 := do
  let i ← d.toInt?
  if -2 ^ 63 ≤ i ∧ i < 2 ^ 63 then some (Int64.ofInt i) else none

/-- An integer from 0 up to but not including `bound`. -/
def toNatBelow? (bound : Nat) (d : Document) : Option Nat := do
  let i ← d.toInt?
  if 0 ≤ i ∧ i < bound then some i.toNat else none

/-- An array of bytes. -/
def toBytes? (d : Document) : Option (List UInt8) := do
  let items ← d.toItems?
  items.mapM fun item => (item.toNatBelow? 256).map UInt8.ofNat

/-- The only member of an object. -/
def toMember? (d : Document) : Option (String × Document) :=
  match d.toMembers? with
  | some [member] => some member
  | _ => none

/-- A name standing alone: as a text, or as the only member of an object, holding null. -/
def toName? (d : Document) : Option String :=
  match d with
  | text units => textOf? units
  | d =>
    match d.toMember? with
    | some (name, null) => some name
    | _ => none

end Document

namespace Value

/-- The value of the kind named by a member. -/
def ofMember? (name : String) (d : Document) : Option Value :=
  match name with
  | "Int" => d.toInt64?.map int
  | "Float" => d.toBinary64?.map float
  | "Text" => d.toText?.map text
  | "Bool" => d.toBool?.map bool
  | "Timestamp" => (d.toText?.bind Timestamp.ofIso?).map timestamp
  | "Blob" => d.toBytes?.map blob
  | _ => none

/-- The value written with its kind. -/
def ofDocument? (d : Document) : Option Value :=
  if d.toName? = some "Null" then some null
  else
    match d.toMember? with
    | some (name, d) => ofMember? name d
    | none => none

/-- The value a JSON text holds. -/
def ofJsonText? (s : String) : Option Value := (Document.ofText? s).bind ofDocument?

end Value

namespace ColumnType

/-- The column type a JSON text names. -/
def ofJsonText? (s : String) : Option ColumnType := do
  let d ← Document.ofText? s
  let name ← d.toName?
  ofName? name

end ColumnType

end SqlClient
