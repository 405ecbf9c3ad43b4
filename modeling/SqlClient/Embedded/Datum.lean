import SqlClient.Text.Utf8
import SqlClient.Value

namespace SqlClient.Embedded

/-!
# Stored data

The embedded database stores data of five classes.  Values are bound as data and data are
read back as values.

* `Datum` — a stored datum.
* `Datum.ofValue`, `Datum.toValue` — binding and reading back.
* `Datum.order` — the order of data: null, numbers, texts, blobs.
-/

/-- A datum in the database. -/
inductive Datum where
  | null
  | integer (i : Int64)
  | real (x : Binary64)
  | text (s : String)
  /-- bytes said to be text that are none -/
  | brokenText (bytes : List UInt8) (fault : Text.Utf8Fault)
  | blob (bytes : List UInt8)
deriving DecidableEq, Repr

namespace Datum

/-- What a value is bound as.  Booleans are bound as 0 and 1 and timestamps as text. -/
def ofValue : Value → Datum
  | .null => null
  | .int i => integer i
  | .float x => real x
  | .text s => text s
  | .bool b => integer (if b then 1 else 0)
  | .timestamp t => text t.write
  | .blob bytes => blob bytes

/-- A parameter of a statement.  The database has no NaN. -/
def ofParameter (v : Value) : Datum :=
  match ofValue v with
  | real x => if x.isNaN then null else real x
  | d => d

/-- The value a datum is read back as. -/
def toValue : Datum → Except Text.Utf8Fault Value
  | null => .ok .null
  | integer i => .ok (.int i)
  | real x => .ok (.float x)
  | text s => .ok (.text s)
  | brokenText _ fault => .error fault
  | blob bytes => .ok (.blob bytes)

/-- Bytes taken for text. -/
def ofTextBytes (bytes : List UInt8) : Datum :=
  match Text.Utf8.decode bytes with
  | .ok cs => text (String.ofList cs)
  | .error fault => brokenText bytes fault

/-! ### Order -/

/-- The place of a datum's class among the classes. -/
def classRank : Datum → Nat
  | null => 0
  | integer _ => 1
  | real _ => 1
  | text _ => 2
  | brokenText _ _ => 2
  | blob _ => 3

/-- The bytes of text and blobs. -/
def bytes : Datum → List UInt8
  | text s => s.toUTF8.toList
  | brokenText bytes _ => bytes
  | blob bytes => bytes
  | _ => []

/-- Dictionary order of bytes. -/
def orderBytes : List UInt8 → List UInt8 → Ordering
  | [], [] => .eq
  | [], _ :: _ => .lt
  | _ :: _, [] => .gt
  | a :: as, b :: bs => (compare a.toNat b.toNat).then (orderBytes as bs)

/-- The order of data; numbers compare exactly across their two classes. -/
def order (a b : Datum) : Ordering :=
  match a, b with
  | integer i, integer j => compare i.toInt j.toInt
  | integer i, real x => Binary64.orderInt i.toInt x
  | real x, integer i => (Binary64.orderInt i.toInt x).swap
  | real x, real y => x.order y
  | a, b => (compare a.classRank b.classRank).then (orderBytes a.bytes b.bytes)

end Datum

end SqlClient.Embedded
