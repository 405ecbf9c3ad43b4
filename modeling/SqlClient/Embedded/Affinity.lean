import SqlClient.ColumnType
import SqlClient.Embedded.Numeral
import SqlClient.Embedded.RealText

namespace SqlClient.Embedded

/-!
# Affinity

A column prefers data of one class, named by words in its declared type, and converts what
is stored in it where nothing is lost.

* `Affinity.ofDeclared` — the preference of a declared type.
* `Affinity.apply` — the conversion.
-/

/-- What a column prefers. -/
inductive Affinity where
  | integer
  | text
  | none
  | real
  | numeric
deriving DecidableEq, Repr

namespace Affinity

/-- The words that name an affinity, in the order they are looked for. -/
def rules : List (List String × Affinity) :=
  [(["INT"], integer), (["CHAR", "CLOB", "TEXT"], text), (["BLOB"], none),
   (["REAL", "FLOA", "DOUB"], real)]

/-- The affinity of a declared type; a column without one prefers nothing. -/
def ofDeclared (declared : Option String) : Affinity :=
  match declared with
  | .none => none
  | some d =>
    let upper := d.toList.map Char.toUpper
    match rules.find? fun rule => rule.1.any fun word => ColumnType.occurs word.toList upper with
    | some rule => rule.2
    | .none => numeric

end Affinity

/-! ### Conversion -/

/-- A whole double as an integer, unless it is at an end of the integers. -/
def wholeToInteger (x : Binary64) : Datum :=
  let i := x.toInt
  if x.isFinite ∧ (Binary64.orderInt i x) = .eq ∧ -2 ^ 63 < i ∧ i < 2 ^ 63 - 1 then
    .integer (Int64.ofInt i)
  else .real x

namespace Affinity

/-- A number for text that is one, and an integer for a whole double. -/
def toNumber : Datum → Datum
  | .text s =>
    match numberOfText? s with
    | some (.real x) => wholeToInteger x
    | some d => d
    | .none => .text s
  | .real x => wholeToInteger x
  | d => d

/-- A double for every number. -/
def toReal (d : Datum) : Datum :=
  match toNumber d with
  | .integer i => .real (Binary64.ofInt i.toInt)
  | d => d

/-- Text for every number. -/
def toText : Datum → Datum
  | .integer i => .text (toString i.toInt)
  | .real x => .text (realText x)
  | d => d

/-- What a column stores for a datum. -/
def apply (a : Affinity) (d : Datum) : Datum :=
  match a with
  | integer => toNumber d
  | text => toText d
  | none => d
  | real => toReal d
  | numeric => toNumber d

/-- The column prefers numbers. -/
def isNumber (a : Affinity) : Bool := a = integer || a = real || a = numeric

end Affinity

end SqlClient.Embedded
