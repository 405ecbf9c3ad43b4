namespace SqlClient

/-!
# Column types

Columns of a table have one of seven types.  A type declared in the database may settle
which.

* `ColumnType.ofDeclared?` — the first rule whose word occurs in the declared type.
* `ColumnType.affinityRules` — the words of each rule.
-/

/-- The type of a column; `null` when there is nothing to go by. -/
inductive ColumnType where
  | null
  | int64
  | float64
  | utf8
  | boolean
  | timestamp
  | binary
deriving DecidableEq, Repr

namespace ColumnType

/-- Every column type. -/
def all : List ColumnType := [null, int64, float64, utf8, boolean, timestamp, binary]

def name : ColumnType → String
  | null => "Null"
  | int64 => "Int64"
  | float64 => "Float64"
  | utf8 => "Utf8"
  | boolean => "Boolean"
  | timestamp => "Timestamp"
  | binary => "Binary"

/-- The type with this name. -/
def ofName? (s : String) : Option ColumnType := all.find? (·.name = s)

/-! ### Declared types -/

/-- `word` stands somewhere in the text. -/
def occurs (word : List Char) : List Char → Bool
  | [] => word.isEmpty
  | c :: cs => word.isPrefixOf (c :: cs) || occurs word cs

/-- The words that settle a type, in the order they are looked for.  Booleans and
    timestamps come first, having no affinity of their own. -/
def affinityRules : List (List String × ColumnType) :=
  [(["BOOL"], boolean), (["DATE", "TIME"], timestamp), (["INT"], int64),
   (["CHAR", "CLOB", "TEXT"], utf8), (["REAL", "FLOA", "DOUB"], float64), (["BLOB"], binary)]

/-- The type a declared type stands for, whatever the case of its letters; none when the
    values have to tell. -/
def ofDeclared? (declared : String) : Option ColumnType :=
  let upper := declared.toList.map Char.toUpper
  (affinityRules.find? fun rule => rule.1.any fun word => occurs word.toList upper).map (·.2)

end ColumnType

end SqlClient
