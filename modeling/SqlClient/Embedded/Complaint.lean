import SqlClient.Text.Utf8

namespace SqlClient.Embedded

/-!
# Complaints

What the embedded database finds wrong with a statement, and where in its text.

* `Complaint` — the causes; `Complaint.text` — their wording.
* `Located` — a complaint, with the place it is about if it has one.
-/

/-- What is wrong with a statement. -/
inductive Complaint where
  | unexpected (token : String)
  | unrecognized (token : String)
  | incomplete
  | parameterNumber
  | hexadecimalTooBig (digits : String)
  | noSuchTable (name : String)
  | tableExists (name : String)
  | tableNamed (name : String)
  | indexExists (name : String)
  | indexNamed (name : String)
  | reservedName (name : String)
  | unknownTableOption (name : String)
  | duplicateColumn (name : String)
  | noSuchColumn (name : String)
  | noSuchFunction (name : String)
  | noTables
  | valueCount (table : String) (columns values : Nat)
  | unevenValues
  | unevenUnion
  /-- the place of a column to sort by, out of so many -/
  | orderRange (columns : Nat)
  | unmatchedOrder
  | notNull (table column : String)
  /-- a table refers to one that has no key -/
  | foreignKeyMismatch (child parent : String)
  | integerOverflow
  | notText (fault : Text.Utf8Fault) (column : Nat)
  /-- a column that a row does not have -/
  | noColumn (column : Nat)
  | parameterCount (given needed : Nat)
  | severalStatements
  | noStatement
  | nestedTransaction
  | nothingToCommit
  | nothingToRollBack
  | readOnly
  /-- another handle is in the way -/
  | locked
  /-- no file can be made beside the database file -/
  | noJournal
deriving DecidableEq, Repr

/-- The greatest number of a parameter. -/
def parameterLimit : Nat := 32766

namespace Complaint

/-- A name in double quotes, those inside it being doubled. -/
def quoted (name : String) : String :=
  "\"" ++ String.ofList (name.toList.flatMap fun c => if c = '"' then ['"', '"'] else [c]) ++ "\""

/-- The wording, without the place. -/
def text : Complaint → String
  | unexpected token => "near \"" ++ token ++ "\": syntax error"
  | unrecognized token => "unrecognized token: \"" ++ token ++ "\""
  | incomplete => "incomplete input"
  | parameterNumber => s!"variable number must be between ?1 and ?{parameterLimit}"
  | hexadecimalTooBig digits => "hex literal too big: " ++ digits
  | noSuchTable name => "no such table: " ++ name
  | tableExists name => "table " ++ name ++ " already exists"
  | tableNamed name => "there is already a table named " ++ name
  | indexExists name => "index " ++ name ++ " already exists"
  | indexNamed name => "there is already an index named " ++ name
  | reservedName name => "object name reserved for internal use: " ++ name
  | unknownTableOption name => "unknown table option: " ++ name
  | duplicateColumn name => "duplicate column name: " ++ name
  | noSuchColumn name => "no such column: " ++ name
  | noSuchFunction name => "no such function: " ++ name
  | noTables => "no tables specified"
  | valueCount table columns values =>
    "table " ++ table ++ s!" has {columns} columns but {values} values were supplied"
  | unevenValues => "all VALUES must have the same number of terms"
  | unevenUnion =>
    "SELECTs to the left and right of UNION ALL do not have the same number of result columns"
  | orderRange columns =>
    s!"1st ORDER BY term out of range - should be between 1 and {columns}"
  | unmatchedOrder => "1st ORDER BY term does not match any column in the result set"
  | notNull table column => "NOT NULL constraint failed: " ++ table ++ "." ++ column
  | foreignKeyMismatch child parent =>
    "foreign key mismatch - " ++ quoted child ++ " referencing " ++ quoted parent
  | integerOverflow => "integer overflow"
  | notText fault column => fault.message ++ s!" at index {column}"
  | noColumn column => s!"Invalid column index: {column}"
  | parameterCount given needed =>
    s!"Wrong number of parameters passed to query. Got {given}, needed {needed}"
  | severalStatements => "Multiple statements provided"
  | noStatement => "bad parameter or other API misuse"
  | nestedTransaction => "cannot start a transaction within a transaction"
  | nothingToCommit => "cannot commit - no transaction is active"
  | nothingToRollBack => "cannot rollback - no transaction is active"
  | readOnly => "attempt to write a readonly database"
  | locked => "database is locked"
  | noJournal => "unable to open database file"

/-- A complaint that may come of not knowing the tables as they are now. -/
def mayBeStale : Complaint → Bool
  | noSuchTable _ => true
  | noSuchColumn _ => true
  | tableExists _ => true
  | indexNamed _ => true
  | _ => false

end Complaint

/-- A complaint and the byte of the statement text it is about. -/
structure Located where
  complaint : Complaint
  offset : Option Nat
deriving DecidableEq, Repr

namespace Located

/-- The complaint about a text as a whole, or about its byte at an offset. -/
def message (l : Located) (sql : String) : String :=
  match l.offset with
  | none => l.complaint.text
  | some offset => l.complaint.text ++ " in " ++ sql ++ s!" at offset {offset}"

end Located

/-- A complaint about no place in particular. -/
def Complaint.anywhere (c : Complaint) : Located := ⟨c, none⟩

/-- A complaint about a byte of the text. -/
def Complaint.located (c : Complaint) (offset : Nat) : Located := ⟨c, some offset⟩

end SqlClient.Embedded
