import SqlClient.Embedded.Token

namespace SqlClient.Embedded

/-!
# Statements

The statements of the embedded database, as they are written.  Columns are referred to by
name; once a statement is prepared they are referred to by place.

* `Expr`, `Expr.bindRefs` — expressions over either kind of reference, and from one to the other.
* `Statement` — the statements.
-/

/-- A name in a statement, how it is written, the byte of the text where it stands, and
    whether it is called like a function. -/
structure NameRef where
  name : String
  quoting : Quoting
  offset : Nat
  called : Bool
deriving DecidableEq, Repr

/-- An expression; `Ref` is how it refers to columns. -/
inductive Expr (Ref : Type) where
  | literal (d : Datum)
  | parameter (number : Nat)
  | column (r : Ref)
  | absolute (e : Expr Ref)
  | cast (e : Expr Ref) (type : String)
deriving DecidableEq, Repr

namespace Expr

/-- Put an expression in the place of every reference, where there is one. -/
def bindRefs {A B E : Type} (f : A → Except E (Expr B)) : Expr A → Except E (Expr B)
  | literal d => .ok (literal d)
  | parameter n => .ok (parameter n)
  | column r => f r
  | absolute e => (bindRefs f e).map absolute
  | cast e type => (bindRefs f e).map (cast · type)

/-- The references of an expression, from left to right. -/
def refs {Ref : Type} : Expr Ref → List Ref
  | literal _ => []
  | parameter _ => []
  | column r => [r]
  | absolute e => refs e
  | cast e _ => refs e

/-- Neither columns nor functions. -/
def isConstant {Ref : Type} : Expr Ref → Bool
  | literal _ => true
  | parameter _ => true
  | column _ => false
  | absolute _ => false
  | cast e _ => isConstant e

end Expr

/-- Two expressions that have to be equal. -/
abbrev Filter (Ref : Type) := Option (Expr Ref × Expr Ref)

/-- A column of a table: its name, its type as declared, whether null is kept out, and the
    tables that it refers to. -/
structure ColumnDef where
  name : String
  declared : Option String
  notNull : Bool
  references : List String
deriving DecidableEq, Repr

/-- Something selected. -/
inductive Item where
  /-- every column -/
  | every
  /-- an expression, under the name given to it or its own text -/
  | one (e : Expr NameRef) (name : Option String) (source : String)
deriving DecidableEq, Repr

/-- One selection, of rows of a table or of a single row without one. -/
structure Selection where
  items : List Item
  source : Option String
  filter : Filter NameRef
deriving DecidableEq, Repr

/-- What rows are asked to be sorted by. -/
inductive OrderTerm where
  | named (r : NameRef)
  /-- something selected, counted from 1, and the byte of the text where the number stands -/
  | place (number offset : Nat)
deriving DecidableEq, Repr

/-- A statement. -/
inductive Statement where
  | createTable (name : String) (columns : List ColumnDef)
  | dropTable (name : String)
  | createIndex (name table : String) (column : NameRef)
  | insert (table : String) (rows : List (List (Expr NameRef)))
  | update (table : String) (changes : List (String × Expr NameRef)) (filter : Filter NameRef)
  | delete (table : String) (filter : Filter NameRef)
  /-- selections one after the other, sorted if an order is given -/
  | select (first : Selection) (others : List Selection) (order : Option OrderTerm)
  | begin
  | commit
  | rollback
deriving DecidableEq, Repr

/-- A statement about tables; the others never look at the database. -/
def Statement.usesTables : Statement → Bool
  | .select first others _ => (first :: others).any (·.source.isSome)
  | .begin => false
  | .commit => false
  | .rollback => false
  | _ => true

end SqlClient.Embedded
