import SqlClient.Embedded.Token

namespace SqlClient.Embedded

/-!
# Keywords

Most words of the language are also names, some of them only where nothing else is expected.

* `reserved` — the words that are never names.
* `Lexeme.name?`, `bareName?`, `bareAlias?`, `reference?` — the name that a token is, in four
  kinds of places.
-/

/-- Words that are no names. -/
def reserved : List String :=
  ["add", "all", "alter", "and", "as", "autoincrement", "between", "case", "check", "collate",
   "commit", "constraint", "create", "default", "deferrable", "delete", "distinct", "drop",
   "else", "escape", "except", "exists", "foreign", "from", "group", "having", "in", "index",
   "insert", "intersect", "into", "is", "isnull", "join", "limit", "not", "nothing", "notnull",
   "null", "on", "or", "order", "primary", "references", "returning", "select", "set", "table",
   "then", "to", "transaction", "union", "unique", "update", "using", "values", "when", "where"]

/-- Words that are names, but neither of an item without the word before it nor of a type. -/
def joining : List String :=
  ["cross", "full", "indexed", "inner", "left", "natural", "outer", "right"]

/-- Words that compare, where they stand behind an expression. -/
def comparing : List String := ["glob", "like", "match", "regexp"]

/-- Names are the same in letters of any case. -/
def sameName (a b : String) : Bool := a.toLower = b.toLower

/-- The word is one of these, in letters of any case. -/
def isOneOf (words : List String) (s : String) : Bool := words.contains s.toLower

namespace Lexeme

/-- The name of a thing that is about to be named, which may be written as a text. -/
def name? : Lexeme → Option String
  | word s => if isOneOf reserved s then none else some s
  | quotedName _ s => some s
  | text s => some s
  | _ => none

/-- A word of a type, or the name of a table in its selection. -/
def bareName? : Lexeme → Option String
  | word s => if isOneOf (reserved ++ joining) s then none else some s
  | quotedName _ s => some s
  | text s => some s
  | _ => none

/-- The name of an item right behind its expression. -/
def bareAlias? : Lexeme → Option String
  | word s => if isOneOf (reserved ++ joining ++ comparing) s then none else some s
  | quotedName _ s => some s
  | text s => some s
  | _ => none

/-- The name of a column in an expression, and how it is written. -/
def reference? : Lexeme → Option (String × Quoting)
  | word s => if isOneOf reserved s then none else some (s, .bare)
  | quotedName quoting s => some (s, quoting)
  | _ => none

def isNumber : Lexeme → Bool
  | number _ => true
  | hexadecimal _ => true
  | separated _ => true
  | _ => false

end Lexeme

end SqlClient.Embedded
