import SqlClient.Embedded.Complaint
import SqlClient.Embedded.Keyword
import SqlClient.Embedded.Statement

namespace SqlClient.Embedded

/-!
# Reading statements

The tokens of a text are read as statements, the first token that does not go on with any
statement being complained about.

* `Reading` — reading from tokens.
* `StatementText.read` — the first statement of a text, and the text after it.
-/

/-- What is left of a statement text: tokens, the text itself, the number of the last
    parameter, and the numbers of those with names.  There never were more tokens than
    `fuel`, which is how often anything can be repeated. -/
structure Remaining where
  tokens : List Token
  fuel : Nat
  text : List Char
  lastParameter : Nat
  parameterNames : List (String × Nat)

/-- Reading from tokens, which may end in a complaint. -/
abbrev Reading (α : Type) := StateT Remaining (Except Located) α

namespace Reading

/-! ### Places and complaints -/

/-- The complaint about the next token: it is none, or it does not go here, or it is missing. -/
def unexpected (r : Remaining) : Located :=
  match r.tokens with
  | [] => Complaint.incomplete.anywhere
  | t :: _ =>
    let source := String.ofList t.source
    match t.lexeme with
    | .illegal => (Complaint.unrecognized source).located t.offset
    | _ => (Complaint.unexpected source).located t.offset

/-- Complain about the next token. -/
def refuse {α : Type} : Reading α := fun r => .error (unexpected r)

/-- End in a complaint about what was read, if the next token or the end of the text may
    follow it; else it is the next token that is complained about. -/
def complain {α : Type} (follows : Option Lexeme → Bool) (l : Located) : Reading α := fun r =>
  if follows (r.tokens.head?.map (·.lexeme)) then .error l else .error (unexpected r)

/-- The end of a statement. -/
def isEnd : Option Lexeme → Bool
  | none => true
  | some l => l = .mark ";"

/-- What a list may go on with, or what ends it. -/
def isEndOrComma (l : Option Lexeme) : Bool := isEnd l || l = some (.mark ",")

/-- The token may follow an expression. -/
def followsExpression : Option Lexeme → Bool
  | none => true
  | some (.mark m) => ["(", ".", "~"].all (· ≠ m)
  | some l => l.bareAlias?.isSome || match l with
    | .word _ => true
    | _ => false

/-- The token may follow the name and the type of a new column. -/
def followsColumn : Option Lexeme → Bool
  | some (.mark m) => m = "," || m = ")"
  | some (.word s) =>
    isOneOf ["as", "check", "collate", "constraint", "default", "deferrable", "not", "null",
      "primary", "references", "unique"] s
  | _ => false

/-! ### Single tokens -/

/-- The next token, which stays where it is. -/
def peek : Reading (Option Lexeme) := fun r => .ok (r.tokens.head?.map (·.lexeme), r)

/-- Take the next token. -/
def skip : Reading Unit := fun r => .ok ((), { r with tokens := r.tokens.drop 1 })

/-- The byte at which the next token starts, if there is one. -/
def offset : Reading Nat := fun r => .ok ((r.tokens.head?.map (·.offset)).getD 0, r)

/-- The next token is this word, in letters of any case. -/
def atWord (w : String) : Reading Bool := do
  match ← peek with
  | some (.word s) => return s.toLower = w
  | _ => return false

/-- The next token is this mark. -/
def atMark (m : String) : Reading Bool := return (← peek) = some (.mark m)

/-- Take a word if it comes next. -/
def optionalWord (w : String) : Reading Bool := do
  if ← atWord w then
    skip
    return true
  else return false

/-- Take a mark if it comes next. -/
def optionalMark (m : String) : Reading Bool := do
  if ← atMark m then
    skip
    return true
  else return false

/-- Take a word that has to come next. -/
def word (w : String) : Reading Unit := do
  if ← optionalWord w then return () else refuse

/-- Take a mark that has to come next. -/
def mark (m : String) : Reading Unit := do
  if ← optionalMark m then return () else refuse

/-- Take a token of a kind if it comes next. -/
def optionalToken {α : Type} (kind : Lexeme → Option α) : Reading (Option α) := do
  match (← peek).bind kind with
  | some a => do skip; return some a
  | none => return none

/-- Take a token of a kind that has to come next. -/
def token {α : Type} (kind : Lexeme → Option α) : Reading α := do
  match ← optionalToken kind with
  | some a => return a
  | none => refuse

/-- The name of a thing. -/
def name : Reading String := token Lexeme.name?

/-- The name of a column, and where it stands. -/
def nameRef : Reading NameRef := do
  let offset ← offset
  let (name, quoting) ← token Lexeme.reference?
  return ⟨name, quoting, offset, false⟩

/-! ### Lists and sources -/

/-- One or more things with commas between them; no more than there are tokens. -/
def separated {α : Type} (one : Reading α) : Nat → Reading (List α)
  | 0 => refuse
  | fuel + 1 => do
    let a ← one
    if ← optionalMark "," then
      let rest ← separated one fuel
      return a :: rest
    else return [a]

/-- Repeat something no more often than there are tokens. -/
def withFuel {α : Type} (f : Nat → Reading α) : Reading α := fun r => f (r.fuel + 1) r

/-- One or more things with commas between them. -/
def list {α : Type} (one : Reading α) : Reading (List α) := withFuel (separated one)

/-- What a reading reads, and the characters from its first token to the token after it;
    comments among them, but no white space at the end. -/
def withSource {α : Type} (one : Reading α) : Reading (α × String) := fun r =>
  let start (r : Remaining) : Nat :=
    (r.tokens.head?.map (·.start)).getD (Token.untilNul r.text).length
  match one r with
  | .error e => .error e
  | .ok (a, rest) =>
    let source := (r.text.drop (start r)).take (start rest - start r)
    .ok ((a, String.ofList (source.reverse.dropWhile isNumberSpace).reverse), rest)

/-! ### Types -/

/-- A number with a sign, as the size of a type. -/
def size : Reading Unit := do
  unless ← optionalMark "+" do discard (optionalMark "-")
  token fun
    | .number _ => some ()
    | .hexadecimal _ => some ()
    | _ => none

/-- One size or two in brackets, if there is a bracket. -/
def sizes : Reading Unit := do
  if ← optionalMark "(" then
    size
    if ← optionalMark "," then size
    mark ")"

/-- The words of a type, and sizes after them. -/
def typeWords : Nat → Reading Unit
  | 0 => return ()
  | fuel + 1 => do
    match ← optionalToken Lexeme.bareName? with
    | some _ => typeWords fuel
    | none => sizes

/-- A type, if there is a word of one. -/
def typeTokens : Reading Unit := do
  match (← peek).bind Lexeme.bareName? with
  | some _ => withFuel typeWords
  | none => return ()

/-- What is inside the quotes of a text that starts with one. -/
def unquoted (cs : List Char) : List Char :=
  match cs with
  | [] => []
  | c :: rest =>
    let inner : Option (List Char × Nat) :=
      if c = '"' ∨ c = '\'' ∨ c = '\x60' then Token.spanQuoted c rest
      else if c = '[' then Token.spanBracketed rest
      else none
    (inner.map (·.1)).getD (c :: rest)

/-- The types that are told in capitals however they were written. -/
def standardTypes : List String := ["ANY", "BLOB", "INT", "INTEGER", "REAL", "TEXT"]

/-- A type as it is told. -/
def standardType (declared : String) : String :=
  let upper := declared.map Char.toUpper
  if standardTypes.contains upper then upper else declared

/-- The type of a column, as it is written but for quotes around it.  The text ends at the
    last token of the type. -/
def typeText : Reading (Option String) := fun r =>
  match typeTokens r with
  | .error e => .error e
  | .ok ((), rest) =>
    match r.tokens.take (r.tokens.length - rest.tokens.length) with
    | [] => .ok (none, rest)
    | first :: others =>
      let last := others.getLast?.getD first
      let source := (r.text.drop first.start).take (last.stop - first.start)
      .ok (some (String.ofList (unquoted source)), rest)

/-! ### Columns -/

/-- Whether null is allowed or kept out, and the tables that are referred to, said any number
    of times. -/
def constraints : Nat → Reading (Bool × List String)
  | 0 => return (false, [])
  | fuel + 1 => do
    if ← optionalWord "null" then constraints fuel
    else if ← optionalWord "not" then
      word "null"
      let (_, references) ← constraints fuel
      return (true, references)
    else if ← optionalWord "references" then
      let table ← name
      let (notNull, references) ← constraints fuel
      return (notNull, table :: references)
    else return (false, [])

/-- The columns of a new table, none of which may have the name of one before it. -/
def columnDefs : Nat → List String → Reading (List ColumnDef)
  | 0, _ => refuse
  | fuel + 1, before => do
    let name ← name
    let type ← typeText
    if before.any (sameName name) then
      complain followsColumn (Complaint.duplicateColumn name).anywhere
    else
      let (notNull, references) ← withFuel constraints
      let column : ColumnDef := ⟨name, type.map standardType, notNull, references⟩
      if ← optionalMark "," then
        let rest ← columnDefs fuel (before ++ [name])
        return column :: rest
      else return [column]

/-! ### Expressions -/

/-- The datum of a number that is written without underscores. -/
def plainDatum (negative : Bool) (offset : Nat) : Lexeme → Except Located Datum
  | .hexadecimal digits =>
    let value := digits.foldl (fun n c => 16 * n + (Text.hexDigit? c).getD 0) 0
    let tooBig := 16 < (digits.dropWhile (· = '0')).length ∨ negative ∧ value = 2 ^ 63
    if tooBig then
      .error ((Complaint.hexadecimalTooBig
        ((if negative then "-0x" else "0x") ++ String.ofList digits)).located offset)
    else
      let i := Int64.ofNat value
      .ok (.integer (if negative then -i else i))
  | .number n => .ok (n.datum negative)
  | _ => .ok .null

/-- A number, after a sign or not. -/
def number (negative : Bool) : Reading Datum := do
  let offset ← offset
  let lexeme ← token fun l => if l.isNumber then some l else none
  match lexeme with
  | .separated cs =>
    match Token.separatedNumber? cs with
    | some lexeme => plainDatum negative offset lexeme
    | none =>
      complain followsExpression (Complaint.unrecognized (String.ofList cs)).anywhere
  | lexeme => plainDatum negative offset lexeme

/-- A parameter by its number: one without a number has the number after the last. -/
def numbered (number : Option Nat) : Reading Nat := do
  let offset ← offset
  skip
  let r ← get
  let n := number.getD (r.lastParameter + 1)
  if 1 ≤ n ∧ n ≤ parameterLimit then
    set { r with lastParameter := max n r.lastParameter }
    return n
  else complain followsExpression (Complaint.parameterNumber.located offset)

/-- A parameter by its name: a new name has the number after the last. -/
def named (name : String) : Reading Nat := do
  skip
  let r ← get
  match r.parameterNames.find? (·.1 = name) with
  | some p => return p.2
  | none =>
    let n := r.lastParameter + 1
    set { r with lastParameter := n, parameterNames := (name, n) :: r.parameterNames }
    return n

/-- A function of an expression, its name and the opening bracket having been read.  That
    there is no other function than two is found out when the name is looked up. -/
def call (r : NameRef) (argument : Reading (Expr NameRef)) : Reading (Expr NameRef) := do
  match r.name.toLower with
  | "cast" => do
    let e ← argument
    word "as"
    let type ← typeText
    mark ")"
    return .cast e (type.getD "")
  | "abs" => do
    let e ← argument
    mark ")"
    return .absolute e
  | _ => do
    unless ← optionalMark "*" do
      unless ← atMark ")" do discard (list argument)
    mark ")"
    return .column { r with called := true }

/-- An expression; `fuel` bounds how deep functions are nested. -/
def expr : Nat → Reading (Expr NameRef)
  | 0 => refuse
  | fuel + 1 => do
    match ← peek with
    | some (.text s) => do skip; return .literal (.text s)
    | some (.blob bytes) => do skip; return .literal (.blob bytes)
    | some (.parameter n) => return .parameter (← numbered n)
    | some (.namedParameter s) => return .parameter (← named s)
    | some (.mark "-") => do skip; return .literal (← number true)
    | some (.mark "+") => do skip; expr fuel
    | some (.mark "(") => do
      skip
      let e ← expr fuel
      mark ")"
      return e
    | _ =>
      if (← peek).any Lexeme.isNumber then return .literal (← number false)
      else if ← optionalWord "null" then return .literal .null
      else
        let r ← nameRef
        if ← optionalMark "(" then call r (expr fuel) else return .column r

/-- An expression. -/
def expression : Reading (Expr NameRef) := withFuel expr

/-- Two expressions with an equals sign between them, if the next word asks for them. -/
def filter : Reading (Filter NameRef) := do
  if ← optionalWord "where" then
    let left ← expression
    unless ← optionalMark "==" do mark "="
    let right ← expression
    return some (left, right)
  else return none

/-! ### Selections -/

/-- Something selected. -/
def item : Reading Item := do
  if ← optionalMark "*" then return .every
  else
    let (e, source) ← withSource expression
    if ← optionalWord "as" then return .one e (some (← name)) source
    else return .one e (← optionalToken Lexeme.bareAlias?) source

/-- The table of a selection, which may be given another name that nobody uses. -/
def source : Reading (Option String) := do
  if ← optionalWord "from" then
    let table ← name
    if ← optionalWord "as" then discard name
    else discard (optionalToken Lexeme.bareName?)
    return some table
  else return none

/-- A selection, the word it begins with having been read. -/
def selection : Reading Selection := do
  let items ← list item
  let source ← source
  let filter ← filter
  return ⟨items, source, filter⟩

/-- Further selections; no more than there are tokens. -/
def moreSelections : Nat → Reading (List Selection)
  | 0 => return []
  | fuel + 1 => do
    if ← optionalWord "union" then
      word "all"
      word "select"
      let first ← selection
      let rest ← moreSelections fuel
      return first :: rest
    else return []

/-- What to sort by: a name, or a place among what is selected. -/
def orderTerm : Reading OrderTerm := do
  let offset ← offset
  match ← peek with
  | some (.number n) =>
    if n.isWhole then do
      skip
      return .place (Text.digitsValue n.whole) offset
    else refuse
  | _ => return .named (← nameRef)

/-! ### Changes -/

/-- Rows of values.  A row without columns and functions in it has to be as long as the one
    before it; the others are looked at later. -/
def valueRows : Nat → Option Nat → Reading (List (List (Expr NameRef)))
  | 0, _ => refuse
  | fuel + 1, width => do
    mark "("
    let values ← list expression
    mark ")"
    let constant := values.all (·.isConstant)
    if constant && width.any (· ≠ values.length) then
      complain isEndOrComma Complaint.unevenValues.anywhere
    else if ← optionalMark "," then
      let rest ← valueRows fuel (if constant then some values.length else none)
      return values :: rest
    else return [values]

/-- A column and its new value. -/
def change : Reading (String × Expr NameRef) := do
  let column ← name
  mark "="
  let e ← expression
  return (column, e)

/-! ### Statements -/

/-- Tables have no options, so a word behind the columns of a new one is none. -/
def tableOptions : Reading Unit := do
  let comma ← optionalMark ","
  let r ← get
  match r.tokens with
  | t :: _ =>
    if t.lexeme.name?.isSome then
      skip
      complain isEndOrComma (Complaint.unknownTableOption (String.ofList t.source)).anywhere
    else if comma then refuse
  | [] => if comma then refuse

def createStatement : Reading Statement := do
  if ← optionalWord "table" then
    let table ← name
    mark "("
    let columns ← withFuel fun fuel => columnDefs fuel []
    mark ")"
    tableOptions
    return .createTable table columns
  else
    word "index"
    let index ← name
    word "on"
    let table ← name
    mark "("
    let offset ← offset
    let column ← name
    mark ")"
    return .createIndex index table ⟨column, .strict, offset, false⟩

def selectStatement : Reading Statement := do
  let first ← selection
  let others ← withFuel moreSelections
  let order ← if ← optionalWord "order" then do
      word "by"
      some <$> orderTerm
    else pure none
  return .select first others order

/-- A statement. -/
def statement : Reading Statement := do
  if ← optionalWord "select" then selectStatement
  else if ← optionalWord "create" then createStatement
  else if ← optionalWord "drop" then
    word "table"
    return .dropTable (← name)
  else if ← optionalWord "insert" then
    word "into"
    let table ← name
    word "values"
    return .insert table (← withFuel fun fuel => valueRows fuel none)
  else if ← optionalWord "update" then
    let table ← name
    word "set"
    let changes ← list change
    return .update table changes (← filter)
  else if ← optionalWord "delete" then
    word "from"
    let table ← name
    return .delete table (← filter)
  else if ← optionalWord "begin" then
    discard (optionalWord "transaction")
    return .begin
  else if ← optionalWord "commit" then
    discard (optionalWord "transaction")
    return .commit
  else if ← optionalWord "rollback" then
    discard (optionalWord "transaction")
    return .rollback
  else refuse

/-- A statement up to a semicolon or the end of the text. -/
def terminated : Reading Statement := do
  let s ← statement
  if isEnd (← peek) then return s else refuse

end Reading

/-- A statement read from a text: how many parameters it needs, and the text after it. -/
structure ReadStatement where
  statement : Statement
  parameters : Nat
  rest : List Char

/-- A table that a text goes on to create: its name, and how and where it is written. -/
structure NewTable where
  name : String
  source : String
  offset : Nat

namespace Statement

/-- The statement that tokens of a text begin with, if there are any. -/
def readFirst (text : List Char) (tokens : List Token) : Except Located (Option ReadStatement) :=
  match tokens with
  | [] => .ok none
  | _ => do
    let (s, r) ← Reading.terminated ⟨tokens, tokens.length, text, 0, []⟩
    let rest := match r.tokens with
      | [] => []
      | t :: _ => text.drop t.stop
    .ok (some ⟨s, r.lastParameter, rest⟩)

/-- The table that tokens go on to create, if a bracket follows its name, whatever there is
    behind the bracket. -/
def newTable? : List Token → Option NewTable
  | create :: table :: t :: bracket :: _ =>
    match create.lexeme, table.lexeme, t.lexeme.name? with
    | .word c, .word w, some name =>
      if c.toLower = "create" ∧ w.toLower = "table" ∧ bracket.lexeme = .mark "(" then
        some ⟨name, String.ofList t.source, t.offset⟩
      else none
    | _, _, _ => none
  | _ => none

end Statement

/-- The first statement of a text, if there is one in it and nothing is wrong with it; and in
    any case the table it goes on to create. -/
structure StatementText where
  newTable : Option NewTable
  statement : Except Located (Option ReadStatement)

namespace StatementText

/-- Read a text up to the end of its first statement. -/
def read (text : List Char) : StatementText :=
  let tokens := (Token.scan text).dropWhile fun t => t.lexeme = .mark ";"
  ⟨Statement.newTable? tokens, Statement.readFirst text tokens⟩

/-- A database has to be known to prepare the statement. -/
def needsDatabase (t : StatementText) : Bool :=
  t.newTable.isSome ||
    match t.statement with
    | .ok (some r) => r.statement.usesTables
    | _ => false

end StatementText

end SqlClient.Embedded
