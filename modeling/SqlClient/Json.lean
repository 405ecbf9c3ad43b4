import SqlClient.Binary64.Decimal
import SqlClient.Text.Digits

namespace SqlClient

/-!
# JSON

A JSON value and its compact text, without white space.  Members of an object keep their
order.

* `Json` — the tree.
* `Json.chars`, `Json.print` — the text.
* `Json.objectOf` — an object from members of which some may share a name.
-/

/-- A JSON value. -/
inductive Json where
  | null
  | bool (b : Bool)
  | int (i : Int)
  | float (x : Binary64)
  | text (s : String)
  | array (items : List Json)
  | object (members : List (String × Json))
deriving Repr

namespace Json

/-- How doubles are written: a whole number ends in a zero, exponents from 16 on and below
    -5 are marked. -/
def numberStyle : NumberStyle where
  wholeEnd := ".0"
  positional := some (-5, 16)
  exponentPlus := true
  tie := .even

/-! ### Text -/

/-- A character inside quotes.  Quotes, backslashes and controls are escaped. -/
def escapeChar (c : Char) : List Char :=
  if c = '"' then ['\\', '"']
  else if c = '\\' then ['\\', '\\']
  else if c = '\x08' then ['\\', 'b']
  else if c = '\x0c' then ['\\', 'f']
  else if c = '\n' then ['\\', 'n']
  else if c = '\r' then ['\\', 'r']
  else if c = '\t' then ['\\', 't']
  else if c.toNat < 0x20 then '\\' :: 'u' :: '0' :: '0' :: Text.hexByte (UInt8.ofNat c.toNat)
  else [c]

/-- A text in quotes. -/
def quoted (s : String) : List Char := '"' :: s.toList.flatMap escapeChar ++ ['"']

/-- The text of a double; numbers that are not finite have none and are null. -/
def floatChars (x : Binary64) : List Char :=
  if x.isFinite then (numberStyle.text x).toList else "null".toList

mutual

/-- The compact text of a value. -/
def chars : Json → List Char
  | null => "null".toList
  | bool b => (if b then "true" else "false").toList
  | int i => (toString i).toList
  | float x => floatChars x
  | text s => quoted s
  | array items => '[' :: itemsChars items ++ [']']
  | object members => '\x7b' :: membersChars members ++ ['\x7d']

/-- The items of an array, commas between them. -/
def itemsChars : List Json → List Char
  | [] => []
  | [item] => item.chars
  | item :: rest => item.chars ++ ',' :: itemsChars rest

/-- The members of an object, commas between them. -/
def membersChars : List (String × Json) → List Char
  | [] => []
  | [(name, value)] => quoted name ++ ':' :: value.chars
  | (name, value) :: rest => quoted name ++ ':' :: value.chars ++ ',' :: membersChars rest

end

/-- The compact text of a value. -/
def print (j : Json) : String := String.ofList j.chars

/-! ### Objects by name -/

/-- Put a member into an object: a name it has already keeps its place and takes the value. -/
def put {α : Type} (name : String) (value : α) : List (String × α) → List (String × α)
  | [] => [(name, value)]
  | (n, v) :: rest => if n = name then (n, value) :: rest else (n, v) :: put name value rest

/-- Members put one after the other; each name stands where it came first, with the value
    that came last. -/
def collect {α : Type} (members : List (String × α)) : List (String × α) :=
  members.foldl (fun done m => put m.1 m.2 done) []

/-- The object with these members. -/
def objectOf (members : List (String × Json)) : Json := object (collect members)

/-- The value of a member. -/
def field? (j : Json) (name : String) : Option Json :=
  match j with
  | object members => (members.find? (·.1 = name)).map (·.2)
  | _ => none

/-- An array of bytes. -/
def ofBytes (bytes : List UInt8) : Json := array (bytes.map fun b => int b.toNat)

end Json

end SqlClient
