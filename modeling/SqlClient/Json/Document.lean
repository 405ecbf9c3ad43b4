import SqlClient.Json
import SqlClient.Json.Numeral

namespace SqlClient

/-!
# Reading JSON

A document is JSON as it is written: numbers are numerals, and escapes inside quotes are
kept as code units.  Whether a numeral is in range or code units pair up is asked only of
the parts that are used.

* `Document.ofText?` — the document a text holds, white space around it allowed.
* `Document.toText?`, `Document.toJson?` — the text or the value a document stands for.
-/

/-- A piece of text inside quotes: a character, or the code unit of an escape. -/
inductive TextUnit where
  | char (c : Char)
  | unit (code : Nat)
deriving DecidableEq, Repr

/-- JSON as it is written. -/
inductive Document where
  | null
  | bool (b : Bool)
  | number (n : Numeral)
  | text (units : List TextUnit)
  | array (items : List Document)
  | object (members : List (List TextUnit × Document))
deriving Repr

namespace Document

/-! ### Text inside quotes -/

/-- White space between the parts of a document. -/
def skipSpace (cs : List Char) : List Char :=
  cs.dropWhile fun c => c = ' ' || c = '\n' || c = '\r' || c = '\t'

/-- The character a one-letter escape stands for. -/
def shortEscape? : Char → Option Char
  | '"' => some '"'
  | '\\' => some '\\'
  | '/' => some '/'
  | 'b' => some '\x08'
  | 'f' => some '\x0c'
  | 'n' => some '\n'
  | 'r' => some '\r'
  | 't' => some '\t'
  | _ => none

/-- The code unit of four hexadecimal digits. -/
def codeUnit? (a b c d : Char) : Option Nat := do
  let a ← Text.hexDigit? a
  let b ← Text.hexDigit? b
  let c ← Text.hexDigit? c
  let d ← Text.hexDigit? d
  some (4096 * a + 256 * b + 16 * c + d)

/-- The units up to the closing quote, and what follows it.  Controls must be escaped. -/
def readUnits? : List Char → Option (List TextUnit × List Char)
  | [] => none
  | '"' :: rest => some ([], rest)
  | '\\' :: 'u' :: a :: b :: c :: d :: rest => do
    let code ← codeUnit? a b c d
    let (units, rest) ← readUnits? rest
    some (.unit code :: units, rest)
  | '\\' :: c :: rest => do
    let c ← shortEscape? c
    let (units, rest) ← readUnits? rest
    some (.char c :: units, rest)
  | c :: rest =>
    if c.toNat < 0x20 ∨ c = '\\' then none
    else do
      let (units, rest) ← readUnits? rest
      some (.char c :: units, rest)

/-- The code point of a pair of surrogates. -/
def pairCode (high low : Nat) : Nat := 0x10000 + (high - 0xd800) * 0x400 + (low - 0xdc00)

/-- The characters the units stand for.  Surrogates must come in pairs. -/
def decodeUnits? : List TextUnit → Option (List Char)
  | [] => some []
  | .char c :: rest => (decodeUnits? rest).map (c :: ·)
  | .unit high :: .unit low :: rest =>
    if 0xd800 ≤ high ∧ high < 0xdc00 then
      if 0xdc00 ≤ low ∧ low < 0xe000 then
        (decodeUnits? rest).map (Char.ofNat (pairCode high low) :: ·)
      else none
    else if 0xdc00 ≤ high ∧ high < 0xe000 then none
    else (decodeUnits? (.unit low :: rest)).map (Char.ofNat high :: ·)
  | .unit code :: rest =>
    if 0xd800 ≤ code ∧ code < 0xe000 then none
    else (decodeUnits? rest).map (Char.ofNat code :: ·)

/-- The text the units stand for. -/
def textOf? (units : List TextUnit) : Option String := (decodeUnits? units).map String.ofList

/-! ### Documents -/

/-- Take a word off the front. -/
def expect? (word : String) (cs : List Char) : Option (List Char) :=
  if word.toList.isPrefixOf cs then some (cs.drop word.toList.length) else none

mutual

/-- A document at the front of a text.  Each step takes a character, so the length of the
    text is fuel enough. -/
def readValue? : Nat → List Char → Option (Document × List Char)
  | 0, _ => none
  | fuel + 1, cs =>
    match skipSpace cs with
    | '"' :: rest => (readUnits? rest).map fun (units, rest) => (.text units, rest)
    | '[' :: rest =>
      match skipSpace rest with
      | ']' :: rest => some (.array [], rest)
      | rest => (readItems? fuel rest).map fun (items, rest) => (.array items, rest)
    | '\x7b' :: rest =>
      match skipSpace rest with
      | '\x7d' :: rest => some (.object [], rest)
      | rest => (readMembers? fuel rest).map fun (members, rest) => (.object members, rest)
    | 'n' :: rest => (expect? "ull" rest).map fun rest => (.null, rest)
    | 't' :: rest => (expect? "rue" rest).map fun rest => (.bool true, rest)
    | 'f' :: rest => (expect? "alse" rest).map fun rest => (.bool false, rest)
    | rest => (Numeral.read? rest).map fun (n, rest) => (.number n, rest)

/-- One or more items up to the closing bracket. -/
def readItems? : Nat → List Char → Option (List Document × List Char)
  | 0, _ => none
  | fuel + 1, cs => do
    let (item, cs) ← readValue? fuel cs
    match skipSpace cs with
    | ',' :: rest => (readItems? fuel rest).map fun (items, rest) => (item :: items, rest)
    | ']' :: rest => some ([item], rest)
    | _ => none

/-- One or more members up to the closing brace. -/
def readMembers? : Nat → List Char → Option (List (List TextUnit × Document) × List Char)
  | 0, _ => none
  | fuel + 1, cs =>
    match skipSpace cs with
    | '"' :: rest => do
      let (name, cs) ← readUnits? rest
      match skipSpace cs with
      | ':' :: rest =>
        let (value, cs) ← readValue? fuel rest
        match skipSpace cs with
        | ',' :: rest =>
          (readMembers? fuel rest).map fun (members, rest) => ((name, value) :: members, rest)
        | '\x7d' :: rest => some ([(name, value)], rest)
        | _ => none
      | _ => none
    | _ => none

end

/-- The document a text holds; nothing may follow it. -/
def ofText? (s : String) : Option Document := do
  let (d, rest) ← readValue? (s.toList.length + 1) s.toList
  if skipSpace rest = [] then some d else none

/-! ### What documents stand for -/

def toText? : Document → Option String
  | text units => textOf? units
  | _ => none

def toBool? : Document → Option Bool
  | bool b => some b
  | _ => none

def toInt? : Document → Option Int
  | number n => n.toInt?
  | _ => none

def toBinary64? : Document → Option Binary64
  | number n => n.toBinary64?
  | _ => none

/-- The items of an array. -/
def toItems? : Document → Option (List Document)
  | array items => some items
  | _ => none

/-- The members of an object under their names. -/
def toMembers? : Document → Option (List (String × Document))
  | object members => members.mapM fun m => (textOf? m.1).map fun name => (name, m.2)
  | _ => none

mutual

/-- The value a document stands for.  A name that comes again takes the later value. -/
def toJson? : Document → Option Json
  | null => some .null
  | bool b => some (.bool b)
  | number n =>
    match n.toInt? with
    | some i => some (.int i)
    | none => n.toBinary64?.map .float
  | text units => (textOf? units).map .text
  | array items => (itemsToJson? items).map .array
  | object members => (membersToJson? members).map Json.objectOf

def itemsToJson? : List Document → Option (List Json)
  | [] => some []
  | d :: rest => do
    let j ← d.toJson?
    let items ← itemsToJson? rest
    some (j :: items)

def membersToJson? : List (List TextUnit × Document) → Option (List (String × Json))
  | [] => some []
  | (name, d) :: rest => do
    let name ← textOf? name
    let j ← d.toJson?
    let members ← membersToJson? rest
    some ((name, j) :: members)

end

end Document

/-- The value a JSON text holds. -/
def Json.ofText? (s : String) : Option Json := (Document.ofText? s).bind Document.toJson?

end SqlClient
