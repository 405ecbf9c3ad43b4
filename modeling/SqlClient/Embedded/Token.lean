import SqlClient.Embedded.Numeral

namespace SqlClient.Embedded

/-!
# Tokens

A statement text is cut into tokens, each knowing where it stands.  White space and
comments are between tokens.  The text ends at its first NUL, and the cutting stops at a
token that is none.

* `Lexeme`, `Token` — the tokens.
* `Token.scan` — the tokens of a text, in order.
-/

/-- How a name is written. -/
inductive Quoting where
  | bare
  /-- in double quotes, which may also stand for a text -/
  | double
  /-- in back quotes or square brackets -/
  | strict
deriving DecidableEq, Repr

/-- What a token is. -/
inductive Lexeme where
  | word (s : String)
  | quotedName (quoting : Quoting) (s : String)
  | number (n : Numeral)
  | hexadecimal (digits : List Char)
  /-- a number of either kind with underscores in it -/
  | separated (cs : List Char)
  | text (s : String)
  | blob (bytes : List UInt8)
  /-- a parameter, with its number if it has one -/
  | parameter (number : Option Nat)
  | namedParameter (name : String)
  | mark (s : String)
  | illegal
deriving DecidableEq, Repr

/-- A token, its characters, and how many characters and bytes of the text are before it. -/
structure Token where
  lexeme : Lexeme
  source : List Char
  start : Nat
  offset : Nat
deriving DecidableEq, Repr

namespace Token

/-- The place of the character after the token. -/
def stop (t : Token) : Nat := t.start + t.source.length

/-! ### Characters -/

/-- Characters that names start with. -/
def isNameStart (c : Char) : Bool := c.isAlpha || c = '_' || 0x80 ≤ c.toNat

/-- Characters that names go on with. -/
def isNameChar (c : Char) : Bool := isNameStart c || c.isDigit || c = '$'

/-- White space between tokens starts with one of these; any white space may follow. -/
def isSpaceStart (c : Char) : Bool := isNumberSpace c && c ≠ '\x0b'

/-- The mark of byte order, which is skipped where a token could start. -/
def isByteOrderMark (c : Char) : Bool := c = '\uFEFF'

/-! ### Names, texts and comments -/

/-- The characters up to a closing quote, in which the quote itself is doubled; and how many
    characters of the text they take, both quotes counted. -/
def spanQuoted (quote : Char) : List Char → Option (List Char × Nat)
  | [] => none
  | c :: rest =>
    if c = quote then
      match rest with
      | [] => some ([], 2)
      | d :: rest =>
        if d = quote then (spanQuoted quote rest).map fun (cs, n) => (quote :: cs, n + 2)
        else some ([], 2)
    else (spanQuoted quote rest).map fun (cs, n) => (c :: cs, n + 1)

/-- The characters up to a closing square bracket, and how many characters they take with
    both brackets. -/
def spanBracketed (cs : List Char) : Option (List Char × Nat) :=
  let body := cs.takeWhile (· ≠ ']')
  if body.length = cs.length then none else some (body, body.length + 2)

/-- The length of a comment at the front of a text; zero if there is none.  A block comment
    that would begin at the last character does not. -/
def commentLength : List Char → Nat
  | '-' :: '-' :: rest => 2 + (rest.takeWhile (· ≠ '\n')).length
  | '/' :: '*' :: c :: rest => 2 + blockLength (c :: rest)
  | _ => 0
where
  /-- The characters up to the closing mark, with it. -/
  blockLength : List Char → Nat
    | [] => 0
    | '*' :: '/' :: _ => 2
    | _ :: rest => 1 + blockLength rest

/-- The bytes of a blob, its opening quote having been read, and the length of the rest. -/
def scanBlob (cs : List Char) : Lexeme × Nat :=
  let body := cs.takeWhile (· ≠ '\'')
  match cs.drop body.length, Text.ofHex? body with
  | [], _ => (.illegal, body.length)
  | _, some bytes => (.blob bytes, body.length + 1)
  | _, none => (.illegal, body.length + 1)

/-! ### Numbers -/

/-- Digits or underscores at the front of a text. -/
def spanPlaces (isPlace : Char → Bool) (cs : List Char) : List Char × List Char :=
  cs.span fun c => isPlace c || c = '_'

/-- An exponent at the front of a text, of which the first digit is none of the others. -/
def spanExponentPlaces : List Char → List Char × List Char
  | [] => ([], [])
  | c :: rest =>
    let (_, tail) := spanSign rest
    if (c = 'e' ∨ c = 'E') ∧ tail.head?.any Char.isDigit then
      let (places, after) := spanPlaces Char.isDigit tail
      (c :: rest.take (rest.length - tail.length) ++ places, after)
    else ([], c :: rest)

/-- The characters of a number at the front of a text. -/
def spanNumber (cs : List Char) : List Char × List Char :=
  match cs with
  | '0' :: x :: d :: rest =>
    if (x = 'x' ∨ x = 'X') ∧ (Text.hexDigit? d).isSome then
      let (places, after) := spanPlaces (fun c => (Text.hexDigit? c).isSome) (d :: rest)
      ('0' :: x :: places, after)
    else decimal ('0' :: x :: d :: rest)
  | cs => decimal cs
where
  /-- The characters of a decimal number. -/
  decimal (cs : List Char) : List Char × List Char :=
    let (whole, rest) := spanPlaces Char.isDigit cs
    let (fraction, rest) := match rest with
      | '.' :: rest => let (places, rest) := spanPlaces Char.isDigit rest; ('.' :: places, rest)
      | rest => ([], rest)
    let (exponent, rest) := spanExponentPlaces rest
    (whole ++ fraction ++ exponent, rest)

/-- The number that characters without underscores stand for. -/
def plainNumber : List Char → Lexeme
  | '0' :: 'x' :: digits => .hexadecimal digits
  | '0' :: 'X' :: digits => .hexadecimal digits
  | cs => .number (Numeral.span cs).1

/-- Every underscore stands between two digits. -/
def wellSeparated (isPlace : Char → Bool) : List Char → Bool
  | c :: '_' :: d :: rest => isPlace c && isPlace d && wellSeparated isPlace (d :: rest)
  | '_' :: _ => false
  | [_, '_'] => false
  | _ :: rest => wellSeparated isPlace rest
  | [] => true

/-- The number that characters stand for whose underscores are between digits. -/
def separatedNumber? (cs : List Char) : Option Lexeme :=
  let isPlace := match plainNumber cs with
    | .hexadecimal _ => fun c => (Text.hexDigit? c).isSome
    | _ => Char.isDigit
  if wellSeparated isPlace cs then some (plainNumber (cs.filter (· ≠ '_'))) else none

/-- A number at the front of a text, starting with a digit or a point, and its length. -/
def scanNumber (cs : List Char) : Lexeme × Nat :=
  let (number, rest) := spanNumber cs
  let junk := rest.takeWhile isNameChar
  if junk ≠ [] then (.illegal, number.length + junk.length)
  else if number.contains '_' then (.separated number, number.length)
  else (plainNumber number, number.length)

/-! ### Tokens -/

/-- Marks, of which the first that fits is taken. -/
def marks : List String :=
  ["->>", "==", "!=", "<>", "<=", ">=", "||", "<<", ">>", "->",
   "(", ")", ",", ";", "*", "=", "+", "-", ".", "<", ">", "/", "%", "&", "|", "~"]

/-- A name or a text in quotes, which is illegal if they are not closed. -/
def closed (f : String → Lexeme) (length : Nat) : Option (List Char × Nat) → Lexeme × Nat
  | some (cs, n) => (f (String.ofList cs), n)
  | none => (.illegal, length)

/-- The token at the front of a text that starts with neither white space nor a comment, and
    its length. -/
def scanOne : List Char → Lexeme × Nat
  | [] => (.illegal, 0)
  | c :: rest =>
    let length := rest.length + 1
    if c = '\'' then closed .text length (spanQuoted c rest)
    else if c = '"' then closed (.quotedName .double) length (spanQuoted c rest)
    else if c = '\x60' then closed (.quotedName .strict) length (spanQuoted c rest)
    else if c = '[' then closed (.quotedName .strict) length (spanBracketed rest)
    else if (c = 'x' ∨ c = 'X') ∧ rest.head? = some '\'' then
      let (lexeme, n) := scanBlob (rest.drop 1)
      (lexeme, n + 2)
    else if c.isDigit ∨ (c = '.' ∧ (rest.head?.any Char.isDigit)) then scanNumber (c :: rest)
    else if c = '?' then
      let digits := rest.takeWhile Char.isDigit
      (.parameter (if digits = [] then none else some (Text.digitsValue digits)), digits.length + 1)
    else if c = ':' ∨ c = '@' ∨ c = '#' ∨ c = '$' then
      let name := rest.takeWhile isNameChar
      (if name = [] then .illegal else .namedParameter (String.ofList (c :: name)),
        name.length + 1)
    else if isNameStart c then
      let name := (c :: rest).takeWhile isNameChar
      (.word (String.ofList name), name.length)
    else
      match marks.find? fun m => m.toList.isPrefixOf (c :: rest) with
      | some m => (.mark m, m.length)
      | none => (.illegal, 1)

/-- The length of white space at the front of a text. -/
def spaceLength : List Char → Nat
  | [] => 0
  | c :: rest =>
    if isByteOrderMark c then 1
    else if isSpaceStart c then 1 + (rest.takeWhile isNumberSpace).length
    else 0

/-- The bytes of a text. -/
def byteCount (cs : List Char) : Nat := cs.foldr (fun c count => c.utf8Size + count) 0

/-- The tokens of a text, so many characters and bytes of which have been cut already.  Each
    round takes a character, so the length of the text is fuel enough. -/
def scanFrom : Nat → Nat → Nat → List Char → List Token
  | 0, _, _, _ => []
  | _, _, _, [] => []
  | fuel + 1, start, offset, c :: rest =>
    match max (spaceLength (c :: rest)) (commentLength (c :: rest)) with
    | n + 1 =>
      scanFrom fuel (start + n + 1) (offset + byteCount (c :: rest.take n)) (rest.drop n)
    | 0 =>
      let (lexeme, n) := scanOne (c :: rest)
      let source := (c :: rest).take n
      let token : Token := ⟨lexeme, source, start, offset⟩
      match lexeme with
      | .illegal => [token]
      | _ => token :: scanFrom fuel (start + n) (offset + byteCount source) (rest.drop (n - 1))

/-- The text up to its first NUL. -/
def untilNul (cs : List Char) : List Char := cs.takeWhile (· ≠ '\x00')

/-- The tokens of a text. -/
def scan (cs : List Char) : List Token := scanFrom (cs.length + 1) 0 0 (untilNul cs)

end Token

end SqlClient.Embedded
