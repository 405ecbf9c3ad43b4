import SqlClient.Binary64.Decimal
import SqlClient.Embedded.Datum

namespace SqlClient.Embedded

/-!
# Numerals

Numbers are written alike in statements and in texts that a column takes for numbers.  The
leading digits of a numeral make its value: as many as are sure to fit in 64 bits.

* `Numeral`, `Numeral.span` — a numeral, and reading one from the front of a text.
* `Numeral.real`, `Numeral.datum` — its value.
* `numberOfText?` — the number that a text consists of.
-/

/-- White space around numbers. -/
def isNumberSpace (c : Char) : Bool := c = ' ' || (0x09 ≤ c.toNat && c.toNat ≤ 0x0d)

/-- An optional sign. -/
def spanSign : List Char → Bool × List Char
  | '-' :: rest => (true, rest)
  | '+' :: rest => (false, rest)
  | cs => (false, cs)

/-- A number as it is written, without its sign. -/
structure Numeral where
  whole : List Char
  /-- the digits behind the point, if there is a point -/
  fraction : Option (List Char)
  exponent : Option Int
deriving DecidableEq, Repr

namespace Numeral

/-! ### Reading -/

/-- The number that the digits of an exponent stand for.  Ten thousand is as good as more. -/
def exponentValue (digits : List Char) : Nat :=
  digits.foldl (fun e c => if e < 10000 then 10 * e + Text.digitsValue [c] else 10000) 0

/-- An exponent at the front of a text, if its mark is followed by digits. -/
def spanExponent : List Char → Option Int × List Char
  | [] => (none, [])
  | c :: rest =>
    let (down, tail) := spanSign rest
    let (digits, tail) := Text.spanDigits tail
    let e : Int := exponentValue digits
    if (c = 'e' ∨ c = 'E') ∧ digits ≠ [] then (some (if down then -e else e), tail)
    else (none, c :: rest)

/-- The digits behind a point at the front of a text, if there is a point. -/
def spanFraction : List Char → Option (List Char) × List Char
  | '.' :: rest => let (digits, rest) := Text.spanDigits rest; (some digits, rest)
  | cs => (none, cs)

/-- The numeral at the front of a text, which may be without digits, and what follows. -/
def span (cs : List Char) : Numeral × List Char :=
  let (whole, rest) := Text.spanDigits cs
  let (fraction, rest) := spanFraction rest
  let (exponent, rest) := spanExponent rest
  (⟨whole, fraction, exponent⟩, rest)

/-! ### Value -/

/-- Neither a point nor an exponent. -/
def isWhole (n : Numeral) : Bool := n.fraction.isNone && n.exponent.isNone

def hasDigits (n : Numeral) : Bool := n.whole ≠ [] || n.fraction.any (· ≠ [])

/-- Below this another digit is sure to fit in 64 bits. -/
def roomBelow : Nat := (2 ^ 64 - 10) / 10

/-- Take another digit before the point; one for which there is no room is still a place. -/
def pushWhole (d : Decimal) (c : Char) : Decimal :=
  if d.digits < roomBelow then ⟨10 * d.digits + Text.digitsValue [c], d.exponent⟩
  else ⟨d.digits, d.exponent + 1⟩

/-- Take another digit behind the point, if there is room. -/
def pushFraction (d : Decimal) (c : Char) : Decimal :=
  if d.digits < roomBelow then ⟨10 * d.digits + Text.digitsValue [c], d.exponent - 1⟩ else d

/-- The digits that count, where the exponent puts them. -/
def decimal (n : Numeral) : Decimal :=
  let whole := n.whole.foldl pushWhole ⟨0, 0⟩
  let all := (n.fraction.getD []).foldl pushFraction whole
  ⟨all.digits, all.exponent + n.exponent.getD 0⟩

/-- The double nearest to the digits that count. -/
def real (n : Numeral) (negative : Bool) : Binary64 :=
  Binary64.ofDecimal negative n.decimal.digits n.decimal.exponent

/-- A whole number as an integer if it has no more than 64 bits; else a double. -/
def datum (n : Numeral) (negative : Bool) : Datum :=
  let magnitude : Int := Text.digitsValue n.whole
  let i := if negative then -magnitude else magnitude
  if n.isWhole ∧ -2 ^ 63 ≤ i ∧ i < 2 ^ 63 then .integer (Int64.ofInt i)
  else .real (n.real negative)

end Numeral

/-- The number that a text consists of, white space around it being allowed.  The text ends
    at its first NUL, and one that has a NUL is never read as an integer at once. -/
def numberOfText? (s : String) : Option Datum :=
  let cs := s.toList.takeWhile (· ≠ '\x00')
  let trimmed := ((cs.dropWhile isNumberSpace).reverse.dropWhile isNumberSpace).reverse
  let (negative, unsigned) := spanSign trimmed
  let (n, rest) := Numeral.span unsigned
  if rest ≠ [] ∨ !n.hasDigits then none
  else if cs.length = s.toList.length then some (n.datum negative)
  else some (.real (n.real negative))

end SqlClient.Embedded
