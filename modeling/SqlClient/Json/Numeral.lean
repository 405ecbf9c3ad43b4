import SqlClient.Binary64
import SqlClient.Text.Digits

namespace SqlClient

/-!
# Numbers in JSON

A numeral is a number as it is written.  It is read as an integer where it is one of 64
bits, and as a double in one machine step from an integer of 64 bits: a product with or a
quotient by a power of ten, each rounded.

* `Numeral.read?` — a numeral at the front of a text.
* `Numeral.toInt?`, `Numeral.toBinary64?` — what it stands for.
-/

/-- A number as it is written. -/
structure Numeral where
  negative : Bool
  whole : List Char
  fraction : Option (List Char)
  exponent : Option Int
deriving DecidableEq, Repr

namespace Numeral

open Text

/-! ### Reading -/

/-- The whole part: a single zero, or digits that do not start with one. -/
def readWhole? (cs : List Char) : Option (List Char × List Char) :=
  let (digits, rest) := spanDigits cs
  match digits with
  | [] => none
  | '0' :: _ :: _ => none
  | _ => some (digits, rest)

/-- The fraction, if a point begins one; it has at least a digit. -/
def readFraction? : List Char → Option (Option (List Char) × List Char)
  | '.' :: rest =>
    let (digits, rest) := spanDigits rest
    if digits = [] then none else some (some digits, rest)
  | rest => some (none, rest)

/-- An exponent of at least one digit, the sign having been read. -/
def readSigned? (negative : Bool) (cs : List Char) : Option (Option Int × List Char) :=
  let (digits, rest) := spanDigits cs
  if digits = [] then none
  else
    let value : Int := digitsValue digits
    some (some (if negative then -value else value), rest)

/-- The exponent, if a mark begins one. -/
def readExponent? : List Char → Option (Option Int × List Char)
  | c :: rest =>
    if c = 'e' ∨ c = 'E' then
      match rest with
      | '-' :: rest => readSigned? true rest
      | '+' :: rest => readSigned? false rest
      | rest => readSigned? false rest
    else some (none, c :: rest)
  | [] => some (none, [])

/-- A numeral at the front of a text, and what follows. -/
def read? (cs : List Char) : Option (Numeral × List Char) := do
  let (negative, cs) := match cs with
    | '-' :: rest => (true, rest)
    | cs => (false, cs)
  let (whole, cs) ← readWhole? cs
  let (fraction, cs) ← readFraction? cs
  let (exponent, cs) ← readExponent? cs
  some (⟨negative, whole, fraction, exponent⟩, cs)

/-! ### Meaning -/

/-- The integer written without point or exponent, if it fits 64 bits with the sign it is
    written with.  A negative zero is not an integer. -/
def toInt? (n : Numeral) : Option Int :=
  if n.fraction = none ∧ n.exponent = none then
    let value := digitsValue n.whole
    if n.negative then
      if 0 < value ∧ value ≤ 2 ^ 63 then some (-(value : Int)) else none
    else if value < 2 ^ 64 then some value else none
  else none

/-- Extend an integer of 64 bits by digits as long as it stays one.  Gives it back with
    the number of digits taken. -/
def takeDigits (value taken : Nat) : List Char → Nat × Nat
  | [] => (value, taken)
  | c :: rest =>
    let next := 10 * value + (c.toNat - '0'.toNat)
    if next < 2 ^ 64 then takeDigits next (taken + 1) rest else (value, taken)

/-- Powers of ten up to this one are doubles. -/
def maxPower : Nat := 308

def tenPow (n : Nat) : Binary64 := .ofRatio false (10 ^ n) 1

/-- Divide by `10 ^ n`, by at most the greatest power of ten at a time. -/
def divPow (x : Binary64) (n : Nat) : Binary64 :=
  if n ≤ maxPower then x.div (tenPow n)
  else if x.code.val = 0 then x
  else divPow (x.div (tenPow maxPower)) (n - maxPower)
termination_by n
decreasing_by simp only [maxPower] at *; omega

/-- Multiply by `10 ^ n`; none when the product is not finite. -/
def mulPow? (x : Binary64) (n : Nat) : Option Binary64 :=
  if x.code.val = 0 then some x
  else if maxPower < n then none
  else
    let product := x.mul (tenPow n)
    if product.isFinite then some product else none

/-- The double the numeral is read as; none when it is too large. -/
def toBinary64? (n : Numeral) : Option Binary64 := do
  let (value, wholeTaken) := takeDigits 0 0 n.whole
  let (value, places) := takeDigits value 0 (n.fraction.getD [])
  let exponent : Int := (n.whole.length - wholeTaken : Nat) - (places : Int) + n.exponent.getD 0
  let start := Binary64.ofInt value
  let magnitude ←
    if exponent < 0 then some (divPow start (-exponent).toNat) else mulPow? start exponent.toNat
  some { magnitude with negative := n.negative }

end Numeral

end SqlClient
