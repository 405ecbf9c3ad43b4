import SqlClient.Binary64.Decimal
import SqlClient.Text.Digits

namespace SqlClient.Embedded

/-!
# The text of a double

A double is stored in a text column with up to seventeen significant digits.  They come from
a longer run of digits, which is cut short where it goes on with zeros or nines and still
reads back.

* `leadingDigits` — eighteen or nineteen digits of a double.
* `shortForm?` — the digits before a run of nines or zeros, if they read back.
* `realText` — the text.
-/

/-- The greatest power of two that is no more than a double that is not zero. -/
def binade (x : Binary64) : Int := (Nat.log2 x.significand : Int) + x.scale

/-- The digits of a double, rounded, with seventeen of them behind the leading digit of its
    power of two; so there are eighteen or nineteen. -/
def leadingDigits (x : Binary64) : Decimal :=
  let b := binade x
  let places := 17 - Binary64.decade (2 ^ b.toNat) (2 ^ (-b).toNat)
  let num := x.numerator * 10 ^ places.toNat
  let den := x.denominator * 10 ^ (-places).toNat
  ⟨(2 * num + den) / (2 * den), -places⟩

/-- The digits at some places, the first of which is 0, are all the same. -/
def digitsAre (digits : List Char) (indices : List Nat) (c : Char) : Bool :=
  indices.all fun i => digits[i]? = some c

/-- What is left of the digits of a double without the nines that go up to the sixteenth
    digit, rounded up, or else without the zeros there; if it reads back. -/
def shortForm? (x : Binary64) (d : Decimal) : Option Decimal :=
  let digits := Nat.toDigits 10 d.digits
  if digitsAre digits [14, 15] '9' then
    let kept := ((digits.take 14).reverse.dropWhile (· = '9')).length
    let up := d.dropDigits (digits.length - kept)
    let up : Decimal := ⟨up.digits + 1, up.exponent⟩
    if x.readsBack up then some up else none
  else if 0 ≤ d.exponent ∨ digitsAre digits [13, 14, 15] '0' then
    let down := d.dropDigits (digits.length - 14)
    if x.readsBack down then some down else none
  else none

/-- Seventeen digits; a half goes up. -/
def seventeenDigits (d : Decimal) : Decimal :=
  let surplus := (Nat.toDigits 10 d.digits).length - 17
  let kept := d.dropDigits surplus
  let next := d.digits / 10 ^ (surplus - 1) % 10
  if surplus ≠ 0 ∧ 5 ≤ next then ⟨kept.digits + 1, kept.exponent⟩ else kept

/-- A double that is neither zero nor infinite, without its sign. -/
def magnitudeText (x : Binary64) : String :=
  let long := leadingDigits x
  let d := ((shortForm? x long).getD (seventeenDigits long)).stripZeros 20
  if d.leading < -4 ∨ 16 < d.leading then
    let digits := Nat.toDigits 10 d.digits
    let rest := if digits.length = 1 then ['0'] else digits.drop 1
    String.ofList (digits.take 1 ++ '.' :: rest ++ 'e' :: (if d.leading < 0 then '-' else '+')
      :: Text.padded 2 d.leading.natAbs)
  else NumberStyle.positionalText ⟨".0", none, false, .up⟩ d

/-- The text that a double is stored as.  The zeros have no sign. -/
def realText (x : Binary64) : String :=
  if x.code.val = 0 then "0.0"
  else (if x.negative then "-" else "") ++ (if x.isFinite then magnitudeText x else "Inf")

end SqlClient.Embedded
