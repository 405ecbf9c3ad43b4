import SqlClient.Binary64

namespace SqlClient.Text

/-!
# Digits

Numbers of a fixed least width, bytes in hexadecimal, and runs of digits read from the
front of a text.

* `padded` — decimal digits with leading zeros.
* `hex` — two lower-case digits a byte.
* `readNumber?` — a run of decimal digits, at most so many of them.
* `readWord?` — a number of 64 bits, read digit by digit.
-/

/-- The decimal digits of `n`, with leading zeros up to `width`. -/
def padded (width n : Nat) : List Char :=
  let digits := Nat.toDigits 10 n
  List.replicate (width - digits.length) '0' ++ digits

/-- The two hexadecimal digits of a byte. -/
def hexByte (b : UInt8) : List Char :=
  [Nat.digitChar (b.toNat / 16), Nat.digitChar (b.toNat % 16)]

/-- Bytes in hexadecimal, two digits each. -/
def hex (bytes : List UInt8) : List Char := bytes.flatMap hexByte

/-- The value of a hexadecimal digit of either case. -/
def hexDigit? (c : Char) : Option Nat :=
  if c.isDigit then some (c.toNat - '0'.toNat)
  else if 'a' ≤ c ∧ c ≤ 'f' then some (c.toNat - 'a'.toNat + 10)
  else if 'A' ≤ c ∧ c ≤ 'F' then some (c.toNat - 'A'.toNat + 10)
  else none

/-- The bytes written in hexadecimal; none for another character or an odd one. -/
def ofHex? : List Char → Option (List UInt8)
  | [] => some []
  | [_] => none
  | high :: low :: rest => do
    let h ← hexDigit? high
    let l ← hexDigit? low
    let bytes ← ofHex? rest
    some (UInt8.ofNat (16 * h + l) :: bytes)

/-! ### Reading from the front -/

/-- The digits at the front of a text, and what follows them. -/
def spanDigits (cs : List Char) : List Char × List Char := cs.span Char.isDigit

/-- The digits at the front of a text, at most `width` of them, and what follows. -/
def spanDigitsUpTo (width : Nat) (cs : List Char) : List Char × List Char :=
  let digits := (cs.takeWhile Char.isDigit).take width
  (digits, cs.drop digits.length)

/-- The value of a run of digits. -/
def digitsValue (digits : List Char) : Nat := Nat.ofDigitChars 10 digits 0

/-- A number of one to `width` digits at the front of a text, and what follows. -/
def readNumber? (width : Nat) (cs : List Char) : Option (Nat × List Char) :=
  let (digits, rest) := spanDigitsUpTo width cs
  if digits = [] then none else some (digitsValue digits, rest)

/-! ### Numbers of 64 bits -/

/-- Put another digit behind a number of 64 bits, if it stays one. -/
def pushDigit? (word : UInt64) (c : Char) : Option UInt64 :=
  let next := 10 * word.toNat + (c.toNat - '0'.toNat)
  if c.isDigit ∧ next < 2 ^ 64 then some (UInt64.ofNat next) else none

/-- A number of 64 bits: one digit or more, each put behind those before it. -/
def readWord? : List Char → Option UInt64
  | [] => none
  | cs => cs.foldlM pushDigit? 0

/-- The text after the plus sign it may begin with. -/
def skipPlus : List Char → List Char
  | '+' :: rest => rest
  | cs => cs

end SqlClient.Text
