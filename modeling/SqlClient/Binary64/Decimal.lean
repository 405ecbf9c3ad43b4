import SqlClient.Binary64

namespace SqlClient

/-!
# Decimal text of doubles

The text of a double has the fewest digits that read back as the same double, and of
those the nearest.  Where the point and the exponent go is a matter of the format.

* `Decimal` — digits and a power of ten.
* `Binary64.readsBack` — the decimals that round to a given double.
* `Binary64.shortest` — the digits; `Tie` settles the rare exact tie between two.
* `NumberStyle`, `NumberStyle.text` — a format's decisions, and the text under them.
-/

/-- The number `digits · 10 ^ exponent`. -/
structure Decimal where
  digits : Nat
  exponent : Int
deriving DecidableEq, Repr

namespace Decimal

/-- Move trailing zeros of the digits into the exponent.  `fuel` bounds their number. -/
def stripZeros : Nat → Decimal → Decimal
  | 0, d => d
  | fuel + 1, d =>
    if d.digits % 10 = 0 ∧ d.digits ≠ 0 then
      stripZeros fuel ⟨d.digits / 10, d.exponent + 1⟩
    else d

/-- The number without its last `count` digits. -/
def dropDigits (d : Decimal) (count : Nat) : Decimal :=
  ⟨d.digits / 10 ^ count, d.exponent + count⟩

/-- The exponent of the leading digit. -/
def leading (d : Decimal) : Int := d.exponent + ((Nat.toDigits 10 d.digits).length - 1 : Nat)

end Decimal

/-- Which of two equally near decimals of equal length is written. -/
inductive Tie where
  | even
  | up
deriving DecidableEq, Repr

namespace Binary64

/-! ### The interval of decimals that round to a double -/

/-- The gap to the double below is half the gap to the one above: true just above a
    power of two, the least normal one apart. -/
def narrowBelow (x : Binary64) : Bool := x.fraction = 0 ∧ 1 < x.exponentField

/-- Compare `d` with `quarters / 4` units of the last place of `x`. -/
def compareQuarters (x : Binary64) (d : Decimal) (quarters : Nat) : Ordering :=
  compare (d.digits * 10 ^ d.exponent.toNat * (4 * x.denominator))
    (quarters * 2 ^ x.scale.toNat * 10 ^ (-d.exponent).toNat)

/-- Reading `d` gives the magnitude of `x`: it lies between the points half way to the
    neighbours, these included when the significand is even. -/
def readsBack (x : Binary64) (d : Decimal) : Bool :=
  let middle := 4 * x.significand
  let low := x.compareQuarters d (if x.narrowBelow then middle - 1 else middle - 2)
  let high := x.compareQuarters d (middle + 2)
  let closed := x.significand % 2 == 0
  (low == .gt || (closed && low == .eq)) && (high == .lt || (closed && high == .eq))

/-! ### The shortest decimal -/

/-- The exponent of the leading decimal digit of `num / den`. -/
def decade (num den : Nat) : Int :=
  let guess : Int := (Nat.toDigits 10 num).length - (Nat.toDigits 10 den).length
  if den * 10 ^ guess.toNat ≤ num * 10 ^ (-guess).toNat then guess else guess - 1

/-- The nearer of the two points of the grid `10 ^ exponent` around `x`, of those that
    read back. -/
def onGrid? (x : Binary64) (tie : Tie) (exponent : Int) : Option Decimal :=
  let num := x.numerator * 10 ^ (-exponent).toNat
  let den := x.denominator * 10 ^ exponent.toNat
  let below : Decimal := ⟨num / den, exponent⟩
  let above : Decimal := ⟨num / den + 1, exponent⟩
  match x.readsBack below, x.readsBack above with
  | false, false => none
  | true, false => some below
  | false, true => some above
  | true, true =>
    match compare (2 * (num % den)) den with
    | .lt => some below
    | .gt => some above
    | .eq => if tie = .even ∧ below.digits % 2 = 0 then some below else some above

/-- The exact value as a decimal: a power of two below the point is a power of ten there,
    times a power of five. -/
def exactDecimal (x : Binary64) : Decimal :=
  ⟨x.numerator * 5 ^ (-x.scale).toNat, -((-x.scale).toNat : Int)⟩

/-- The shortest decimal that reads back as the magnitude of a finite number, nearest
    first: the first grid that holds one, from one digit up to seventeen. -/
def shortest (x : Binary64) (tie : Tie) : Decimal :=
  if x.code.val = 0 then ⟨0, 0⟩
  else
    let top := decade x.numerator x.denominator
    let found := (List.range 17).findSome? fun n : Nat => x.onGrid? tie (top - n)
    let chosen := found.getD x.exactDecimal
    chosen.stripZeros (Nat.toDigits 10 chosen.digits).length

end Binary64

/-! ### Layout -/

/-- The decisions of a number format. -/
structure NumberStyle where
  /-- what a number without fraction digits ends in -/
  wholeEnd : String
  /-- leading exponents written without an exponent mark; `none` for all of them -/
  positional : Option (Int × Int)
  /-- a sign before exponents that are not negative -/
  exponentPlus : Bool
  tie : Tie

namespace NumberStyle

/-- Digits with the point where `exponent` puts it. -/
def positionalText (style : NumberStyle) (d : Decimal) : String :=
  let digits := Nat.toDigits 10 d.digits
  if 0 ≤ d.exponent then
    String.ofList (digits ++ List.replicate d.exponent.toNat '0') ++ style.wholeEnd
  else
    let places := (-d.exponent).toNat
    let padded := List.replicate (places + 1 - digits.length) '0' ++ digits
    let whole := padded.length - places
    String.ofList (padded.take whole ++ '.' :: padded.drop whole)

/-- One digit, the rest behind a point, and the exponent. -/
def exponentText (style : NumberStyle) (d : Decimal) : String :=
  let digits := Nat.toDigits 10 d.digits
  let rest := digits.drop 1
  let plus := if style.exponentPlus && 0 ≤ d.leading then "+" else ""
  String.ofList (digits.take 1) ++ (if rest = [] then "" else "." ++ String.ofList rest)
    ++ "e" ++ plus ++ toString d.leading

/-- The text of a number: its sign unless it is a NaN, then its magnitude. -/
def text (style : NumberStyle) (x : Binary64) : String :=
  if x.isNaN then "NaN"
  else
    let magnitude :=
      if x.isFinite then
        let d := x.shortest style.tie
        match style.positional with
        | none => style.positionalText d
        | some (least, below) =>
          if x.code.val = 0 ∨ least ≤ d.leading ∧ d.leading < below then style.positionalText d
          else style.exponentText d
      else "inf"
    (if x.negative then "-" else "") ++ magnitude

end NumberStyle

end SqlClient
