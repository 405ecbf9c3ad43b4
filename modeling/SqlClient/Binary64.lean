namespace SqlClient

/-!
# Double-precision numbers

A number is its sign and its *code*, the 63 bits below the sign read as one natural
number.  Codes grow with the magnitude they stand for, so neighbouring numbers have
neighbouring codes and rounding up past a power of two needs no special case.

* `Binary64.significand`, `Binary64.scale` — a finite number is `± significand · 2 ^ scale`.
* `Binary64.ofRatio` — the double nearest to a quotient of naturals, ties to even.
* `Binary64.ofInt`, `Binary64.toInt` — rounding in from the integers, truncating out.
* `Binary64.order` — the numeric order, in which the two zeros are equal.
-/

/-! ### Powers

A library of algebra gives naturals and integers a second power, that of a monoid, and where it
is in scope `2 ^ 63` would mean that one.  Bounds are to be the same terms in every module, and
terms that compute; so the core power comes first, before any that a module may have in scope. -/

attribute [instance (20000), default_instance (20000)] instPowNat

/-! ### Numbers -/

/-- A double-precision number: its sign, and the 63 bits below the sign. -/
structure Binary64 where
  negative : Bool
  code : Fin (2 ^ 63)
deriving DecidableEq, Repr

namespace Binary64

/-- The number with the given bits, sign bit first. -/
def ofBits (bits : UInt64) : Binary64 where
  negative := 2 ^ 63 ≤ bits.toNat
  code := ⟨bits.toNat % 2 ^ 63, Nat.mod_lt _ (by decide)⟩

/-- The bits of a number, sign bit first. -/
def toBits (x : Binary64) : UInt64 :=
  UInt64.ofNat ((if x.negative then 2 ^ 63 else 0) + x.code.val)

/-- The code of the infinities; every code above it is a NaN. -/
def infinityCode : Nat := 2047 * 2 ^ 52

def isNaN (x : Binary64) : Bool := infinityCode < x.code.val

def isFinite (x : Binary64) : Bool := x.code.val < infinityCode

/-- The number with this code, or the infinity when the code is past it. -/
def ofCode (negative : Bool) (code : Nat) : Binary64 where
  negative := negative
  code := ⟨min code infinityCode,
    Nat.lt_of_le_of_lt (Nat.min_le_right _ _) (by decide : infinityCode < 2 ^ 63)⟩

def zero : Binary64 := ofCode false 0

def infinity (negative : Bool) : Binary64 := ofCode negative infinityCode

/-- The quiet NaN all other NaNs stand for when they are shown. -/
def nan : Binary64 := ofBits 0x7ff8000000000000

/-! ### The value of a finite number -/

/-- The exponent field: the code above its 52 fraction bits. -/
def exponentField (x : Binary64) : Nat := x.code.val / 2 ^ 52

/-- The fraction bits, below the leading one of a normal number. -/
def fraction (x : Binary64) : Nat := x.code.val % 2 ^ 52

/-- The integer that `2 ^ scale` multiplies; a normal number has a leading one here. -/
def significand (x : Binary64) : Nat :=
  if x.exponentField = 0 then x.fraction else 2 ^ 52 + x.fraction

/-- The power of two that multiplies the significand. -/
def scale (x : Binary64) : Int := (max x.exponentField 1 : Nat) - 1075

/-- The numerator of the magnitude over `denominator`. -/
def numerator (x : Binary64) : Nat := x.significand * 2 ^ x.scale.toNat

/-- The power of two below the magnitude; one for an integer of any size. -/
def denominator (x : Binary64) : Nat := 2 ^ (-x.scale).toNat

/-! ### Rounding to the nearest double -/

/-- The integer nearest to `num / den`; a half goes to the even neighbour. -/
def roundHalfEven (num den : Nat) : Nat :=
  let low := num / den
  let rest := num % den
  if 2 * rest < den then low
  else if den < 2 * rest then low + 1
  else if low % 2 = 0 then low
  else low + 1

/-- The exponent of the power of two at or just below `num / den`. -/
def binade (num den : Nat) : Int :=
  let guess : Int := num.log2 - den.log2
  if den * 2 ^ guess.toNat ≤ num * 2 ^ (-guess).toNat then guess else guess - 1

/-- The double nearest to `num / den`, ties to even, infinite past the largest one.
    A quotient rounded up to the next power of two carries into the exponent field,
    which is where that power's code begins. -/
def ofRatio (negative : Bool) (num den : Nat) : Binary64 :=
  if num = 0 then ofCode negative 0
  else
    let scale := max (-1074) (binade num den - 52)
    let rounded := roundHalfEven (num * 2 ^ (-scale).toNat) (den * 2 ^ scale.toNat)
    ofCode negative ((scale + 1074).toNat * 2 ^ 52 + rounded)

/-- The double nearest to an integer, ties to even. -/
def ofInt (i : Int) : Binary64 := ofRatio (i < 0) i.natAbs 1

/-- The integer part of a finite number. -/
def toInt (x : Binary64) : Int :=
  let magnitude : Int := x.numerator / x.denominator
  if x.negative then -magnitude else magnitude

/-- The double nearest to `digits · 10 ^ exponent`, ties to even.  Exponents too far out
    for any digits to matter give zero or the infinity at once. -/
def ofDecimal (negative : Bool) (digits : Nat) (exponent : Int) : Binary64 :=
  if digits = 0 then ofCode negative 0
  else if 310 < exponent then infinity negative
  else if exponent + (digits.log2 : Int) < -1100 then ofCode negative 0
  else ofRatio negative (digits * 10 ^ exponent.toNat) (10 ^ (-exponent).toNat)

/-- The product of two finite numbers, rounded once. -/
def mul (x y : Binary64) : Binary64 :=
  ofRatio (x.negative != y.negative) (x.numerator * y.numerator) (x.denominator * y.denominator)

/-- The quotient of two finite numbers, rounded once; the divisor is not zero. -/
def div (x y : Binary64) : Binary64 :=
  ofRatio (x.negative != y.negative) (x.numerator * y.denominator) (x.denominator * y.numerator)

/-! ### Order -/

/-- The signed code: the numeric order on numbers that are not NaN, both zeros alike. -/
def rank (x : Binary64) : Int := if x.negative then -x.code.val else x.code.val

/-- Numeric order of two numbers that are not NaN. -/
def order (x y : Binary64) : Ordering := compare x.rank y.rank

/-- Numeric equality: the zeros are equal, a NaN equals nothing. -/
def numericallyEqual (x y : Binary64) : Bool :=
  !x.isNaN && !y.isNaN && x.rank == y.rank

/-- Numeric order of an integer and a finite or infinite number, without rounding. -/
def orderInt (i : Int) (x : Binary64) : Ordering :=
  if x.isFinite then
    compare (i * x.denominator) (if x.negative then -(x.numerator : Int) else x.numerator)
  else if x.negative then .gt else .lt

end Binary64

end SqlClient
