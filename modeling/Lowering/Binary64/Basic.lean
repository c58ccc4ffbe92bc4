/-
This file holds binary64 numbers as words, with exact rounding.
Magnitudes are counted in units of `2⁻¹⁰⁷⁴`, the least positive number, so all of
the arithmetic is on naturals.
-/

namespace Lowering

/-- A binary64 number is the 64-bit word that encodes it, so two words of one value stay apart. -/
structure Binary64 where
  bits : UInt64
deriving DecidableEq, Repr, Inhabited

namespace Binary64

/-- This many units make one. -/
def unitsPerOne : Nat := Nat.pow 2 1074

def word (number : Binary64) : Nat := number.bits.toNat

def negative (number : Binary64) : Bool := number.word.testBit 63

def exponentField (number : Binary64) : Nat := number.word / Nat.pow 2 52 % Nat.pow 2 11

def fraction (number : Binary64) : Nat := number.word % Nat.pow 2 52

def isNaN (number : Binary64) : Bool :=
  number.exponentField == 2047 && number.fraction != 0

def isInfinite (number : Binary64) : Bool :=
  number.exponentField == 2047 && number.fraction == 0

def isFinite (number : Binary64) : Bool := number.exponentField != 2047

/-- The significand is an integer below `2⁵³`, at least `2⁵²` unless the number is subnormal. -/
def significand (number : Binary64) : Nat :=
  if number.exponentField = 0 then number.fraction else Nat.pow 2 52 + number.fraction

/-- The last place of a finite number is worth `2 ^ place` units. -/
def place (number : Binary64) : Nat := number.exponentField - 1

/-- The magnitude of a finite number counts units. -/
def magnitude (number : Binary64) : Nat := number.significand * Nat.pow 2 number.place

def isZero (number : Binary64) : Bool := number.exponentField == 0 && number.fraction == 0

/-- This word has the given sign over an unsigned word. -/
def signed (negative : Bool) (word : Nat) : Binary64 :=
  ⟨UInt64.ofNat (word + if negative then Nat.pow 2 63 else 0)⟩

def zero (negative : Bool) : Binary64 := signed negative 0

def infinity (negative : Bool) : Binary64 := signed negative (2047 * Nat.pow 2 52)

/-- A significand one past the last is carried into the exponent by the addition. -/
def assemble (negative : Bool) (significand place : Nat) : Binary64 :=
  if 2046 ≤ place then infinity negative
  else signed negative <|
    if significand < Nat.pow 2 52 then significand else place * Nat.pow 2 52 + significand

/-- The quotient is rounded to the nearest integer, and a tie goes to the even one. -/
def nearestQuotient (numerator denominator : Nat) : Nat :=
  let quotient := numerator / denominator
  let twice := 2 * (numerator % denominator)
  if denominator < twice ∨ (twice = denominator ∧ quotient % 2 = 1) then quotient + 1
  else quotient

/-- This is the number nearest to `numerator / denominator` units, or an infinity past the range. -/
def round (negative : Bool) (numerator denominator : Nat) : Binary64 :=
  let place := Nat.log2 (numerator / denominator) - 52
  assemble negative (nearestQuotient numerator (denominator * Nat.pow 2 place)) place

/-- This is the number nearest to a natural number. -/
def ofNat (value : Nat) : Binary64 := round false (value * unitsPerOne) 1

/-- This is the number nearest to an integer. -/
def ofInt (value : Int) : Binary64 :=
  round (value < 0) (value.natAbs * unitsPerOne) 1

/-- The product of two finite numbers is rounded once. -/
def mul (left right : Binary64) : Binary64 :=
  round (left.negative != right.negative) (left.magnitude * right.magnitude) unitsPerOne

/-- The quotient of two finite numbers is rounded once; the divisor is not zero. -/
def div (left right : Binary64) : Binary64 :=
  round (left.negative != right.negative) (left.magnitude * unitsPerOne) right.magnitude

def neg (number : Binary64) : Binary64 :=
  signed (!number.negative) (number.word % Nat.pow 2 63)

end Binary64

end Lowering
