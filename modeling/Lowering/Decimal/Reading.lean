import Lowering.Binary64.Basic

/-
This file reads a scaled decimal as a binary64 number.
The significand and the power of ten are rounded apart and then combined, so a decimal with
a long significand may land next to the nearest number.
-/

namespace Lowering

namespace Decimal

/-- No power of ten past this one is finite. -/
def greatestPower : Nat := 308

def powerOfTen (exponent : Nat) : Binary64 := Binary64.ofNat (Nat.pow 10 exponent)

/-- A divisor past the greatest power is taken in two steps, and a third would leave zero. -/
def scaleDown (significand : Binary64) (places : Nat) : Binary64 :=
  if places ≤ greatestPower then significand.div (powerOfTen places)
  else if places ≤ 2 * greatestPower then
    (significand.div (powerOfTen greatestPower)).div (powerOfTen (places - greatestPower))
  else Binary64.zero false

/-- There is no result past the range, unless the significand is zero. -/
def scaleUp (significand : Binary64) (places : Nat) : Option Binary64 :=
  if significand.isZero then some significand
  else if places ≤ greatestPower then
    let product := significand.mul (powerOfTen places)
    if product.isInfinite then none else some product
  else none

/-- This reads `significand * 10 ^ exponent`. -/
def read (negative : Bool) (significand : Nat) (exponent : Int) : Option Binary64 :=
  let unsigned :=
    match exponent with
    | .ofNat places => scaleUp (Binary64.ofNat significand) places
    | .negSucc places => some (scaleDown (Binary64.ofNat significand) (places + 1))
  unsigned.map fun number => if negative then number.neg else number

end Decimal

end Lowering
