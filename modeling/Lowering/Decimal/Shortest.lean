import Lowering.Binary64.Basic

/-
This file finds the shortest decimal that reads back as a given binary64 number.
A grid is the set of multiples of one power of ten. The coarsest grid that has a
point close enough to the number gives the fewest digits.
-/

namespace Lowering

/-- A decimal stands for `digits * 10 ^ exponent`. -/
structure Decimal where
  digits : Nat
  exponent : Int
deriving DecidableEq, Repr, Inhabited

/-- When two decimals of one length are equally near, this says which is taken. -/
inductive TieRule where
  | up
  | toEven
deriving DecidableEq, Repr

namespace Decimal

/-- A cell holds the reals that round to one number, all counted in quarters of a unit. -/
structure Cell where
  low : Nat
  value : Nat
  high : Nat
  closed : Bool
deriving DecidableEq, Repr

/-- The gap below a power of two is half as wide as the gap above it. -/
def Cell.of (number : Binary64) : Cell :=
  let half := 2 * Nat.pow 2 number.place
  let below := if number.fraction = 0 ∧ 0 < number.place then half / 2 else half
  let value := 4 * number.magnitude
  { low := value - below
    value := value
    high := value + half
    closed := number.significand % 2 == 0 }

/-- The ends of a cell belong to it when its number has an even significand. -/
def Cell.holds (cell : Cell) (scale point : Nat) : Bool :=
  if cell.closed then cell.low * scale ≤ point && point ≤ cell.high * scale
  else cell.low * scale < point && point < cell.high * scale

def chooseUpper (tie : TieRule) (lowerGap upperGap lower : Nat) : Bool :=
  if lowerGap = upperGap then
    match tie with
    | .up => true
    | .toEven => lower % 2 == 1
  else upperGap < lowerGap

/-- Of the two points of a grid around the cell's value, this is the nearer one in the cell. -/
def Cell.nearestOn? (cell : Cell) (tie : TieRule) (exponent : Int) : Option Decimal :=
  let scale := Nat.pow 10 (-exponent).toNat
  let step := 4 * Binary64.unitsPerOne * Nat.pow 10 exponent.toNat
  let target := cell.value * scale
  let lower := target / step
  let lowerHolds := cell.holds scale (lower * step)
  let upperHolds := cell.holds scale ((lower + 1) * step)
  if upperHolds &&
      (!lowerHolds ||
        chooseUpper tie (target - lower * step) ((lower + 1) * step - target) lower) then
    some ⟨lower + 1, exponent⟩
  else if lowerHolds then some ⟨lower, exponent⟩
  else none

/-- Trailing zeros move into the exponent, at most one per step. -/
def strip : Nat → Decimal → Decimal
  | 0, decimal => decimal
  | steps + 1, decimal =>
    if decimal.digits ≠ 0 ∧ decimal.digits % 10 = 0 then
      strip steps ⟨decimal.digits / 10, decimal.exponent + 1⟩
    else decimal

/-- The grids run from above the greatest number to the least positive one. -/
def grids : List Int := (List.range 640).map fun index : Nat => 309 - (index : Int)

/-- This is the shortest decimal for a finite number that is not zero. -/
def shortest (tie : TieRule) (number : Binary64) : Decimal :=
  let cell := Cell.of number
  strip 20 ((grids.findSome? (cell.nearestOn? tie)).getD ⟨0, 0⟩)

end Decimal

end Lowering
