import Lowering.Decimal.Reading
import Lowering.Json.Basic

/-
This file gives a number literal its value.
-/

namespace Lowering

namespace Json

/-- A literal without a point has no fraction digits. -/
structure NumberLiteral where
  negative : Bool
  whole : List Nat
  fraction : List Nat
  exponent : Option Int
deriving DecidableEq, Repr

/-- Digits are kept while they fit an unsigned 64-bit word, and the rest are returned. -/
def keepDigits : Nat → List Nat → Nat × List Nat
  | kept, [] => (kept, [])
  | kept, digit :: rest =>
    if kept * 10 + digit < UInt64.size then keepDigits (kept * 10 + digit) rest
    else (kept, digit :: rest)

/--
A whole digit that does not fit counts as a power of ten, and a fraction digit that does not fit
counts nothing.
-/
def NumberLiteral.real (literal : NumberLiteral) : Option Binary64 :=
  let (kept, dropped) := keepDigits 0 literal.whole
  let (significand, unread) := keepDigits kept literal.fraction
  let places := literal.fraction.length - unread.length
  Decimal.read literal.negative significand
    ((dropped.length : Int) - places + literal.exponent.getD 0)

/-- A literal of digits alone is an integer if it fits 64 bits; a negative zero does not. -/
def NumberLiteral.integer? (literal : NumberLiteral) : Option Int :=
  if literal.fraction.isEmpty && literal.exponent.isNone then
    match keepDigits 0 literal.whole with
    | (kept, []) =>
      if !literal.negative then some kept
      else if 0 < kept ∧ Int64.minValue.toInt ≤ -kept then some (-kept)
      else none
    | _ => none
  else none

def NumberLiteral.json (literal : NumberLiteral) : Json :=
  match literal.integer? with
  | some value => .integer value
  | none => .real literal.real

end Json

end Lowering
