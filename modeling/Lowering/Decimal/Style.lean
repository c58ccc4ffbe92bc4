import Lowering.Decimal.Shortest

/-
This file lays out the digits of a number in positional or scientific form.
-/

namespace Lowering

/-- A style says which numbers are written positionally and how an exponent is marked. -/
structure NumberStyle where
  /-- The least exponent of a leading digit that is written positionally. -/
  positionalFrom : Int
  /-- The exponents from here on are written scientifically. -/
  scientificFrom : Int
  /-- A positive exponent carries a sign. -/
  signsExponent : Bool
  tie : TieRule
deriving DecidableEq, Repr

namespace Decimal

def zeros (count : Nat) : String := String.ofList (List.replicate count '0')

/-- A positional number has at least one digit on each side of its point. -/
def positional (decimal : Decimal) : String :=
  let digits := Nat.toDigits 10 decimal.digits
  match decimal.exponent with
  | .ofNat count => String.ofList digits ++ zeros count ++ ".0"
  | .negSucc count =>
    let places := count + 1
    let padded := List.replicate (places + 1 - digits.length) '0' ++ digits
    let whole := padded.take (padded.length - places)
    String.ofList whole ++ "." ++ String.ofList (padded.drop (padded.length - places))

/-- The leading digit stands for this power of ten. -/
def leadingExponent (decimal : Decimal) : Int :=
  decimal.exponent + ((Nat.toDigits 10 decimal.digits).length - 1 : Nat)

/-- A scientific number has one digit before its point, and a point only if digits follow. -/
def scientific (signsExponent : Bool) (decimal : Decimal) : String :=
  let exponent := decimal.leadingExponent
  let mark := if signsExponent && 0 ≤ exponent then "e+" else "e"
  let mantissa :=
    match Nat.toDigits 10 decimal.digits with
    | [] => "0"
    | [digit] => String.singleton digit
    | digit :: rest => String.singleton digit ++ "." ++ String.ofList rest
  mantissa ++ mark ++ toString exponent

end Decimal

/-- This is the text of a finite number. -/
def NumberStyle.text (style : NumberStyle) (number : Binary64) : String :=
  let sign := if number.negative then "-" else ""
  if number.isZero then sign ++ "0.0"
  else
    let decimal := Decimal.shortest style.tie number
    let exponent := decimal.leadingExponent
    if style.positionalFrom ≤ exponent && exponent < style.scientificFrom then
      sign ++ decimal.positional
    else sign ++ decimal.scientific style.signsExponent

end Lowering
