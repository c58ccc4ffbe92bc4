import Mathlib.Data.List.TakeWhile
import Lowering.Json.Reader
import Lowering.Json.Writer

/-
This file reads back what is written for a string, for an integer and for another number.
A number has no closing mark, so what stands after it must not go on with it.
-/

namespace Lowering

namespace Json

section Strings

theorem unit?_digitChars {code : Nat} (small : code < 32) :
    unit? '0' '0' (Nat.digitChar (code / 16)) (Nat.digitChar (code % 16)) = some code := by
  decide +revert

/-- A control character without a short escape is read as a unit. -/
def Piece.of (char : Char) : Piece :=
  if char < ' ' ∧ char ∉ ['\x08', '\x0c', '\n', '\r', '\t'] then .unit char.toNat else .char char

theorem scanPieces_escape (char : Char) (pieces : List Piece) (rest : List Char) :
    scanPieces pieces (escape char ++ rest) = scanPieces (Piece.of char :: pieces) rest := by
  fun_cases escape char
  case case8 control =>
    have read : unit? _ _ _ _ = some char.toNat := unit?_digitChars control
    simp [scanPieces, Piece.of, *]
  all_goals simp [scanPieces, escaped?, Piece.of, *]

theorem scanPieces_escapes (chars rest : List Char) : (pieces : List Piece) →
    scanPieces pieces (chars.flatMap escape ++ '"' :: rest) =
      some ((chars.map Piece.of).reverse ++ pieces, rest) := by
  induction chars with
  | nil => simp [scanPieces]
  | cons char chars chars_ih => simp [scanPieces_escape, chars_ih]

/-- A unit below the space is no surrogate, so it stands for its character. -/
theorem joinPieces_of (char : Char) (chars : List Char) (pieces : List Piece) :
    joinPieces chars (Piece.of char :: pieces) = joinPieces (char :: chars) pieces := by
  unfold Piece.of
  split
  next control =>
    have small : char.toNat < 32 := control.1
    have low : isLowSurrogate char.toNat = false := by simp [isLowSurrogate]; omega
    have high : isHighSurrogate char.toNat = false := by simp [isHighSurrogate]; omega
    rcases pieces with _ | ⟨_ | _, _⟩ <;> simp [joinPieces, low, high]
  next => simp [joinPieces]

theorem joinPieces_map (reversed : List Char) : (chars : List Char) →
    joinPieces chars (reversed.map Piece.of) = some (reversed.reverse ++ chars) := by
  induction reversed with
  | nil => simp [joinPieces]
  | cons char reversed reversed_ih => simp [joinPieces_of, reversed_ih]

theorem scanString_escapes (text : String) (rest : List Char) :
    scanString (text.toList.flatMap escape ++ '"' :: rest) = some (some text, rest) := by
  simp [scanString, scanPieces_escapes, ← List.map_reverse, joinPieces_map]

end Strings

section Numbers

/-- A number does not go on with this text. -/
def EndsNumber (text : List Char) : Prop :=
  ∀ char ∈ text.head?, char.isDigit = false ∧ char ≠ '.' ∧ char ≠ 'e' ∧ char ≠ 'E'

variable {rest input left : List Char}

theorem scanDigits_append (ends : EndsNumber rest) (input : List Char) :
    scanDigits (input ++ rest) = ((scanDigits input).1, (scanDigits input).2 ++ rest) := by
  induction input with
  | nil =>
    cases rest with
    | nil => rfl
    | cons char rest => simp [scanDigits, (ends char rfl).1]
  | cons char input input_ih =>
    cases digit : char.isDigit
    · simp [scanDigits, digit]
    · simp_all [scanDigits]

theorem scanWhole_append (ends : EndsNumber rest) {digits : List Nat}
    (scanned : scanWhole input = some (digits, left)) :
    scanWhole (input ++ rest) = some (digits, left ++ rest) := by
  unfold scanWhole at scanned ⊢
  rw [scanDigits_append ends]
  generalize scanDigits input = scan at scanned ⊢
  rcases scan with ⟨_ | ⟨_ | _, _ | _⟩, after⟩ <;> cases scanned <;> rfl

theorem scanFraction_other (other : ∀ char ∈ input.head?, char ≠ '.') :
    scanFraction input = some ([], input) := by
  unfold scanFraction
  split
  · exact absurd rfl (other '.' rfl)
  · rfl

theorem scanFraction_append (ends : EndsNumber rest) {digits : List Nat}
    (scanned : scanFraction input = some (digits, left)) :
    scanFraction (input ++ rest) = some (digits, left ++ rest) := by
  unfold scanFraction at scanned
  split at scanned
  next after =>
    rw [List.cons_append, scanFraction, scanDigits_append ends]
    generalize scanDigits after = scan at scanned ⊢
    rcases scan with ⟨_ | _, after⟩ <;> cases scanned
    rfl
  next other =>
    cases scanned
    refine scanFraction_other fun char first => ?_
    cases input with
    | nil => exact (ends char first).2.1
    | cons head tail =>
      cases first
      rintro rfl
      exact other _ rfl

theorem scanExponentDigits_append (ends : EndsNumber rest) {sign : Int} {exponent : Option Int}
    (scanned : scanExponentDigits sign input = some (exponent, left)) :
    scanExponentDigits sign (input ++ rest) = some (exponent, left ++ rest) := by
  unfold scanExponentDigits at scanned ⊢
  rw [scanDigits_append ends]
  generalize scanDigits input = scan at scanned ⊢
  rcases scan with ⟨_ | _, after⟩ <;> cases scanned
  rfl

theorem scanExponent_other (other : ∀ char ∈ input.head?, char ≠ 'e' ∧ char ≠ 'E') :
    scanExponent input = some (none, input) := by
  cases input with
  | nil => rfl
  | cons head tail =>
    unfold scanExponent
    exact if_neg (not_or.mpr (other head rfl))

theorem scanExponent_append (ends : EndsNumber rest) {exponent : Option Int}
    (scanned : scanExponent input = some (exponent, left)) :
    scanExponent (input ++ rest) = some (exponent, left ++ rest) := by
  cases input with
  | nil =>
    cases scanned
    exact scanExponent_other fun char first => (ends char first).2.2
  | cons mark input =>
    unfold scanExponent at scanned ⊢
    by_cases marked : mark = 'e' ∨ mark = 'E'
    · simp only [List.cons_append, if_pos marked] at scanned ⊢
      split at scanned
      · exact scanExponentDigits_append ends scanned
      · exact scanExponentDigits_append ends scanned
      next unsigned plus minus =>
        have continued := scanExponentDigits_append ends scanned
        cases input with
        | nil => cases scanned
        | cons sign digits =>
          split
          next signed => cases signed; exact (plus _ rfl).elim
          next signed => cases signed; exact (minus _ rfl).elim
          next => exact continued
    · simp only [List.cons_append, if_neg marked] at scanned ⊢
      cases scanned
      rfl

theorem scanNumber_append (ends : EndsNumber rest) {negative : Bool} {json : Json}
    (scanned : scanNumber negative input = some (json, left)) :
    scanNumber negative (input ++ rest) = some (json, left ++ rest) := by
  simp only [scanNumber, Option.bind_eq_bind, Option.bind_eq_some_iff] at scanned
  obtain ⟨⟨whole, _⟩, wholeScanned, ⟨fraction, _⟩, fractionScanned, ⟨exponent, _⟩,
    exponentScanned, result⟩ := scanned
  cases result
  simp [scanNumber, scanWhole_append ends wholeScanned, scanFraction_append ends fractionScanned,
    scanExponent_append ends exponentScanned]

theorem scanNumber_digit {negative : Bool} {json : Json}
    (scanned : scanNumber negative input = some (json, left)) :
    ∃ char rest, input = char :: rest ∧ char.isDigit = true := by
  cases input with
  | nil => cases scanned
  | cons char rest =>
    cases digit : char.isDigit
    · simp [scanNumber, scanWhole, scanDigits, digit] at scanned
    · exact ⟨char, rest, rfl, digit⟩

/-- A number is scanned with or without its sign. -/
def ScansNumber (input : List Char) (json : Json) (left : List Char) : Prop :=
  (∃ after, input = '-' :: after ∧ scanNumber true after = some (json, left)) ∨
    scanNumber false input = some (json, left)

theorem ScansNumber.append {json : Json} (scans : ScansNumber input json left)
    (ends : EndsNumber rest) : ScansNumber (input ++ rest) json (left ++ rest) := by
  obtain ⟨after, rfl, scanned⟩ | scanned := scans
  · exact .inl ⟨_, rfl, scanNumber_append ends scanned⟩
  · exact .inr (scanNumber_append ends scanned)

theorem ScansNumber.ne_nil {json : Json} (scans : ScansNumber input json left) : input ≠ [] := by
  rintro rfl
  obtain ⟨_, ⟨⟩, _⟩ | ⟨⟨⟩⟩ := scans

theorem ScansNumber.scanValue {json : Json} (scans : ScansNumber input json left) (fuel : Nat) :
    Json.scanValue (fuel + 1) input = some (json, left) := by
  obtain ⟨after, rfl, scanned⟩ | scanned := scans
  · exact scanned
  · obtain ⟨char, digits, rfl, digit⟩ := scanNumber_digit scanned
    rw [Json.scanValue, scanned] <;> rintro _ ⟨⟩ <;> cases digit

theorem scanWord_some {word : List Char} {value json : Json}
    (scanned : scanWord word value input = some (json, left)) : json = value := by
  rw [scanWord] at scanned
  split at scanned <;> cases scanned
  rfl

def isNumber : Json → Bool
  | .integer _ | .real _ => true
  | .null | .bool _ | .string _ | .array _ | .object _ => false

/-- Only the text of a number is read as a number. -/
theorem scansNumber_of_isNumber {fuel : Nat} {json : Json}
    (scanned : scanValue fuel input = some (json, left)) (number : json.isNumber = true) :
    ScansNumber input json left := by
  cases fuel with
  | zero => cases scanned
  | succ fuel =>
    unfold scanValue at scanned
    split at scanned
    · obtain ⟨_, _, ⟨⟩⟩ := Option.map_eq_some_iff.mp scanned
      cases number
    · split at scanned
      · cases scanned
        cases number
      · obtain ⟨_, _, ⟨⟩⟩ := Option.map_eq_some_iff.mp scanned
        cases number
    · split at scanned
      · cases scanned
        cases number
      · obtain ⟨_, _, ⟨⟩⟩ := Option.map_eq_some_iff.mp scanned
        cases number
    · cases scanWord_some scanned
      cases number
    · cases scanWord_some scanned
      cases number
    · cases scanWord_some scanned
      cases number
    · exact .inl ⟨_, rfl, scanned⟩
    · exact .inr scanned

end Numbers

section Integers

/-- The digits of a number never fall below those that are kept. -/
theorem le_ofDigitChars (digits : List Char) (kept : Nat) :
    kept ≤ Nat.ofDigitChars 10 digits kept := by
  induction digits generalizing kept with
  | nil => exact Nat.le_refl _
  | cons digit rest rest_ih =>
    rw [Nat.ofDigitChars_cons]
    exact Nat.le_trans (by omega) (rest_ih _)

theorem keepDigits_map (digits : List Char) : (kept : Nat) →
    Nat.ofDigitChars 10 digits kept < UInt64.size →
      keepDigits kept (digits.map digitValue) = (Nat.ofDigitChars 10 digits kept, []) := by
  induction digits with
  | nil => intro kept _; rfl
  | cons digit rest rest_ih =>
    intro kept fits
    rw [Nat.ofDigitChars_cons, Nat.mul_comm] at fits ⊢
    have first := Nat.lt_of_le_of_lt (le_ofDigitChars rest _) fits
    rw [List.map_cons, keepDigits, digitValue, if_pos first]
    exact rest_ih _ fits

theorem keepDigits_toDigits {value : Nat} (fits : value < UInt64.size) :
    keepDigits 0 ((Nat.toDigits 10 value).map digitValue) = (value, []) := by
  have whole : Nat.ofDigitChars 10 (Nat.toDigits 10 value) 0 = value :=
    Nat.ofDigitChars_toDigits (by decide) (by decide)
  rw [keepDigits_map _ 0 (by rwa [whole]), whole]

theorem digitValue_digitChar {digit : Nat} (small : digit < 10) :
    digitValue (Nat.digitChar digit) = digit := by
  decide +revert

theorem toDigits_leading (value : Nat) (positive : 0 < value) :
    ∃ digit rest, Nat.toDigits 10 value = digit :: rest ∧ digitValue digit ≠ 0 := by
  induction value using Nat.strongRecOn with
  | ind value shorter =>
    obtain small | large := Nat.lt_or_ge value 10
    · refine ⟨_, _, Nat.toDigits_of_lt_base small, ?_⟩
      rw [digitValue_digitChar small]
      exact Nat.ne_of_gt positive
    · obtain ⟨digit, rest, is, nonzero⟩ := shorter (value / 10) (by omega) (by omega)
      exact ⟨digit, _, by rw [Nat.toDigits_of_base_le (by decide) large, is]; rfl, nonzero⟩

theorem scanDigits_toDigits (value : Nat) :
    scanDigits (Nat.toDigits 10 value) = ((Nat.toDigits 10 value).map digitValue, []) := by
  have digits : ∀ char ∈ Nat.toDigits 10 value, char.isDigit = true :=
    fun _ => Nat.isDigit_of_mem_toDigits (by decide) (by decide)
  rw [scanDigits, List.takeWhile_eq_self_iff.mpr digits, List.dropWhile_eq_nil_iff.mpr digits]

/-- No natural is written with a leading zero, so all of its digits are scanned. -/
theorem scanWhole_toDigits (value : Nat) :
    scanWhole (Nat.toDigits 10 value) = some ((Nat.toDigits 10 value).map digitValue, []) := by
  rw [scanWhole, scanDigits_toDigits]
  obtain rfl | positive := Nat.eq_zero_or_pos value
  · rfl
  · obtain ⟨digit, rest, is, nonzero⟩ := toDigits_leading value positive
    rw [is, List.map_cons]
    cases value : digitValue digit
    · exact absurd value nonzero
    · rfl

theorem scanNumber_toDigits (negative : Bool) (value : Nat) :
    scanNumber negative (Nat.toDigits 10 value) =
      some (NumberLiteral.json ⟨negative, (Nat.toDigits 10 value).map digitValue, [], none⟩,
        []) := by
  simp [scanNumber, scanWhole_toDigits, scanFraction, scanExponent]

/-- These integers are read as such, and the others as real numbers. -/
def IsWord (value : Int) : Prop := Int64.minValue.toInt ≤ value ∧ value < UInt64.size

theorem json_toDigits {value : Nat} (fits : value < UInt64.size) :
    NumberLiteral.json ⟨false, (Nat.toDigits 10 value).map digitValue, [], none⟩ =
      .integer value := by
  simp [NumberLiteral.json, NumberLiteral.integer?, keepDigits_toDigits fits]

theorem json_toDigits_negative {value : Nat} (positive : 0 < value)
    (fits : Int64.minValue.toInt ≤ -value) :
    NumberLiteral.json ⟨true, (Nat.toDigits 10 value).map digitValue, [], none⟩ =
      .integer (-value) := by
  have least : Int64.minValue.toInt = -9223372036854775808 := rfl
  have size : UInt64.size = 18446744073709551616 := rfl
  have word : value < UInt64.size := by omega
  have integer : NumberLiteral.integer?
      ⟨true, (Nat.toDigits 10 value).map digitValue, [], none⟩ = some (-(value : Int)) := by
    simp [NumberLiteral.integer?, keepDigits_toDigits word, positive]
    omega
  rw [NumberLiteral.json, integer]

theorem scansNumber_integer {value : Int} (word : IsWord value) :
    ScansNumber (toString value).toList (.integer value) [] := by
  rw [Int.toString_eq_repr]
  cases value with
  | ofNat value =>
    have scanned := scanNumber_toDigits false value
    rw [json_toDigits (Int.ofNat_lt.mp word.2)] at scanned
    rw [Int.repr, Nat.toList_repr]
    exact .inr scanned
  | negSucc value =>
    have scanned := scanNumber_toDigits true (value + 1)
    rw [json_toDigits_negative (Nat.succ_pos value) word.1] at scanned
    rw [Int.repr, String.toList_append, Nat.toList_repr]
    exact .inl ⟨_, rfl, scanned⟩

theorem integer?_some {literal : NumberLiteral} {value : Int}
    (integer : literal.integer? = some value) :
    literal.fraction = [] ∧ literal.exponent = none := by
  unfold NumberLiteral.integer? at integer
  split at integer
  next bare => simpa using bare
  next => cases integer

theorem json_integer {literal : NumberLiteral} {value : Int}
    (integer : literal.json = .integer value) :
    literal.fraction = [] ∧ literal.exponent = none := by
  unfold NumberLiteral.json at integer
  split at integer
  next some => exact integer?_some some
  next => cases integer

theorem scanFraction_nil {input left : List Char} (scanned : scanFraction input = some ([], left)) :
    input = left := by
  unfold scanFraction at scanned
  split at scanned
  next after =>
    generalize scanDigits after = scan at scanned
    rcases scan with ⟨_ | _, _⟩ <;> cases scanned
  next => cases scanned; rfl

theorem scanExponentDigits_some {sign : Int} {input left : List Char} {exponent : Option Int}
    (scanned : scanExponentDigits sign input = some (exponent, left)) : exponent.isSome = true := by
  unfold scanExponentDigits at scanned
  generalize scanDigits input = scan at scanned
  rcases scan with ⟨_ | _, _⟩ <;> cases scanned
  rfl

theorem scanExponent_none {input left : List Char}
    (scanned : scanExponent input = some (none, left)) :
    input = left := by
  cases input with
  | nil => cases scanned; rfl
  | cons mark input =>
    unfold scanExponent at scanned
    by_cases marked : mark = 'e' ∨ mark = 'E'
    · simp only [if_pos marked] at scanned
      split at scanned <;> cases scanExponentDigits_some scanned
    · simp only [if_neg marked] at scanned
      cases scanned
      rfl

/-- An integer is read from its digits alone. -/
theorem scanNumber_integer {negative : Bool} {input left : List Char} {value : Int}
    (scanned : scanNumber negative input = some (.integer value, left)) :
    input.dropWhile Char.isDigit = left := by
  simp only [scanNumber, Option.bind_eq_bind, Option.bind_eq_some_iff] at scanned
  obtain ⟨⟨whole, first⟩, wholeScanned, ⟨fraction, second⟩, fractionScanned, ⟨exponent, third⟩,
    exponentScanned, result⟩ := scanned
  obtain ⟨json, rfl⟩ := Prod.mk.inj (Option.some.inj result)
  obtain ⟨rfl, rfl⟩ := json_integer json
  rw [← scanExponent_none exponentScanned, ← scanFraction_nil fractionScanned]
  unfold scanWhole at wholeScanned
  split at wholeScanned <;> cases wholeScanned
  rfl

/-- An integer has no point and no mark of an exponent. -/
theorem ScansNumber.integer_plain {input left : List Char} {value : Int} {char : Char}
    (scans : ScansNumber input (.integer value) left) (blank : skipBlanks left = [])
    (within : char ∈ input) : char = '-' ∨ char.isDigit = true ∨ isBlank char = true := by
  have digits {negative : Bool} {input : List Char}
      (scanned : scanNumber negative input = some (.integer value, left)) (within : char ∈ input) :
      char.isDigit = true ∨ isBlank char = true := by
    have parts := List.takeWhile_append_dropWhile (p := Char.isDigit) (l := input)
    rw [scanNumber_integer scanned] at parts
    rw [← parts, List.mem_append] at within
    exact within.imp List.mem_takeWhile_imp (List.dropWhile_eq_nil_iff.mp blank char)
  obtain ⟨after, rfl, scanned⟩ | scanned := scans
  · exact (List.mem_cons.mp within).imp id (digits scanned)
  · exact .inr (digits scanned within)

end Integers

section Reals

/-- A positional number has a point. -/
theorem point_mem_positional (decimal : Decimal) : '.' ∈ decimal.positional.toList := by
  unfold Decimal.positional
  split <;> simp

/-- A scientific number has the mark of its exponent. -/
theorem mark_mem_scientific (signsExponent : Bool) (decimal : Decimal) :
    'e' ∈ (decimal.scientific signsExponent).toList := by
  unfold Decimal.scientific
  simp only [String.toList_append, List.mem_append]
  refine .inl (.inr ?_)
  split <;> decide

theorem mark_mem_text (style : NumberStyle) (number : Binary64) :
    '.' ∈ (style.text number).toList ∨ 'e' ∈ (style.text number).toList := by
  unfold NumberStyle.text
  simp only [apply_ite String.toList, String.toList_append]
  split
  · simp
  · split
    · exact .inl (List.mem_append_right _ (point_mem_positional _))
    · exact .inr (List.mem_append_right _ (mark_mem_scientific _ _))

end Reals

end Json

end Lowering
