import Lowering.Json.Number

/-
This file reads a JSON text. Nothing may stand before or after the value but blanks.
-/

namespace Lowering

namespace Json

def isBlank (char : Char) : Bool :=
  char == ' ' || char == '\n' || char == '\t' || char == '\r'

def skipBlanks (input : List Char) : List Char := input.dropWhile isBlank

def digitValue (char : Char) : Nat := char.toNat - '0'.toNat

def hexValue? (char : Char) : Option Nat :=
  if char.isDigit then some (digitValue char)
  else if 'a' ≤ char ∧ char ≤ 'f' then some (char.toNat - 'a'.toNat + 10)
  else if 'A' ≤ char ∧ char ≤ 'F' then some (char.toNat - 'A'.toNat + 10)
  else none

/-- This reads a run of digits, which may be empty. -/
def scanDigits (input : List Char) : List Nat × List Char :=
  ((input.takeWhile Char.isDigit).map digitValue, input.dropWhile Char.isDigit)

/-- A point is followed by at least one digit. -/
def scanFraction : List Char → Option (List Nat × List Char)
  | '.' :: rest =>
    match scanDigits rest with
    | ([], _) => none
    | scanned => some scanned
  | input => some ([], input)

def scanExponentDigits (sign : Int) (input : List Char) : Option (Option Int × List Char) :=
  match scanDigits input with
  | ([], _) => none
  | (digits, rest) =>
    some (some (sign * (digits.foldl (fun value digit => value * 10 + digit) 0 : Nat)), rest)

/-- An exponent mark is followed by an optional sign and at least one digit. -/
def scanExponent : List Char → Option (Option Int × List Char)
  | mark :: rest =>
    if mark = 'e' ∨ mark = 'E' then
      match rest with
      | '+' :: rest => scanExponentDigits 1 rest
      | '-' :: rest => scanExponentDigits (-1) rest
      | rest => scanExponentDigits 1 rest
    else some (none, mark :: rest)
  | [] => some (none, [])

/-- The whole part is a single zero or starts with another digit. -/
def scanWhole (input : List Char) : Option (List Nat × List Char) :=
  match scanDigits input with
  | ([], _) => none
  | (0 :: _ :: _, _) => none
  | scanned => some scanned

def scanNumber (negative : Bool) (input : List Char) : Option (Json × List Char) := do
  let (whole, input) ← scanWhole input
  let (fraction, input) ← scanFraction input
  let (exponent, input) ← scanExponent input
  return (NumberLiteral.json ⟨negative, whole, fraction, exponent⟩, input)

/-- A string is read as a sequence of characters and of 16-bit escapes. -/
inductive Piece where
  | char (value : Char)
  | unit (code : Nat)
deriving DecidableEq, Repr

def escaped? : Char → Option Char
  | '"' => some '"'
  | '\\' => some '\\'
  | '/' => some '/'
  | 'b' => some '\x08'
  | 'f' => some '\x0c'
  | 'n' => some '\n'
  | 'r' => some '\r'
  | 't' => some '\t'
  | _ => none

def unit? (first second third fourth : Char) : Option Nat := do
  let first ← hexValue? first
  let second ← hexValue? second
  let third ← hexValue? third
  let fourth ← hexValue? fourth
  return ((first * 16 + second) * 16 + third) * 16 + fourth

/-- This reads the rest of a string after its opening quote; the pieces come in reverse. -/
def scanPieces (pieces : List Piece) : List Char → Option (List Piece × List Char)
  | [] => none
  | '"' :: rest => some (pieces, rest)
  | '\\' :: 'u' :: first :: second :: third :: fourth :: rest =>
    match unit? first second third fourth with
    | some code => scanPieces (.unit code :: pieces) rest
    | none => none
  | '\\' :: mark :: rest =>
    match escaped? mark with
    | some char => scanPieces (.char char :: pieces) rest
    | none => none
  | char :: rest =>
    if char < ' ' ∨ char = '\\' then none else scanPieces (.char char :: pieces) rest

def isHighSurrogate (code : Nat) : Bool := 0xD800 ≤ code && code < 0xDC00

def isLowSurrogate (code : Nat) : Bool := 0xDC00 ≤ code && code < 0xE000

/-- This joins each high surrogate with the low one right after it; the pieces come in reverse. -/
def joinPieces (chars : List Char) : List Piece → Option (List Char)
  | [] => some chars
  | .char char :: rest => joinPieces (char :: chars) rest
  | .unit low :: .unit high :: rest =>
    if isLowSurrogate low then
      if isHighSurrogate high then
        joinPieces (Char.ofNat (0x10000 + (high - 0xD800) * 0x400 + (low - 0xDC00)) :: chars) rest
      else none
    else if isHighSurrogate low then none
    else joinPieces (Char.ofNat low :: chars) (.unit high :: rest)
  | .unit code :: rest =>
    if isLowSurrogate code || isHighSurrogate code then none
    else joinPieces (Char.ofNat code :: chars) rest

def scanString (input : List Char) : Option (Option String × List Char) := do
  let (pieces, rest) ← scanPieces [] input
  return ((joinPieces [] pieces).map String.ofList, rest)

def scanWord (word : List Char) (value : Json) (input : List Char) : Option (Json × List Char) :=
  if word.isPrefixOf input then some (value, input.drop word.length) else none

mutual

/-- This reads one value after the blanks have been skipped. -/
def scanValue : Nat → List Char → Option (Json × List Char)
  | 0, _ => none
  | fuel + 1, input =>
    match input with
    | '"' :: rest => (scanString rest).map fun (value, rest) => (.string value, rest)
    | '[' :: rest =>
      match skipBlanks rest with
      | ']' :: rest => some (.array [], rest)
      | rest => (scanItems fuel [] rest).map fun (items, rest) => (.array items, rest)
    | '\x7b' :: rest =>
      match skipBlanks rest with
      | '\x7d' :: rest => some (.object [], rest)
      | rest => (scanMembers fuel [] rest).map fun (members, rest) => (.object members, rest)
    | 'n' :: rest => scanWord ['u', 'l', 'l'] .null rest
    | 't' :: rest => scanWord ['r', 'u', 'e'] (.bool true) rest
    | 'f' :: rest => scanWord ['a', 'l', 's', 'e'] (.bool false) rest
    | '-' :: rest => scanNumber true rest
    | input => scanNumber false input

/-- This reads the items of an array that is not empty; those read so far come in reverse. -/
def scanItems : Nat → List Json → List Char → Option (List Json × List Char)
  | 0, _, _ => none
  | fuel + 1, items, input =>
    match scanValue fuel (skipBlanks input) with
    | none => none
    | some (item, rest) =>
      match skipBlanks rest with
      | ',' :: rest => scanItems fuel (item :: items) rest
      | ']' :: rest => some ((item :: items).reverse, rest)
      | _ => none

/-- This reads the members of an object that is not empty; those read so far come in reverse. -/
def scanMembers : Nat → List (Option String × Json) → List Char →
    Option (List (Option String × Json) × List Char)
  | 0, _, _ => none
  | fuel + 1, members, input =>
    match skipBlanks input with
    | '"' :: rest =>
      match scanString rest with
      | none => none
      | some (key, rest) =>
        match skipBlanks rest with
        | ':' :: rest =>
          match scanValue fuel (skipBlanks rest) with
          | none => none
          | some (value, rest) =>
            match skipBlanks rest with
            | ',' :: rest => scanMembers fuel ((key, value) :: members) rest
            | '\x7d' :: rest => some (((key, value) :: members).reverse, rest)
            | _ => none
        | _ => none
    | _ => none

end

/-- Each call of the scanners takes a character before every second call, so this fuel suffices. -/
def read (text : String) : Option Json :=
  let input := text.toList
  match scanValue (2 * input.length + 2) (skipBlanks input) with
  | some (value, rest) => if (skipBlanks rest).isEmpty then some value else none
  | none => none

end Json

end Lowering
