import Lowering.Decimal.Style
import Lowering.Json.Basic

/-
This file writes a JSON value on one line, or with one item on each line.
-/

namespace Lowering

namespace Json

/-- A JSON number from `10⁻⁵` up to `10¹⁶` is positional, and an exponent has its sign. -/
def numberStyle : NumberStyle where
  positionalFrom := -5
  scientificFrom := 16
  signsExponent := true
  tie := .toEven

/-- Quotes, backslashes and control characters are escaped, and nothing else is. -/
def escape (char : Char) : List Char :=
  if char = '"' then ['\\', '"']
  else if char = '\\' then ['\\', '\\']
  else if char = '\x08' then ['\\', 'b']
  else if char = '\x0c' then ['\\', 'f']
  else if char = '\n' then ['\\', 'n']
  else if char = '\r' then ['\\', 'r']
  else if char = '\t' then ['\\', 't']
  else if char < ' ' then
    ['\\', 'u', '0', '0', Nat.digitChar (char.toNat / 16), Nat.digitChar (char.toNat % 16)]
  else [char]

def writeString (text : String) : String :=
  String.ofList ('"' :: text.toList.flatMap escape ++ ['"'])

/-- A number that is not finite has no literal. -/
def writeReal (value : Option Binary64) : String :=
  match value with
  | some value => if value.isFinite then numberStyle.text value else "null"
  | none => "null"

/-- A string without a value is written as the replacement character. -/
def writeText (value : Option String) : String := writeString (value.getD "\ufffd")

mutual

/-- This writes a value on one line without blanks. -/
def compact : Json → String
  | .null => "null"
  | .bool value => if value then "true" else "false"
  | .integer value => toString value
  | .real value => writeReal value
  | .string value => writeText value
  | .array items => "[" ++ compactItems items ++ "]"
  | .object members => "\x7b" ++ compactMembers members ++ "\x7d"

def compactItems : List Json → String
  | [] => ""
  | [item] => compact item
  | item :: rest => compact item ++ "," ++ compactItems rest

def compactMembers : List (Option String × Json) → String
  | [] => ""
  | [(key, value)] => writeText key ++ ":" ++ compact value
  | (key, value) :: rest => writeText key ++ ":" ++ compact value ++ "," ++ compactMembers rest

end

def indent (depth : Nat) : String := String.ofList ('\n' :: List.replicate (2 * depth) ' ')

mutual

/-- This writes a value over several lines, two blanks to a level; the depth is that of the value. -/
def pretty (depth : Nat) : Json → String
  | .null => "null"
  | .bool value => if value then "true" else "false"
  | .integer value => toString value
  | .real value => writeReal value
  | .string value => writeText value
  | .array [] => "[]"
  | .array (item :: rest) =>
    "[" ++ prettyItems (depth + 1) (item :: rest) ++ indent depth ++ "]"
  | .object [] => "\x7b\x7d"
  | .object (member :: rest) =>
    "\x7b" ++ prettyMembers (depth + 1) (member :: rest) ++ indent depth ++ "\x7d"

def prettyItems (depth : Nat) : List Json → String
  | [] => ""
  | [item] => indent depth ++ pretty depth item
  | item :: rest => indent depth ++ pretty depth item ++ "," ++ prettyItems depth rest

def prettyMembers (depth : Nat) : List (Option String × Json) → String
  | [] => ""
  | [(key, value)] => indent depth ++ writeText key ++ ": " ++ pretty depth value
  | (key, value) :: rest =>
    indent depth ++ writeText key ++ ": " ++ pretty depth value ++ "," ++ prettyMembers depth rest

end

end Json

end Lowering
