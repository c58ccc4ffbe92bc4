import Lowering.Binary64.Basic

/-
This file holds JSON values as trees, with integers and other numbers kept apart.
-/

namespace Lowering

/--
A JSON value keeps the order and the repetition of its members. A string without a value has an
escaped surrogate that lacks its partner, and a number without a value is past the range.
-/
inductive Json where
  | null
  | bool (value : Bool)
  | integer (value : Int)
  | real (value : Option Binary64)
  | string (value : Option String)
  | array (items : List Json)
  | object (members : List (Option String × Json))
deriving Inhabited

namespace Json

def text (value : String) : Json := .string (some value)

def natural (value : Nat) : Json := .integer value

/-- This number is written as null when it is not finite. -/
def number (value : Binary64) : Json := .real (some value)

/-- This object has these members in this order. -/
def record (members : List (String × Json)) : Json :=
  .object (members.map fun (name, value) => (some name, value))

/-- An absent value is written as null. -/
def optional {A : Type} (write : A → Json) : Option A → Json
  | none => .null
  | some value => write value

def list {A : Type} (write : A → Json) (values : List A) : Json := .array (values.map write)

mutual

/-- This is the number of arrays and objects around the innermost of the values. -/
def depth : Json → Nat
  | .array items => depthOfItems items + 1
  | .object members => depthOfMembers members + 1
  | .null | .bool _ | .integer _ | .real _ | .string _ => 0

def depthOfItems : List Json → Nat
  | [] => 0
  | item :: rest => max item.depth (depthOfItems rest)

def depthOfMembers : List (Option String × Json) → Nat
  | [] => 0
  | (_, value) :: rest => max value.depth (depthOfMembers rest)

end

/-- This is the value of the first member of the given name. -/
def member? (name : String) : Json → Option Json
  | .object members => members.findSome? fun (key, value) => if key = some name then some value else none
  | _ => none

end Json

end Lowering
