import Lowering.Decimal.Style
import Lowering.IR.OperandType
import Lowering.Text.Quoted

/-
This file holds the operands of IR instructions and their text in listings.
-/

namespace Lowering

namespace IR

/-- A temporary belongs to one function. It is stored in 32 bits, as its counter is. -/
abbrev TempId := Nat

/-- A label names a block of one function. It is stored in 32 bits, as its counter is. -/
abbrev LabelId := Nat

inductive ValueKind where
  /-- A block parameter or the result of an instruction. -/
  | temp (id : TempId)
  | unit
  /-- A place holder for what could not be checked or lowered. -/
  | error
  | bool (value : Bool)
  | int (value : Int64)
  | float (value : Binary64)
  | string (value : String)
  /-- A function of the module. -/
  | function (name : String)
  /-- A function that the runtime provides. -/
  | builtin (name : String)
deriving DecidableEq, Inhabited, Repr

/-- An operand with its type. -/
structure Value where
  kind : ValueKind
  type : OperandType
deriving DecidableEq, Inhabited, Repr

/-- A listing writes numbers from `10⁻⁴` up to `10¹⁶` positionally. -/
def listingStyle : NumberStyle where
  positionalFrom := -4
  scientificFrom := 16
  signsExponent := false
  tie := .up

def floatText (value : Binary64) : String :=
  if value.isNaN then "NaN"
  else if value.isInfinite then if value.negative then "-inf" else "inf"
  else listingStyle.text value

namespace Value

def temp (id : TempId) (type : OperandType) : Value := ⟨.temp id, type⟩

def unit : Value := ⟨.unit, OperandType.unit⟩

def error (type : OperandType) : Value := ⟨.error, type⟩

def bool (value : Bool) : Value := ⟨.bool value, .object .bool⟩

def int (value : Int64) : Value := ⟨.int value, .object .int⟩

def float (value : Binary64) : Value := ⟨.float value, .object .double⟩

def string (value : String) : Value := ⟨.string value, .object .string⟩

def function (name : String) (ty : Ty) : Value := ⟨.function name, .object ty⟩

def builtin (name : String) (ty : Ty) : Value := ⟨.builtin name, .object ty⟩

def isAddress (value : Value) : Bool := value.type.isAddress

def isError (value : Value) : Bool := value.kind == .error

def temp? (value : Value) : Option TempId :=
  match value.kind with
  | .temp id => some id
  | _ => none

def text (value : Value) : String :=
  match value.kind with
  | .temp id => s!"%{id}"
  | .unit => "unit"
  | .error => "<error>"
  | .bool value => if value then "true" else "false"
  | .int value => toString value.toInt
  | .float value => floatText value
  | .string value => Text.quoted value
  | .function name => "@" ++ name
  | .builtin name => "@builtin." ++ name

end Value

end IR

end Lowering
