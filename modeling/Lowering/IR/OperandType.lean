import Lowering.Program.Ty

/-
This file holds the types of operands in the intermediate representation (IR).
An operand is an object or the address of one.
-/

namespace Lowering

namespace IR

/-- The type of an object, or of the object at an address. -/
structure OperandType where
  ty : Ty
  isAddress : Bool
deriving DecidableEq, Inhabited, Repr

namespace OperandType

def object (ty : Ty) : OperandType := ⟨ty, false⟩

def address (ty : Ty) : OperandType := ⟨ty, true⟩

/-- An inout type is passed as an address. -/
def lower : Ty → OperandType
  | .inout base => address base
  | other => object other

def unit : OperandType := object .unit

def error : OperandType := object .error

/-- The type of the address of such an object. -/
def asAddress (type : OperandType) : OperandType := address type.ty

/-- The type of what is stored at such an address. -/
def asObject (type : OperandType) : OperandType := object type.ty

def isExistential (type : OperandType) : Bool := type.ty.isExistential

def isError (type : OperandType) : Bool := type.ty.isError

/-- The source type that an operand of this type stands for; an address is inout. -/
def toSource (type : OperandType) : Ty := if type.isAddress then .inout type.ty else type.ty

def text (type : OperandType) : String := (if type.isAddress then "*" else "") ++ type.ty.text

theorem toSource_lower (ty : Ty) : (lower ty).toSource = ty := by
  cases ty <;> rfl

end OperandType

/-- The operand types that a function takes and returns. -/
structure Signature where
  params : List OperandType
  result : OperandType
deriving DecidableEq, Inhabited, Repr

namespace Signature

def lower (funType : FunType) : Signature :=
  ⟨funType.params.map OperandType.lower, OperandType.lower funType.result⟩

/-- The type of a reference to a function of this signature. -/
def funType (signature : Signature) : Ty :=
  .function (signature.params.map OperandType.toSource) signature.result.toSource

def text (signature : Signature) : String :=
  "(" ++ ", ".intercalate (signature.params.map OperandType.text) ++ ") -> " ++
    signature.result.text

theorem funType_lower (funType : FunType) : (lower funType).funType = funType.toTy := by
  simp [lower, Signature.funType, FunType.toTy, OperandType.toSource_lower, Function.comp_def]

end Signature

end IR

end Lowering
