import Lowering.IR.Value

/-
This file holds IR instructions.
-/

namespace Lowering

namespace IR

/-- An instruction defines at most one temporary, its result. -/
inductive Instruction where
  /-- Makes a stack location. -/
  | allocStack (result : TempId) (ty : Ty)
  /-- Makes a container ready for a value of the type and yields where that value must be stored. -/
  | allocExistential (result : TempId) (container : Value) (witness : Ty)
  | load (result : TempId) (location : Value) (type : OperandType)
  | store (value : Value) (location : Value)
  /-- Copies the value at one address to another. -/
  | copyAddr (source : Value) (dest : Value)
  /-- Takes an address for that of another type. -/
  | unsafeCastAddr (result : TempId) (source : Value) (type : OperandType)
  /-- The address of a stored member. -/
  | recordMemberAddr (result : TempId) (record : Value) (member : DeclId) (name : String)
      (type : OperandType)
  | apply (result : TempId) (function : Value) (args : List Value) (type : OperandType)
  /-- Makes a closure that binds the first arguments of a function. -/
  | partialApply (result : TempId) (function : Value) (args : List Value) (type : OperandType)
  /-- The value inside a container. -/
  | openExistential (result : TempId) (container : Value) (type : OperandType)
  /-- The address of the value inside a container. -/
  | openExistentialAddr (result : TempId) (container : Value) (type : OperandType)
  | ret (value : Value)
  /-- Ends a function that never returns. -/
  | halt
deriving DecidableEq, Inhabited, Repr

namespace Instruction

def result? : Instruction → Option TempId
  | allocStack result _ | allocExistential result _ _ | load result _ _
  | unsafeCastAddr result _ _ | recordMemberAddr result _ _ _ _ | apply result _ _ _
  | partialApply result _ _ _ | openExistential result _ _ | openExistentialAddr result _ _ =>
    some result
  | store .. | copyAddr .. | ret _ | halt => none

def operands : Instruction → List Value
  | allocStack .. | halt => []
  | allocExistential _ container _ | openExistential _ container _
  | openExistentialAddr _ container _ => [container]
  | load _ location _ => [location]
  | store value location => [value, location]
  | copyAddr source dest => [source, dest]
  | unsafeCastAddr _ source _ => [source]
  | recordMemberAddr _ record _ _ _ => [record]
  | apply _ function args _ | partialApply _ function args _ => function :: args
  | ret value => [value]

/-- A terminator ends its block. -/
def isTerminator : Instruction → Bool
  | ret _ | halt => true
  | _ => false

def opcode : Instruction → String
  | allocStack .. => "alloc_stack"
  | allocExistential .. => "alloc_existential"
  | load .. => "load"
  | store .. => "store"
  | copyAddr .. => "copy_addr"
  | unsafeCastAddr .. => "unsafe_cast_addr"
  | recordMemberAddr .. => "record_member_addr"
  | apply .. => "apply"
  | partialApply .. => "partial_apply"
  | openExistential .. => "open_existential"
  | openExistentialAddr .. => "open_existential_addr"
  | ret _ => "ret"
  | halt => "halt"

/-- What follows the opcode in a listing. -/
def operandText : Instruction → String
  | allocStack _ ty => s!" {ty.text}"
  | allocExistential _ container witness => s!" {container.text}, {witness.text}"
  | load _ location type => s!" {location.text} : {type.text}"
  | store value location => s!" {value.text}, {location.text}"
  | copyAddr source dest => s!" {source.text} to {dest.text}"
  | unsafeCastAddr _ source type => s!" {source.text} to {type.text}"
  | recordMemberAddr _ record _ name type => s!" {record.text}, {name} : {type.text}"
  | apply _ function args type | partialApply _ function args type =>
    " " ++ function.text ++ "(" ++ ", ".intercalate (args.map Value.text) ++ ") : " ++ type.text
  | openExistential _ container type | openExistentialAddr _ container type =>
    s!" {container.text} as {type.text}"
  | ret value => s!" {value.text}"
  | halt => ""

def text (instruction : Instruction) : String :=
  let target := match instruction.result? with
    | some result => s!"%{result} = "
    | none => ""
  target ++ instruction.opcode ++ instruction.operandText

theorem result?_of_isTerminator (instruction : Instruction)
    (ends : instruction.isTerminator = true) : instruction.result? = none := by
  cases instruction <;> simp_all [isTerminator, result?]

end Instruction

end IR

end Lowering
