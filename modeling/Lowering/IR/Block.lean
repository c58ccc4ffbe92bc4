import Lowering.IR.Instruction

/-
This file holds basic blocks.
-/

namespace Lowering

namespace IR

/-- A block declares parameters; those of the first block are the arguments of the function. -/
structure Block where
  label : LabelId
  params : List (TempId × OperandType)
  instructions : List Instruction
deriving DecidableEq, Inhabited, Repr

namespace Block

def isEmpty (block : Block) : Bool := block.instructions.isEmpty

/-- A block is terminated when its last instruction is a terminator. -/
def isTerminated (block : Block) : Bool :=
  match block.instructions.getLast? with
  | some instruction => instruction.isTerminator
  | none => false

def terminatorCount (block : Block) : Nat := block.instructions.countP Instruction.isTerminator

def add (block : Block) (instruction : Instruction) : Block :=
  { block with instructions := block.instructions ++ [instruction] }

/-- The parameters as operands. -/
def paramValues (block : Block) : List Value := block.params.map fun (id, type) => Value.temp id type

def paramText : List (TempId × OperandType) → String
  | [] => ""
  | params =>
    "(" ++ ", ".intercalate (params.map fun (id, type) => s!"%{id} : {type.text}") ++ ")"

def text (block : Block) : String :=
  s!"bb{block.label}" ++ paramText block.params ++ ":\n" ++
    String.join (block.instructions.map fun instruction => s!"  {instruction.text}\n")

@[simp] theorem isTerminated_add (block : Block) (instruction : Instruction) :
    (block.add instruction).isTerminated = instruction.isTerminator := by
  simp [isTerminated, add]

end Block

end IR

end Lowering
