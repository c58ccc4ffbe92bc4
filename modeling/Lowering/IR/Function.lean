import Lowering.Counter
import Lowering.FirstMatch
import Lowering.IR.Block

/-
This file holds IR functions.
-/

namespace Lowering

namespace IR

/-- A function without blocks is a declaration. -/
structure Function where
  name : String
  signature : Signature
  blocks : List Block
  temps : Counter
  labels : Counter
deriving DecidableEq, Inhabited, Repr

namespace Function

def declared (name : String) (signature : Signature) : Function :=
  ⟨name, signature, [], Counter.zero, Counter.zero⟩

def isDeclaration (function : Function) : Bool := function.blocks.isEmpty

def entry? (function : Function) : Option Block := function.blocks.head?

def block? (function : Function) (label : LabelId) : Option Block :=
  function.blocks.find? (·.label == label)

/-- A reference to the function. -/
def reference (function : Function) : Value :=
  Value.function function.name function.signature.funType

def instructions (function : Function) : List Instruction :=
  function.blocks.flatMap Block.instructions

/-- Takes a fresh temporary. -/
def takeTemp (function : Function) : TempId × Function :=
  let (id, temps) := function.temps.next
  (id, { function with temps := temps })

/-- Appends a block whose parameters are fresh temporaries. -/
def addBlock (function : Function) (params : List OperandType) : Block × Function :=
  let (label, labels) := function.labels.next
  let (ids, temps) := function.temps.take params.length
  let block : Block := ⟨label, ids.zip params, []⟩
  (block, { function with blocks := function.blocks ++ [block], temps := temps, labels := labels })

/-- Changes the first block of the given label. -/
def modifyBlock (function : Function) (label : LabelId) (change : Block → Block) : Function :=
  { function with blocks := modifyFirst (·.label == label) change function.blocks }

def text (function : Function) : String :=
  let header := s!"fun @{function.name} : {function.signature.text}"
  if function.isDeclaration then header ++ "\n"
  else header ++ " \x7b\n" ++ String.join (function.blocks.map Block.text) ++ "\x7d\n"

end Function

end IR

end Lowering
