import Lowering.Proofs.IR.Steps

/-
This file follows what every instruction of a module, or every operand, has in common while
instructions are added to it.
-/

namespace Lowering

namespace IR

/-- A longer block has one more instruction. -/
theorem Function.mem_instructions_extendBlock {function : Function} {label : LabelId}
    {added instruction : Instruction}
    (inside : instruction ∈ (function.extendBlock label added).instructions) :
    instruction ∈ function.instructions ∨ instruction = added := by
  obtain ⟨block, stands, listed⟩ := List.mem_flatMap.mp inside
  rcases mem_modifyFirst _ _ _ _ stands with old | ⟨first, found, rfl⟩
  · exact Or.inl (List.mem_flatMap.mpr ⟨block, old, listed⟩)
  · rcases List.mem_append.mp listed with old | new
    · exact Or.inl (List.mem_flatMap.mpr ⟨first, List.mem_of_find?_eq_some found, old⟩)
    · exact Or.inr (List.mem_singleton.mp new)

/-- An added block has no instructions yet. -/
theorem Function.instructions_addBlock (function : Function) (params : List OperandType) :
    (function.addBlock params).2.instructions = function.instructions := by
  simp [Function.instructions, Function.addBlock]

/-- Every instruction has a property. -/
def Module.EveryInstruction (module : Module) (good : Instruction → Prop) : Prop :=
  ∀ function ∈ module.functions, ∀ instruction ∈ function.instructions, good instruction

namespace Module.EveryInstruction

variable {good : Instruction → Prop}

/-- A function is put in the place of another. -/
theorem put {builder : Builder} (every : builder.module.EveryInstruction good)
    {function : Function} (new : ∀ instruction ∈ function.instructions, good instruction) :
    (builder.put function).module.EveryInstruction good := by
  intro other inside
  rcases mem_modifyFirst _ _ _ _ inside with old | ⟨_, _, rfl⟩
  · exact every other old
  · exact new

theorem define {type : OperandType} {instruction : TempId → Instruction} {value : Value}
    {before after : Builder} (every : before.module.EveryInstruction good)
    (added : ∀ id, good (instruction id))
    (done : BuildM.define type instruction before = .ok value after) :
    after.module.EveryInstruction good := by
  obtain ⟨function, block, place, rfl, rfl⟩ := BuildM.run_define done
  refine every.put fun other inside => ?_
  rcases Function.mem_instructions_extendBlock inside with old | rfl
  · exact every function (Module.mem_of_function? place.present) other old
  · exact added _

theorem append {instruction : Instruction} {value : Unit} {before after : Builder}
    (every : before.module.EveryInstruction good) (added : good instruction)
    (done : BuildM.append instruction before = .ok value after) :
    after.module.EveryInstruction good := by
  obtain ⟨function, block, place, rfl⟩ := BuildM.run_append done
  refine every.put fun other inside => ?_
  rcases Function.mem_instructions_extendBlock inside with old | rfl
  · exact every function (Module.mem_of_function? place.present) other old
  · exact added

theorem addFunction {module : Module} (every : module.EveryInstruction good) (name : String)
    (signature : Signature) :
    (module.addFunction (Function.declared name signature)).EveryInstruction good := by
  intro function inside
  rcases List.mem_append.mp inside with old | new
  · exact every function old
  · rw [List.mem_singleton.mp new]
    exact fun _ impossible => nomatch impossible

theorem addBlock {builder : Builder} (every : builder.module.EveryInstruction good)
    {function : Function} {name : String}
    (found : builder.module.function? name = some function) (params : List OperandType) :
    (builder.put (function.addBlock params).2).module.EveryInstruction good := by
  refine every.put ?_
  rw [Function.instructions_addBlock]
  exact every function (Module.mem_of_function? found)

end Module.EveryInstruction

/-- Every operand of every instruction has a property. -/
def Module.EveryOperand (module : Module) (good : Value → Prop) : Prop :=
  ∀ function ∈ module.functions, ∀ instruction ∈ function.instructions,
    ∀ operand ∈ instruction.operands, good operand

namespace Module.EveryOperand

variable {good better : Value → Prop}

theorem mono {module : Module} (every : module.EveryOperand good)
    (weaken : ∀ value, good value → better value) : module.EveryOperand better :=
  fun function inside instruction listed operand given =>
    weaken operand (every function inside instruction listed operand given)

theorem define {type : OperandType} {instruction : TempId → Instruction} {value : Value}
    {before after : Builder} (every : before.module.EveryOperand good)
    (usable : ∀ id, ∀ operand ∈ (instruction id).operands, good operand)
    (done : BuildM.define type instruction before = .ok value after) :
    after.module.EveryOperand good :=
  EveryInstruction.define every usable done

theorem append {instruction : Instruction} {value : Unit} {before after : Builder}
    (every : before.module.EveryOperand good)
    (usable : ∀ operand ∈ instruction.operands, good operand)
    (done : BuildM.append instruction before = .ok value after) :
    after.module.EveryOperand good :=
  EveryInstruction.append every usable done

theorem addFunction {module : Module} (every : module.EveryOperand good) (name : String)
    (signature : Signature) :
    (module.addFunction (Function.declared name signature)).EveryOperand good :=
  EveryInstruction.addFunction every name signature

theorem addBlock {builder : Builder} (every : builder.module.EveryOperand good)
    {function : Function} {name : String}
    (found : builder.module.function? name = some function) (params : List OperandType) :
    (builder.put (function.addBlock params).2).module.EveryOperand good :=
  EveryInstruction.addBlock every found params

end Module.EveryOperand

end IR

end Lowering
