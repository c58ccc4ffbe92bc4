import Lowering.Proofs.IR.Growth

/-
This file follows the first block of a function while it is written. Its instructions are known one
by one until it is terminated.
-/

namespace Lowering

namespace IR

/-- Where there is one block, it is the one that gets longer. -/
theorem Function.blocks_extendBlock {function : Function} {block : Block}
    (sole : function.blocks = [block]) (instruction : Instruction) :
    (function.extendBlock block.label instruction).blocks = [block.add instruction] := by
  simp [extendBlock, modifyBlock, sole, modifyFirst]

/-- The insertion point lies in the only block of a function, and this is what is in it. -/
def Builder.Drafts (builder : Builder) (name : String) (signature : Signature)
    (params : List (TempId × OperandType)) (instructions : List Instruction) : Prop :=
  ∃ function block, builder.At function block ∧ function.name = name ∧
    function.signature = signature ∧ function.blocks = [block] ∧ block.params = params ∧
    block.instructions = instructions

namespace Builder.Drafts

variable {builder after : Builder} {name : String} {signature : Signature}
  {params : List (TempId × OperandType)} {instructions : List Instruction}

/-- A block that is added to a function without any is empty and open. -/
theorem of_createBlock {types : List OperandType} {function : Function} {label : LabelId}
    {args : List Value} (found : builder.module.function? name = some function)
    (empty : function.blocks = [])
    (done : BuildM.createBlock name types builder = .ok (label, args) after) :
    ∃ params, params.map Prod.snd = types ∧
      args = params.map (fun (id, type) => Value.temp id type) ∧
      Drafts { after with cursor := some ⟨name, label⟩ } name function.signature params [] := by
  obtain ⟨again, found_again, rfl, rfl, rfl⟩ := BuildM.run_createBlock done
  obtain rfl := Option.some.inj (found.symm.trans found_again)
  have named := Module.name_of_function? found
  let block := (function.addBlock types).1
  refine ⟨block.params, List.map_snd_zip (by simp), rfl, (function.addBlock types).2, block,
    ⟨?_, ?_, ?_, rfl⟩, named, rfl, by simp [Function.addBlock, empty, block], rfl, rfl⟩
  · rw [Function.name_addBlock, named]
  · exact Builder.function?_put_self _ function builder (by rw [Function.name_addBlock, named, found])
  · simp [Function.block?, Function.addBlock, empty, block]

theorem define (drafts : builder.Drafts name signature params instructions) {type : OperandType}
    {instruction : TempId → Instruction} {value : Value}
    (continues : ∀ id, (instruction id).isTerminator = false)
    (done : BuildM.define type instruction builder = .ok value after) :
    ∃ id, value = Value.temp id type ∧
      after.Drafts name signature params (instructions ++ [instruction id]) := by
  obtain ⟨function, block, place, rfl, rfl, sole, rfl, rfl⟩ := drafts
  obtain ⟨again, other, place_again, rfl, rfl⟩ := BuildM.run_define done
  obtain ⟨rfl, rfl⟩ := place.unique place_again
  have taken : again.takeTemp.2.blocks = [other] := sole
  exact ⟨_, rfl, _, _, place.define (continues _), rfl, rfl,
    Function.blocks_extendBlock taken _, rfl, rfl⟩

theorem append (drafts : builder.Drafts name signature params instructions)
    {instruction : Instruction} {value : Unit} (continues : instruction.isTerminator = false)
    (done : BuildM.append instruction builder = .ok value after) :
    after.Drafts name signature params (instructions ++ [instruction]) := by
  obtain ⟨function, block, place, rfl, rfl, sole, rfl, rfl⟩ := drafts
  obtain ⟨again, other, place_again, rfl⟩ := BuildM.run_append done
  obtain ⟨rfl, rfl⟩ := place.unique place_again
  exact ⟨_, _, place.append continues, rfl, rfl, Function.blocks_extendBlock sole _, rfl, rfl⟩

/-- A terminator makes the block the entry for good. -/
theorem terminate (drafts : builder.Drafts name signature params instructions)
    {instruction : Instruction} {value : Unit}
    (done : BuildM.append instruction builder = .ok value after) :
    ∃ function block, after.module.function? name = some function ∧
      function.signature = signature ∧ function.entry? = some block ∧ block.params = params ∧
      block.instructions = instructions ++ [instruction] := by
  obtain ⟨function, block, place, rfl, rfl, sole, rfl, rfl⟩ := drafts
  obtain ⟨again, other, place_again, rfl⟩ := BuildM.run_append done
  obtain ⟨rfl, rfl⟩ := place.unique place_again
  refine ⟨_, other.add instruction, Builder.function?_put_self (again.extendBlock _ _) again builder
    place.present, rfl, ?_, rfl, rfl⟩
  rw [ Function.entry?, Function.blocks_extendBlock sole]
  rfl

/-- Another function may be asked for. -/
theorem getOrCreate (drafts : builder.Drafts name signature params instructions) {other : String}
    {requested : Signature} {value : Value}
    (done : BuildM.getOrCreateFunction other requested builder = .ok value after) :
    after.Drafts name signature params instructions := by
  obtain ⟨_, ⟨_, _, _, rfl⟩ | ⟨_, rfl⟩⟩ := BuildM.run_getOrCreateFunction done
  · exact drafts
  · obtain ⟨function, block, place, known⟩ := drafts
    have present : builder.module.functions.find? (·.name == function.name) = some function :=
      place.present
    refine ⟨function, block, ⟨place.cursor, ?_, place.inside, place.pending⟩, known⟩
    simp [modifyModule, Module.function?, Module.addFunction, List.find?_append, present]

end Builder.Drafts

end IR

end Lowering
