import Lowering.Proofs.IR.Steps

/-
This file orders modules by growth. While one block is open, every other block stays as it is, and
the open one only gets longer.
-/

namespace Lowering

namespace IR

/-- What a function keeps while the block at `opened` is written. -/
structure Function.Grows (opened : Option Cursor) (before after : Function) : Prop where
  signature : after.signature = before.signature
  blocks : ∀ label block, before.block? label = some block →
    ∃ later, after.block? label = some later ∧ later.params = block.params ∧
      block.instructions <+: later.instructions ∧
      (opened = some ⟨before.name, label⟩ ∨ later.instructions = block.instructions)

/-- What a module keeps while the block at `opened` is written. -/
structure Module.Grows (opened : Option Cursor) (before after : Module) : Prop where
  functions : ∀ name function, before.function? name = some function →
    ∃ later, after.function? name = some later ∧ function.Grows opened later
  tables : before.witnessTables <+: after.witnessTables

namespace Function.Grows

variable {opened : Option Cursor} {first second third : Function}

theorem refl (opened : Option Cursor) (function : Function) : function.Grows opened function :=
  ⟨rfl, fun _ block found => ⟨block, found, rfl, List.prefix_refl _, Or.inr rfl⟩⟩

theorem trans (same : second.name = first.name) (start : first.Grows opened second)
    (rest : second.Grows opened third) : first.Grows opened third := by
  refine ⟨rest.signature.trans start.signature, ?_⟩
  intro label block found
  obtain ⟨middle, foundMiddle, params, longer, change⟩ := start.blocks label block found
  obtain ⟨last, foundLast, lastParams, lastLonger, lastChange⟩ :=
    rest.blocks label middle foundMiddle
  refine ⟨last, foundLast, lastParams.trans params, longer.trans lastLonger, ?_⟩
  rcases change with here | kept
  · exact Or.inl here
  · rcases lastChange with here | lastKept
    · exact Or.inl (same ▸ here)
    · exact Or.inr (lastKept.trans kept)

/-- A block that is not open stays the same. -/
theorem block?_eq {label : LabelId} {block : Block} (grown : first.Grows opened second)
    (found : first.block? label = some block) (closed : opened ≠ some ⟨first.name, label⟩) :
    second.block? label = some block := by
  obtain ⟨later, foundLater, params, _, change⟩ := grown.blocks label block found
  have same : later = block := by
    have labels := (Function.label_of_block? foundLater).trans
      (Function.label_of_block? found).symm
    have instructions := change.resolve_left closed
    cases later
    cases block
    simp_all
  rw [foundLater, same]

theorem of_closed (grown : first.Grows none second) : first.Grows opened second := by
  refine ⟨grown.signature, ?_⟩
  intro label block found
  exact ⟨block, grown.block?_eq found (by simp), rfl, List.prefix_refl _, Or.inr rfl⟩

theorem extendBlock {function : Function} {label : LabelId} {block : Block}
    (found : function.block? label = some block) (instruction : Instruction) :
    function.Grows (some ⟨function.name, label⟩) (function.extendBlock label instruction) := by
  refine ⟨rfl, ?_⟩
  intro other old foundOld
  by_cases same : other = label
  · subst same
    obtain rfl : block = old := by simpa [found] using foundOld
    refine ⟨block.add instruction, ?_, rfl, List.prefix_append _ _, Or.inl rfl⟩
    have kept := find?_modifyFirst (·.label == other) (Block.add · instruction) (by simp [Block.add])
      function.blocks
    have found : function.blocks.find? (·.label == other) = some block := found
    rw [found] at kept
    exact kept
  · refine ⟨old, ?_, rfl, List.prefix_refl _, Or.inr rfl⟩
    rw [← foundOld]
    apply find?_modifyFirst_of_apart
    intro item labelled
    have labelled : item.label = label := by simpa using labelled
    simp [Block.add, labelled, Ne.symm same]

theorem takeTemp (opened : Option Cursor) (function : Function) :
    function.Grows opened function.takeTemp.2 :=
  ⟨rfl, fun _ block found => ⟨block, found, rfl, List.prefix_refl _, Or.inr rfl⟩⟩

theorem addBlock (function : Function) (params : List OperandType) :
    function.Grows none (function.addBlock params).2 := by
  refine ⟨rfl, ?_⟩
  intro label block found
  refine ⟨block, ?_, rfl, List.prefix_refl _, Or.inr rfl⟩
  have found : function.blocks.find? (·.label == label) = some block := found
  simp [Function.block?, Function.addBlock, List.find?_append, found]

end Function.Grows

namespace Module.Grows

variable {opened : Option Cursor} {first second third : Module}

theorem refl (opened : Option Cursor) (module : Module) : module.Grows opened module :=
  ⟨fun _ function found => ⟨function, found, .refl opened function⟩, List.prefix_refl _⟩

theorem trans (start : first.Grows opened second) (rest : second.Grows opened third) :
    first.Grows opened third := by
  refine ⟨?_, start.tables.trans rest.tables⟩
  intro name function found
  obtain ⟨middle, foundMiddle, grown⟩ := start.functions name function found
  obtain ⟨last, foundLast, lastGrown⟩ := rest.functions name middle foundMiddle
  have same : middle.name = function.name :=
    (name_of_function? foundMiddle).trans (name_of_function? found).symm
  exact ⟨last, foundLast, grown.trans same lastGrown⟩

theorem of_closed (grown : first.Grows none second) : first.Grows opened second := by
  refine ⟨?_, grown.tables⟩
  intro name function found
  obtain ⟨later, foundLater, growth⟩ := grown.functions name function found
  exact ⟨later, foundLater, growth.of_closed⟩

theorem put {builder : Builder} {old function : Function}
    (found : builder.module.function? function.name = some old)
    (grown : old.Grows opened function) :
    builder.module.Grows opened (builder.put function).module := by
  refine ⟨?_, List.prefix_refl _⟩
  intro name other foundOther
  by_cases same : name = function.name
  · subst same
    obtain rfl : old = other := by simpa [found] using foundOther
    exact ⟨function, Builder.function?_put_self function old builder found, grown⟩
  · rw [← Builder.function?_put_of_ne function builder name same] at foundOther
    exact ⟨other, foundOther, .refl opened other⟩

theorem addFunction (opened : Option Cursor) (module : Module) (function : Function) :
    module.Grows opened (module.addFunction function) := by
  refine ⟨?_, List.prefix_refl _⟩
  intro name other found
  refine ⟨other, ?_, .refl opened other⟩
  have found : module.functions.find? (·.name == name) = some other := found
  simp [Module.function?, Module.addFunction, List.find?_append, found]

theorem addWitnessTable (opened : Option Cursor) (module : Module) (table : WitnessTable) :
    module.Grows opened (module.addWitnessTable table) :=
  ⟨fun _ function found => ⟨function, found, .refl opened function⟩, List.prefix_append _ _⟩

/-- What was written with one block open keeps all that was there before the block was. -/
theorem close {opening : Cursor} (grown : first.Grows (some opening) second)
    (fresh : ∀ function, first.function? opening.function = some function →
      function.block? opening.block = none) :
    first.Grows none second := by
  refine ⟨?_, grown.tables⟩
  intro name function found
  obtain ⟨later, foundLater, growth⟩ := grown.functions name function found
  refine ⟨later, foundLater, growth.signature, ?_⟩
  intro label block inside
  have closed : some opening ≠ some ⟨function.name, label⟩ := by
    intro same
    obtain rfl := Option.some.inj same
    have missing := fresh function (by rw [name_of_function? found]; exact found)
    rw [inside] at missing
    cases missing
  exact ⟨block, growth.block?_eq inside closed, rfl, List.prefix_refl _, Or.inr rfl⟩

end Module.Grows

/-- A block is found where it was, one instruction longer. -/
theorem Function.block?_extendBlock {function : Function} {label : LabelId} {block : Block}
    (inside : function.block? label = some block) (instruction : Instruction) :
    (function.extendBlock label instruction).block? label = some (block.add instruction) := by
  have kept := find?_modifyFirst (·.label == label) (Block.add · instruction)
    (by simp [Block.add]) function.blocks
  have found : function.blocks.find? (·.label == label) = some block := inside
  rw [found] at kept
  exact kept

theorem Function.extendBlock_ne_nil {function : Function} {label : LabelId} {block : Block}
    (inside : function.block? label = some block) (instruction : Instruction) :
    (function.extendBlock label instruction).blocks ≠ [] :=
  List.ne_nil_of_mem (Function.mem_of_block? (Function.block?_extendBlock inside instruction))

namespace Builder.At

variable {builder : Builder} {function : Function} {block : Block}

theorem block?_extendBlock (place : builder.At function block) (instruction : Instruction) :
    (function.extendBlock block.label instruction).block? block.label =
      some (block.add instruction) :=
  Function.block?_extendBlock place.inside instruction

/-- The insertion point stays open after an instruction that is no terminator. -/
theorem put (place : builder.At function block) {later : Function} {longer : Block}
    (name : later.name = function.name) (label : longer.label = block.label)
    (inside : later.block? block.label = some longer) (pending : longer.isTerminated = false) :
    (builder.put later).At later longer := by
  refine ⟨?_, ?_, ?_, pending⟩
  · rw [cursor_put, place.cursor, name, label]
  · exact function?_put_self later function builder (by rw [name]; exact place.present)
  · rw [label, inside]

/-- The block is longer and still open. -/
theorem append (place : builder.At function block) {instruction : Instruction}
    (continues : instruction.isTerminator = false) :
    (builder.put (function.extendBlock block.label instruction)).At
      (function.extendBlock block.label instruction) (block.add instruction) :=
  place.put rfl rfl (place.block?_extendBlock instruction)
    ((Block.isTerminated_add block instruction).trans continues)

theorem define (place : builder.At function block) {instruction : Instruction}
    (continues : instruction.isTerminator = false) :
    (builder.put (function.takeTemp.2.extendBlock block.label instruction)).At
      (function.takeTemp.2.extendBlock block.label instruction) (block.add instruction) :=
  place.put rfl rfl (place.block?_extendBlock instruction)
    ((Block.isTerminated_add block instruction).trans continues)

theorem currentBlock (place : builder.At function block) :
    builder.currentBlock = .ok block := by
  simp [Builder.currentBlock, place.cursor, place.present, place.inside]

theorem isTerminated (place : builder.At function block) : builder.isTerminated = false := by
  simp [Builder.isTerminated, place.currentBlock, place.pending]

theorem unique (place : builder.At function block) {other : Function} {otherBlock : Block}
    (same : builder.At other otherBlock) : other = function ∧ otherBlock = block := by
  have cursors := place.cursor.symm.trans same.cursor
  simp only [Option.some.injEq, Cursor.mk.injEq] at cursors
  have functions := same.present
  rw [← cursors.1, place.present] at functions
  obtain rfl := Option.some.inj functions
  have blocks := same.inside
  rw [← cursors.2, place.inside] at blocks
  exact ⟨rfl, (Option.some.inj blocks).symm⟩

end Builder.At

/-! Building steps return wherever the insertion point is open. -/

theorem BuildM.requireFunction_eq {name : String} {builder : Builder} {function : Function}
    (found : builder.module.function? name = some function) :
    requireFunction name builder = .ok function builder := by
  refine (run_bind _ _ _ _ _).mpr ⟨builder, builder, rfl, ?_⟩
  rw [found]
  rfl

theorem BuildM.createBlock_eq {name : String} {builder : Builder} {function : Function}
    (found : builder.module.function? name = some function) (params : List OperandType) :
    createBlock name params builder =
      .ok ((function.addBlock params).1.label, (function.addBlock params).1.paramValues)
        (builder.put (function.addBlock params).2) := by
  obtain rfl := Module.name_of_function? found
  refine (run_bind _ _ _ _ _).mpr ⟨_, _, requireFunction_eq found, ?_⟩
  exact (run_bind _ _ _ _ _).mpr ⟨(), _, (run_modifyFunction _ _ _ _ _).mpr rfl, rfl⟩

namespace Builder.At

variable {builder : Builder} {function : Function} {block : Block}

theorem append_eq (place : builder.At function block) (instruction : Instruction) :
    BuildM.append instruction builder =
      .ok () (builder.put (function.extendBlock block.label instruction)) := by
  have cursor : BuildM.requireCursor builder = .ok ⟨function.name, block.label⟩ builder := by
    refine (run_bind _ _ _ _ _).mpr ⟨builder, builder, rfl, ?_⟩
    rw [place.cursor]
    rfl
  refine (run_bind _ _ _ _ _).mpr ⟨_, _, cursor, ?_⟩
  refine (run_bind _ _ _ _ _).mpr ⟨_, _, BuildM.requireFunction_eq place.present, ?_⟩
  rw [place.inside]
  dsimp only
  rw [place.pending]
  refine (BuildM.run_modifyFunction _ _ _ _ _).mpr ?_
  rw [Builder.put, Builder.modifyModule, Builder.modifyModule, Module.modifyFunction,
    Module.modifyFunction, modifyFirst_of_find? _ _ _ _ place.present]
  rfl

theorem define_eq (place : builder.At function block) (type : OperandType)
    (instruction : TempId → Instruction) :
    BuildM.define type instruction builder = .ok (Value.temp function.temps.issued type)
      (builder.put
        (function.takeTemp.2.extendBlock block.label (instruction function.temps.issued))) := by
  have taken : BuildM.takeTemp builder =
      .ok function.temps.issued (builder.put function.takeTemp.2) := by
    have cursor : BuildM.requireCursor builder = .ok ⟨function.name, block.label⟩ builder := by
      refine (run_bind _ _ _ _ _).mpr ⟨builder, builder, rfl, ?_⟩
      rw [place.cursor]
      rfl
    refine (run_bind _ _ _ _ _).mpr ⟨_, _, cursor, ?_⟩
    exact (run_bind _ _ _ _ _).mpr ⟨_, _, BuildM.requireFunction_eq place.present, rfl⟩
  have later : (builder.put function.takeTemp.2).At function.takeTemp.2 block :=
    place.put rfl rfl place.inside place.pending
  refine (run_bind _ _ _ _ _).mpr ⟨_, _, taken, ?_⟩
  refine (run_bind _ _ _ _ _).mpr ⟨_, _, later.append_eq _, ?_⟩
  rw [Builder.put_put _ _ _ (by simp)]
  rfl

/-- An instruction that leaves the insertion point open is no terminator. -/
theorem of_put (place : builder.At function block) {base later : Function} {longer : Block}
    {instruction : Instruction} (name : base.name = function.name)
    (inside : base.block? block.label = some block)
    (after : (builder.put (base.extendBlock block.label instruction)).At later longer) :
    later = base.extendBlock block.label instruction ∧ instruction.isTerminator = false := by
  have cursors := place.cursor.symm.trans after.cursor
  simp only [Option.some.injEq, Cursor.mk.injEq] at cursors
  have present := after.present
  rw [← cursors.1, ← name, ← Function.name_extendBlock base block.label instruction,
    Builder.function?_put_self _ function _ (by simp [name, place.present])] at present
  have last := after.inside
  rw [← cursors.2, ← Option.some.inj present, Function.block?_extendBlock inside] at last
  refine ⟨(Option.some.inj present).symm, ?_⟩
  rw [← Block.isTerminated_add block instruction, Option.some.inj last]
  exact after.pending

end Builder.At

end IR

end Lowering
