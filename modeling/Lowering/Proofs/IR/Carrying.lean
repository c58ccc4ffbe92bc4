import Lowering.Proofs.IR.Steps

/-
This file says what a module carries along while it is built: every function keeps its signature,
and a first block that is terminated stays as it is. Inside a block nothing is added but instructions
and functions without blocks.
-/

namespace Lowering

namespace IR

namespace Module

/-- The blocks of the function that a name stands for. -/
def height (module : Module) (name : String) : Nat :=
  ((module.function? name).map (·.blocks.length)).getD 0

theorem height_of_function? {module : Module} {name : String} {function : Function}
    (found : module.function? name = some function) :
    module.height name = function.blocks.length := by
  simp [height, found]

/-- A function with blocks is there. -/
theorem height_pos_iff {module : Module} {name : String} :
    0 < module.height name ↔
      ∃ function, module.function? name = some function ∧ function.blocks ≠ [] := by
  cases found : module.function? name with
  | none => simp [height, found]
  | some function => simp [height, found, List.length_pos_iff]

theorem height_put {builder : Builder} (function : Function) {old : Function}
    (found : builder.module.function? function.name = some old) (name : String) :
    (builder.put function).module.height name =
      if name = function.name then function.blocks.length else builder.module.height name := by
  split
  next same => rw [same, height_of_function? (Builder.function?_put_self function old builder found)]
  next differ => rw [height, height, Builder.function?_put_of_ne function builder name differ]

theorem height_addBlock {builder : Builder} {function : Function}
    (found : builder.module.function? function.name = some function) (params : List OperandType)
    (name : String) : (builder.put (function.addBlock params).2).module.height name =
      builder.module.height name + if name = function.name then 1 else 0 := by
  rw [height_put (function.addBlock params).2 found, Function.name_addBlock]
  split
  next named => simp [named, height_of_function? found, Function.addBlock]
  next => rfl

/-- A function that is only declared has no blocks. -/
theorem height_addFunction (module : Module) (name : String) (signature : Signature)
    (other : String) :
    (module.addFunction (Function.declared name signature)).height other = module.height other := by
  unfold height function? addFunction
  rw [List.find?_append]
  cases found : module.functions.find? (·.name == other) with
  | some function => rfl
  | none =>
    by_cases same : name = other
    · simp [Function.declared, same]
    · simp [Function.declared, same]

end Module

/-- A terminated entry is not the block that is written. -/
theorem Function.entry?_extendBlock {function : Function} {label : LabelId} {block entry : Block}
    {instruction : Instruction} (inside : function.block? label = some block)
    (pending : block.isTerminated = false) (first : function.entry? = some entry)
    (ended : entry.isTerminated = true) :
    Function.entry? (function.extendBlock label instruction) = some entry := by
  unfold entry? at first ⊢
  unfold block? at inside
  unfold extendBlock modifyBlock
  cases blocks : function.blocks with
  | nil => simp [blocks] at first
  | cons head rest =>
    obtain rfl : head = entry := by simpa [blocks] using first
    have apart : head.label ≠ label := by
      intro same
      obtain rfl : head = block := by simpa [blocks, same] using inside
      rw [ended] at pending
      cases pending
    simp [modifyFirst, apart]

/-- What a module keeps when it is built further: signatures, and entries that are terminated. -/
def Module.Carries (before after : Module) : Prop :=
  ∀ name function, before.function? name = some function →
    ∃ later, after.function? name = some later ∧ later.signature = function.signature ∧
      ∀ block, function.entry? = some block → block.isTerminated = true →
        later.entry? = some block

namespace Module.Carries

theorem refl (module : Module) : module.Carries module :=
  fun _ function found => ⟨function, found, rfl, fun _ entry _ => entry⟩

theorem trans {before between after : Module} (first : before.Carries between)
    (rest : between.Carries after) : before.Carries after := by
  intro name function found
  obtain ⟨middle, present, signature, entry⟩ := first name function found
  obtain ⟨later, there, typed, last⟩ := rest name middle present
  exact ⟨later, there, typed.trans signature,
    fun block starts ended => last block (entry block starts ended) ended⟩

theorem isSome {before after : Module} (carries : before.Carries after) {name : String}
    (present : (before.function? name).isSome) : (after.function? name).isSome := by
  obtain ⟨function, found⟩ := Option.isSome_iff_exists.mp present
  obtain ⟨later, there, _⟩ := carries name function found
  simp [there]

theorem put {builder : Builder} (function : Function) {old : Function}
    (found : builder.module.function? function.name = some old)
    (signature : function.signature = old.signature)
    (entry : ∀ block, old.entry? = some block → block.isTerminated = true →
      function.entry? = some block) :
    builder.module.Carries (builder.put function).module := by
  intro name other present
  by_cases same : name = function.name
  · subst same
    obtain rfl := Option.some.inj (found.symm.trans present)
    exact ⟨function, Builder.function?_put_self function _ builder found, signature, entry⟩
  · rw [← Builder.function?_put_of_ne function builder name same] at present
    exact ⟨other, present, rfl, fun _ first _ => first⟩

theorem addFunction (module : Module) (function : Function) :
    module.Carries (module.addFunction function) := by
  intro name other present
  have present : module.functions.find? (·.name == name) = some other := present
  refine ⟨other, ?_, rfl, fun _ first _ => first⟩
  simp [function?, Module.addFunction, List.find?_append, present]

/-- A block is added after those that are there. -/
theorem addBlock {builder : Builder} {function : Function}
    (found : builder.module.function? function.name = some function) (params : List OperandType) :
    builder.module.Carries (builder.put (function.addBlock params).2).module := by
  refine .put (function.addBlock params).2 found rfl fun block first _ => ?_
  unfold Function.entry? at first ⊢
  simp [Function.addBlock, List.head?_append, first]

end Module.Carries

/-- The module is built further inside its blocks: there are no more of them, and no more tables. -/
structure Module.Continues (before after : Module) : Prop where
  carries : before.Carries after
  height : ∀ name, after.height name = before.height name
  tables : after.witnessTables = before.witnessTables

namespace Module.Continues

theorem refl (module : Module) : module.Continues module :=
  ⟨.refl module, fun _ => rfl, rfl⟩

theorem trans {before between after : Module} (first : before.Continues between)
    (rest : between.Continues after) : before.Continues after :=
  ⟨first.carries.trans rest.carries, fun name => (rest.height name).trans (first.height name),
    rest.tables.trans first.tables⟩

/-- An instruction is added to a block that is not terminated. -/
theorem extendBlock {builder : Builder} (function : Function) {old : Function} {block : Block}
    {instruction : Instruction} (found : builder.module.function? function.name = some old)
    (signature : function.signature = old.signature) (blocks : function.blocks = old.blocks)
    (inside : function.block? block.label = some block) (pending : block.isTerminated = false) :
    builder.module.Continues
      (builder.put (function.extendBlock block.label instruction)).module where
  carries := by
    refine .put (function.extendBlock block.label instruction) found signature
      fun entry first ended => ?_
    rw [ Function.entry?, ← blocks] at first
    exact Function.entry?_extendBlock inside pending first ended
  height name := by
    rw [height_put (function.extendBlock block.label instruction) found]
    split
    next named =>
      rw [named, Function.name_extendBlock, height_of_function? found, ← blocks]
      exact length_modifyFirst _ _ _
    next => rfl
  tables := rfl

theorem define {type : OperandType} {instruction : TempId → Instruction} {value : Value}
    {before after : Builder} (done : BuildM.define type instruction before = .ok value after) :
    before.module.Continues after.module := by
  obtain ⟨function, block, place, _, rfl⟩ := BuildM.run_define done
  exact extendBlock function.takeTemp.2 place.present rfl rfl place.inside place.pending

theorem append {instruction : Instruction} {value : Unit} {before after : Builder}
    (done : BuildM.append instruction before = .ok value after) :
    before.module.Continues after.module := by
  obtain ⟨function, block, place, rfl⟩ := BuildM.run_append done
  exact extendBlock function place.present rfl rfl place.inside place.pending

theorem addFunction (module : Module) (name : String) (signature : Signature) :
    module.Continues (module.addFunction (Function.declared name signature)) :=
  ⟨.addFunction _ _, height_addFunction module name signature, rfl⟩

theorem getOrCreate {name : String} {signature : Signature} {value : Value}
    {before after : Builder}
    (done : BuildM.getOrCreateFunction name signature before = .ok value after) :
    before.module.Continues after.module := by
  obtain ⟨_, ⟨_, _, _, rfl⟩ | ⟨_, rfl⟩⟩ := BuildM.run_getOrCreateFunction done
  · exact .refl _
  · exact .addFunction _ name signature

end Module.Continues

end IR

end Lowering
