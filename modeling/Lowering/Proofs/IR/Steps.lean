import Lowering.Proofs.Run

/-
This file says what each building step does when it returns: it puts one function in the place
of the function at the insertion point, or adds one.
-/

namespace Lowering

namespace IR

/-- The value that an instruction defines. -/
def Instruction.value? : Instruction → Option Value
  | allocStack result ty => some (Value.temp result (.address ty))
  | allocExistential result _ witness => some (Value.temp result (.address witness))
  | load result _ type | unsafeCastAddr result _ type | recordMemberAddr result _ _ _ type
  | apply result _ _ type | partialApply result _ _ type | openExistential result _ type
  | openExistentialAddr result _ type => some (Value.temp result type)
  | store .. | copyAddr .. | ret _ | halt => none

theorem Instruction.result?_eq_value? (instruction : Instruction) :
    instruction.result? = instruction.value?.bind Value.temp? := by
  cases instruction <;> rfl

/-- What defines a value does not end its block. -/
theorem Instruction.continues_of_value? {instruction : Instruction} {value : Value}
    (defines : instruction.value? = some value) : instruction.isTerminator = false := by
  cases instruction <;> first | rfl | cases defines

namespace Builder

/-- The builder with another function of the same name. -/
def put (function : Function) (builder : Builder) : Builder :=
  builder.modifyModule (Module.modifyFunction · function.name fun _ => function)

/-- The insertion point lies in a block that is not terminated. -/
structure At (builder : Builder) (function : Function) (block : Block) : Prop where
  cursor : builder.cursor = some ⟨function.name, block.label⟩
  present : builder.module.function? function.name = some function
  inside : function.block? block.label = some block
  pending : block.isTerminated = false

@[simp] theorem cursor_put (function : Function) (builder : Builder) :
    (builder.put function).cursor = builder.cursor := rfl

theorem function?_put_self (function old : Function) (builder : Builder)
    (found : builder.module.function? function.name = some old) :
    (builder.put function).module.function? function.name = some function := by
  have kept := find?_modifyFirst (·.name == function.name) (fun _ => function) (by simp)
    builder.module.functions
  have found : builder.module.functions.find? (·.name == function.name) = some old := found
  rw [found] at kept
  exact kept

theorem function?_put_of_ne (function : Function) (builder : Builder) (name : String)
    (differ : name ≠ function.name) :
    (builder.put function).module.function? name = builder.module.function? name := by
  apply find?_modifyFirst_of_apart
  intro old named
  have same : old.name = function.name := by simpa using named
  constructor
  · simp [same, Ne.symm differ]
  · simp [Ne.symm differ]

theorem put_put (first second : Function) (builder : Builder) (same : second.name = first.name) :
    (builder.put first).put second = builder.put second := by
  simp only [put, modifyModule, Module.modifyFunction, same]
  rw [modifyFirst_modifyFirst _ _ _ _ (by simp)]
  rfl

end Builder

namespace Module

theorem name_of_function? {module : Module} {name : String} {function : Function}
    (found : module.function? name = some function) : function.name = name := by
  simpa using List.find?_some found

theorem mem_of_function? {module : Module} {name : String} {function : Function}
    (found : module.function? name = some function) : function ∈ module.functions :=
  List.mem_of_find?_eq_some found

end Module

namespace Function

theorem label_of_block? {function : Function} {label : LabelId} {block : Block}
    (found : function.block? label = some block) : block.label = label := by
  simpa using List.find?_some found

theorem mem_of_block? {function : Function} {label : LabelId} {block : Block}
    (found : function.block? label = some block) : block ∈ function.blocks :=
  List.mem_of_find?_eq_some found

/-- The function with a longer block. -/
def extendBlock (function : Function) (label : LabelId) (instruction : Instruction) : Function :=
  function.modifyBlock label (Block.add · instruction)

@[simp] theorem name_extendBlock (function : Function) (label : LabelId)
    (instruction : Instruction) : (function.extendBlock label instruction).name = function.name :=
  rfl

@[simp] theorem name_takeTemp (function : Function) : function.takeTemp.2.name = function.name :=
  rfl

@[simp] theorem name_addBlock (function : Function) (params : List OperandType) :
    (function.addBlock params).2.name = function.name := rfl

end Function

namespace BuildM

theorem run_requireCursor {before after : Builder} {cursor : Cursor}
    (done : requireCursor before = .ok cursor after) :
    before.cursor = some cursor ∧ after = before := by
  unfold requireCursor at done
  rw [run_bind] at done
  obtain ⟨_, _, read, rest⟩ := done
  obtain ⟨rfl, rfl⟩ := (run_get _ _ _).mp read
  cases found : before.cursor with
  | none => simp [found] at rest
  | some given =>
    simp only [found, run_pure] at rest
    obtain ⟨rfl, rfl⟩ := rest
    exact ⟨rfl, rfl⟩

theorem run_requireFunction {name : String} {before after : Builder} {function : Function}
    (done : requireFunction name before = .ok function after) :
    before.module.function? name = some function ∧ after = before := by
  unfold requireFunction at done
  rw [run_bind] at done
  obtain ⟨_, _, read, rest⟩ := done
  obtain ⟨rfl, rfl⟩ := (run_get _ _ _).mp read
  cases found : before.module.function? name with
  | none => simp [found] at rest
  | some given =>
    simp only [found, run_pure] at rest
    obtain ⟨rfl, rfl⟩ := rest
    exact ⟨rfl, rfl⟩

@[simp] theorem run_modifyFunction (name : String) (change : Function → Function)
    (before after : Builder) (value : Unit) :
    modifyFunction name change before = .ok value after ↔
      before.modifyModule (Module.modifyFunction · name change) = after :=
  run_modify _ before after value

@[simp] theorem run_setCursor (cursor : Option Cursor) (before after : Builder) (value : Unit) :
    setCursor cursor before = .ok value after ↔ { before with cursor := cursor } = after :=
  run_modify _ before after value

@[simp] theorem run_addWitnessTable (table : WitnessTable) (before after : Builder)
    (value : Unit) :
    addWitnessTable table before = .ok value after ↔
      before.modifyModule (Module.addWitnessTable · table) = after :=
  run_modify _ before after value

theorem run_takeTemp {before after : Builder} {id : TempId}
    (done : takeTemp before = .ok id after) :
    ∃ cursor function, before.cursor = some cursor ∧
      before.module.function? cursor.function = some function ∧ id = function.temps.issued ∧
      after = before.put function.takeTemp.2 := by
  unfold takeTemp at done
  rw [run_bind] at done
  obtain ⟨cursor, between, atCursor, rest⟩ := done
  obtain ⟨placed, rfl⟩ := run_requireCursor atCursor
  rw [run_bind] at rest
  obtain ⟨function, between, required, rest⟩ := rest
  obtain ⟨found, rfl⟩ := run_requireFunction required
  rw [run_bind] at rest
  obtain ⟨_, between, changed, rest⟩ := rest
  rw [run_modifyFunction] at changed
  rw [run_pure] at rest
  obtain ⟨rfl, rfl⟩ := rest
  have named := Module.name_of_function? found
  refine ⟨cursor, function, placed, found, rfl, ?_⟩
  rw [← changed, Builder.put, Function.name_takeTemp, named]

/-- An instruction is added to the block at the insertion point, which is not terminated. -/
theorem run_append {instruction : Instruction} {before after : Builder} {value : Unit}
    (done : append instruction before = .ok value after) :
    ∃ function block, before.At function block ∧
      after = before.put (function.extendBlock block.label instruction) := by
  unfold append at done
  rw [run_bind] at done
  obtain ⟨cursor, between, atCursor, rest⟩ := done
  obtain ⟨placed, rfl⟩ := run_requireCursor atCursor
  rw [run_bind] at rest
  obtain ⟨function, between, required, rest⟩ := rest
  obtain ⟨found, rfl⟩ := run_requireFunction required
  have named := Module.name_of_function? found
  cases inside : function.block? cursor.block with
  | none => simp [inside] at rest
  | some block =>
    have labelled := Function.label_of_block? inside
    simp only [inside] at rest
    by_cases ended : block.isTerminated = true
    · simp only [ended, if_true, run_bind, run_throw, false_and, exists_false] at rest
    · simp only [ended] at rest
      have changed := (run_modifyFunction _ _ _ _ _).mp rest
      refine ⟨function, block, ⟨?_, ?_, ?_, by simpa using ended⟩, ?_⟩
      · rw [placed, named, labelled]
      · rw [named, found]
      · rw [labelled, inside]
      · rw [← changed, Builder.put, Function.name_extendBlock, named, Builder.modifyModule,
          Builder.modifyModule, Module.modifyFunction, Module.modifyFunction,
          modifyFirst_of_find? _ _ _ _ found, labelled]
        rfl

/-- An instruction that defines something takes the next temporary of its function. -/
theorem run_define {type : OperandType} {instruction : TempId → Instruction}
    {before after : Builder} {value : Value} (done : define type instruction before = .ok value after) :
    ∃ function block, before.At function block ∧
      value = Value.temp function.temps.issued type ∧
      after = before.put
        (function.takeTemp.2.extendBlock block.label (instruction function.temps.issued)) := by
  unfold define at done
  rw [run_bind] at done
  obtain ⟨id, between, taken, rest⟩ := done
  obtain ⟨cursor, function, placed, found, rfl, rfl⟩ := run_takeTemp taken
  rw [run_bind] at rest
  obtain ⟨_, last, appended, rest⟩ := rest
  obtain ⟨rfl, rfl⟩ := (run_pure _ _ _ _).mp rest
  obtain ⟨after, block, place, rfl⟩ := run_append appended
  have named := Module.name_of_function? found
  have here : cursor = ⟨after.name, block.label⟩ := by
    have both := place.cursor
    rw [Builder.cursor_put, placed] at both
    simpa using both
  have same : after = function.takeTemp.2 := by
    have present := place.present
    have name : after.name = function.takeTemp.2.name := by
      rw [Function.name_takeTemp, named, here]
    rw [name, Builder.function?_put_self _ function _ (by rw [Function.name_takeTemp, named, found])]
      at present
    simpa using present.symm
  subst same
  refine ⟨function, block, ⟨?_, ?_, place.inside, place.pending⟩, rfl, ?_⟩
  · rw [placed, here, Function.name_takeTemp]
  · rw [named, found]
  · exact Builder.put_put _ _ _ rfl

theorem run_requireAddress {opcode : String} {operand : Value} {before after : Builder}
    {value : Unit} (done : requireAddress opcode operand before = .ok value after) :
    (operand.isAddress || operand.isError) = true ∧ after = before := by
  unfold requireAddress at done
  split at done
  next holds => exact ⟨holds, ((run_pure _ _ _ _).mp done).2.symm⟩
  next => simp at done

/-- The check of an operand changes nothing. -/
theorem run_requireAddress_bind {A : Type} {opcode : String} {operand : Value} {next : BuildM A}
    {before after : Builder} {value : A}
    (done : (requireAddress opcode operand >>= fun _ => next) before = .ok value after) :
    next before = .ok value after := by
  obtain ⟨_, between, checked, ran⟩ := (run_bind _ _ _ _ _).mp done
  obtain ⟨_, rfl⟩ := run_requireAddress checked
  exact ran

/-- A block is added at the end of its function. -/
theorem run_createBlock {name : String} {params : List OperandType} {before after : Builder}
    {label : LabelId} {args : List Value}
    (done : createBlock name params before = .ok (label, args) after) :
    ∃ function, before.module.function? name = some function ∧
      label = (function.addBlock params).1.label ∧
      args = (function.addBlock params).1.paramValues ∧
      after = before.put (function.addBlock params).2 := by
  unfold createBlock at done
  rw [run_bind] at done
  obtain ⟨function, between, required, rest⟩ := done
  obtain ⟨found, rfl⟩ := run_requireFunction required
  rw [run_bind] at rest
  obtain ⟨_, last, changed, rest⟩ := rest
  rw [run_modifyFunction] at changed
  obtain ⟨same, rfl⟩ := (run_pure _ _ _ _).mp rest
  obtain ⟨rfl, rfl⟩ := Prod.mk.inj same
  refine ⟨function, found, rfl, rfl, ?_⟩
  rw [← changed, Builder.put, Function.name_addBlock, Module.name_of_function? found]

/-- A function is added unless one of its name is there, with the same signature. -/
theorem run_getOrCreateFunction {name : String} {signature : Signature} {before after : Builder}
    {value : Value} (done : getOrCreateFunction name signature before = .ok value after) :
    value = Value.function name signature.funType ∧
      ((∃ function, before.module.function? name = some function ∧
          function.signature = signature ∧ after = before) ∨
        (before.module.function? name = none ∧
          after = before.modifyModule
            (Module.addFunction · (Function.declared name signature)))) := by
  unfold getOrCreateFunction at done
  rw [run_bind] at done
  obtain ⟨_, _, read, rest⟩ := done
  obtain ⟨rfl, rfl⟩ := (run_get _ _ _).mp read
  cases found : before.module.function? name with
  | some existing =>
    simp only [found] at rest
    by_cases same : existing.signature = signature
    · simp only [same, ne_eq, not_true_eq_false, if_false, run_pure] at rest
      obtain ⟨rfl, rfl⟩ := rest
      exact ⟨rfl, Or.inl ⟨existing, rfl, same, rfl⟩⟩
    · simp only [ne_eq, same, not_false_eq_true, if_true, run_bind, run_throw, false_and,
        exists_false] at rest
  | none =>
    simp only [found] at rest
    rw [run_bind] at rest
    obtain ⟨_, _, changed, rest⟩ := rest
    rw [run_modify] at changed
    obtain ⟨rfl, rfl⟩ := (run_pure _ _ _ _).mp rest
    exact ⟨rfl, Or.inr ⟨rfl, changed.symm⟩⟩

/-- A function that is there is refused another signature. -/
theorem run_getOrCreateFunction_error {name : String} {signature : Signature}
    {before after : Builder} {error : BuildError}
    (stops : getOrCreateFunction name signature before = .error error after) :
    ∃ existing, before.module.function? name = some existing ∧ existing.signature ≠ signature ∧
      error = .signatureMismatch name existing.signature signature ∧ after = before := by
  unfold getOrCreateFunction at stops
  obtain stops | ⟨_, _, read, stops⟩ := (run_bind_error _ _ _ _ _).mp stops
  · cases stops
  obtain ⟨rfl, rfl⟩ := (run_get _ _ _).mp read
  cases found : before.module.function? name with
  | none =>
    simp only [found] at stops
    obtain stops | ⟨_, _, _, stops⟩ := (run_bind_error _ _ _ _ _).mp stops
    · exact ((run_modify_error _ _ _ _).mp stops).elim
    · exact ((run_pure_error _ _ _ _).mp stops).elim
  | some existing =>
    simp only [found] at stops
    split at stops
    next differs =>
      obtain stops | ⟨_, _, impossible, _⟩ := (run_bind_error _ _ _ _ _).mp stops
      · obtain ⟨rfl, rfl⟩ := (run_throw_error _ _ _ _).mp stops
        exact ⟨existing, rfl, differs, rfl, rfl⟩
      · exact ((run_throw _ _ _ _).mp impossible).elim
    next => exact ((run_pure_error _ _ _ _).mp stops).elim

/-- A function is there once it was asked for. -/
theorem function?_of_getOrCreate {name : String} {signature : Signature} {value : Value}
    {before after : Builder} (done : getOrCreateFunction name signature before = .ok value after) :
    ∃ function, after.module.function? name = some function ∧ function.signature = signature := by
  obtain ⟨_, ⟨function, found, typed, rfl⟩ | ⟨absent, rfl⟩⟩ := run_getOrCreateFunction done
  · exact ⟨function, found, typed⟩
  · have missing : before.module.functions.find? (·.name == name) = none := absent
    exact ⟨Function.declared name signature, by
      simp [Builder.modifyModule, Module.function?, Module.addFunction, List.find?_append, missing,
        Function.declared], rfl⟩

end BuildM

end IR

end Lowering
