import Lowering.Proofs.IR.Growth

/-
This file says which instructions a building step writes. They are added to the block at the insertion
point, and nothing that was there before is changed.
-/

namespace Lowering

namespace IR

/-- The result of a call, if the instruction is one. -/
def Instruction.applied? : Instruction → Option OperandType
  | .apply _ _ _ type => some type
  | _ => none

/-- The results of the calls among instructions, in their order. -/
def Instruction.applied (instructions : List Instruction) : List OperandType :=
  instructions.filterMap applied?

/-- The block with further instructions at its end. -/
def Block.addAll (block : Block) (instructions : List Instruction) : Block :=
  { block with instructions := block.instructions ++ instructions }

@[simp] theorem Block.addAll_nil (block : Block) : block.addAll [] = block := by
  simp [addAll]

@[simp] theorem Block.addAll_addAll (block : Block) (first second : List Instruction) :
    (block.addAll first).addAll second = block.addAll (first ++ second) := by
  simp [addAll]

theorem Block.add_eq_addAll (block : Block) (instruction : Instruction) :
    block.add instruction = block.addAll [instruction] := rfl

/-- The block at a place. -/
def Module.block? (module : Module) (place : Cursor) : Option Block :=
  (module.function? place.function).bind (·.block? place.block)

namespace Builder

/-- These instructions were added at the insertion point, and nothing else was written. -/
structure Writes (before : Builder) (written : List Instruction) (after : Builder) : Prop where
  cursor : after.cursor = before.cursor
  placed : written ≠ [] → ∃ place block,
    before.cursor = some place ∧ before.module.block? place = some block
  blocks : ∀ place, after.module.block? place =
    (before.module.block? place).map
      fun block => if before.cursor = some place then block.addAll written else block

theorem Writes.refl (builder : Builder) : builder.Writes [] builder where
  cursor := rfl
  placed none := (none rfl).elim
  blocks place := by simp

theorem Writes.trans {first second third : Builder} {start rest : List Instruction}
    (begins : first.Writes start second) (ends : second.Writes rest third) :
    first.Writes (start ++ rest) third where
  cursor := ends.cursor.trans begins.cursor
  placed some := by
    by_cases none : start = []
    · subst none
      obtain ⟨place, block, here, found⟩ := ends.placed (by simpa using some)
      rw [begins.blocks] at found
      obtain ⟨old, found, _⟩ := Option.map_eq_some_iff.mp found
      exact ⟨place, old, begins.cursor ▸ here, found⟩
    · exact begins.placed none
  blocks place := by
    rw [ends.blocks, begins.blocks, begins.cursor, Option.map_map]
    congr 1
    funext block
    by_cases here : first.cursor = some place <;> simp [here]

/-- A step that leaves every block as it is writes nothing. -/
theorem Writes.of_blocks {before after : Builder} (cursor : after.cursor = before.cursor)
    (same : ∀ place, after.module.block? place = before.module.block? place) :
    before.Writes [] after where
  cursor := cursor
  placed none := (none rfl).elim
  blocks place := by simp [same]

end Builder

theorem Function.block?_extendBlock_of_ne (function : Function) {label other : LabelId}
    (differ : other ≠ label) (instruction : Instruction) :
    (function.extendBlock label instruction).block? other = function.block? other := by
  apply find?_modifyFirst_of_apart
  intro block labelled
  obtain rfl : block.label = label := by simpa using labelled
  exact ⟨by simpa using differ.symm, by simpa [Block.add] using differ.symm⟩

/-- The block at the insertion point gets longer, whatever else changed in its function. -/
theorem Builder.At.writes {builder : Builder} {function : Function} {block : Block}
    (place : builder.At function block) (later : Function) (name : later.name = function.name)
    (blocks : later.blocks = function.blocks) (instruction : Instruction) :
    builder.Writes [instruction] (builder.put (later.extendBlock block.label instruction)) where
  cursor := rfl
  placed _ := ⟨_, block, place.cursor, by simp [Module.block?, place.present, place.inside]⟩
  blocks other := by
    have same (label : LabelId) : later.block? label = function.block? label := by
      rw [Function.block?, Function.block?, blocks]
    have grown : (later.extendBlock block.label instruction).name = function.name := name
    have put := Builder.function?_put_self _ function builder (grown.symm ▸ place.present)
    rw [grown] at put
    obtain ⟨other, label⟩ := other
    by_cases here : other = function.name
    · subst here
      simp only [Module.block?, put, place.present, Option.bind_some, place.cursor]
      by_cases there : label = block.label
      · subst there
        rw [place.inside, Function.block?_extendBlock ((same _).trans place.inside)]
        simp [Block.add_eq_addAll]
      · rw [Function.block?_extendBlock_of_ne later there, same]
        simp [Ne.symm there]
    · rw [Module.block?, Module.block?,
        Builder.function?_put_of_ne _ builder other (grown.symm ▸ here)]
      simp [place.cursor, Ne.symm here]

namespace BuildM

variable {before after : Builder}

theorem writes_append {instruction : Instruction} {value : Unit}
    (done : append instruction before = .ok value after) : before.Writes [instruction] after := by
  obtain ⟨function, block, place, rfl⟩ := run_append done
  exact place.writes function rfl rfl instruction

theorem writes_define {type : OperandType} {instruction : TempId → Instruction} {value : Value}
    (done : define type instruction before = .ok value after) :
    ∃ id, before.Writes [instruction id] after ∧ value = Value.temp id type := by
  obtain ⟨function, block, place, rfl, rfl⟩ := run_define done
  exact ⟨_, place.writes function.takeTemp.2 rfl rfl _, rfl⟩

theorem writes_getOrCreateFunction {name : String} {signature : Signature} {value : Value}
    (done : getOrCreateFunction name signature before = .ok value after) :
    before.Writes [] after := by
  obtain ⟨_, ⟨_, _, _, rfl⟩ | ⟨absent, rfl⟩⟩ := run_getOrCreateFunction done
  · exact .refl _
  · refine .of_blocks rfl fun place => ?_
    have absent : before.module.functions.find? (·.name == name) = none := absent
    by_cases here : name = place.function
    · subst here
      simp [Builder.modifyModule, Module.block?, Module.function?, Module.addFunction, List.find?_append,
        absent, Function.block?, Function.declared]
    · have missed : (name == place.function) = false := by simpa using here
      simp [Builder.modifyModule, Module.block?, Module.function?, Module.addFunction, List.find?_append,
        Function.declared, missed]

/-- The calls that a step writes have these results, and it yields such a value. -/
def Applies {A : Type} (step : BuildM A) (results : List OperandType) (post : A → Prop) : Prop :=
  ∀ before value after, step before = .ok value after →
    ∃ written, before.Writes written after ∧ Instruction.applied written = results ∧ post value

namespace Applies

variable {A B : Type} {step : BuildM A} {results : List OperandType} {post : A → Prop}

theorem pure {value : A} (met : post value) : Applies (Pure.pure value) [] post := by
  intro before given after done
  obtain ⟨rfl, rfl⟩ := (run_pure _ _ _ _).mp done
  exact ⟨[], .refl _, rfl, met⟩

theorem bind {next : A → BuildM B} {more : List OperandType} {last : B → Prop}
    (first : Applies step results post) (rest : ∀ value, post value → Applies (next value) more last) :
    Applies (step >>= next) (results ++ more) last := by
  intro before value after done
  obtain ⟨given, between, ran, done⟩ := (run_bind _ _ _ _ _).mp done
  obtain ⟨start, begins, applied, met⟩ := first _ _ _ ran
  obtain ⟨later, ends, applied_later, met_later⟩ := rest given met _ _ _ done
  refine ⟨start ++ later, begins.trans ends, ?_, met_later⟩
  rw [Instruction.applied, List.filterMap_append, ← applied, ← applied_later]
  rfl

theorem define {type : OperandType} {instruction : TempId → Instruction}
    (calls : ∀ id, (instruction id).applied?.toList = results) :
    Applies (BuildM.define type instruction) results fun value => value.isError = false := by
  intro before value after done
  obtain ⟨id, writes, rfl⟩ := writes_define done
  refine ⟨_, writes, ?_, rfl⟩
  rw [← calls id]
  cases called : (instruction id).applied? <;> simp [Instruction.applied, called]

theorem append {instruction : Instruction} (idle : instruction.applied? = none) :
    Applies (BuildM.append instruction) [] fun _ => True := by
  intro before value after done
  exact ⟨_, writes_append done, by simp [Instruction.applied, idle], trivial⟩

theorem requireAddress_bind {opcode : String} {operand : Value} (first : Applies step results post) :
    Applies (requireAddress opcode operand >>= fun _ => step) results post :=
  fun before value after done => first before value after (run_requireAddress_bind done)

theorem allocStack (ty : Ty) : Applies (BuildM.allocStack ty) [] fun value => value.isError = false :=
  define fun _ => rfl

theorem allocExistential (container : Value) (witness : Ty) :
    Applies (BuildM.allocExistential container witness) [] fun value => value.isError = false :=
  requireAddress_bind (define fun _ => rfl)

theorem load (location : Value) :
    Applies (BuildM.load location) [] fun value => value.isError = false :=
  requireAddress_bind (define fun _ => rfl)

theorem store (value location : Value) : Applies (BuildM.store value location) [] fun _ => True :=
  requireAddress_bind (append rfl)

theorem copyAddr (source dest : Value) : Applies (BuildM.copyAddr source dest) [] fun _ => True :=
  requireAddress_bind (requireAddress_bind (append rfl))

theorem unsafeCastAddr (source : Value) (target : Ty) :
    Applies (BuildM.unsafeCastAddr source target) [] fun value => value.isError = false :=
  requireAddress_bind (define fun _ => rfl)

theorem recordMemberAddr (record : Value) (member : DeclId) (name : String) (ty : Ty) :
    Applies (BuildM.recordMemberAddr record member name ty) [] fun value => value.isError = false :=
  requireAddress_bind (define fun _ => rfl)

theorem apply (function : Value) (args : List Value) (type : OperandType) :
    Applies (BuildM.apply function args type) [type] fun value => value.isError = false :=
  define fun _ => rfl

theorem partialApply (function : Value) (args : List Value) (ty : Ty) :
    Applies (BuildM.partialApply function args ty) [] fun value => value.isError = false :=
  define fun _ => rfl

/-- However a value gets to its location, nothing is called. -/
theorem assignValue (value location : Value) (ty : Ty) :
    Applies (BuildM.assignValue value ty location) [] fun _ => True := by
  unfold BuildM.assignValue
  simp only
  split
  · exact pure trivial
  split
  · exact store _ _
  split
  · refine bind (allocStack ty) fun temporary _ => ?_
    refine bind (store _ _) fun _ _ => ?_
    exact bind (unsafeCastAddr _ _) fun source _ => copyAddr source location
  split
  · exact bind (allocExistential _ _) fun slot _ => store value slot
  · exact store _ _

end Applies

end BuildM

end IR

end Lowering
