import Lowering.Proofs.IR.WellFormed

/-
This file orders modules by extension: whatever is in a module stays at its place, and only gets
longer. Every step of a builder extends its module, whether it returns or fails.
-/

namespace Lowering

/-- Every item is still at its place, as something that it may have become. -/
def Prolongs {A : Type} (becomes : A → A → Prop) (items others : List A) : Prop :=
  ∀ (place : Nat) item, items[place]? = some item →
    ∃ later, others[place]? = some later ∧ becomes item later

namespace Prolongs

variable {A : Type} {becomes : A → A → Prop} {first second third : List A}

theorem refl (same : ∀ item, becomes item item) (items : List A) : Prolongs becomes items items :=
  fun _ item found => ⟨item, found, same item⟩

theorem trans (joins : ∀ {item middle last}, becomes item middle → becomes middle last →
    becomes item last) (start : Prolongs becomes first second)
    (rest : Prolongs becomes second third) : Prolongs becomes first third := by
  intro place item found
  obtain ⟨middle, found, became⟩ := start place item found
  obtain ⟨last, found, became_last⟩ := rest place middle found
  exact ⟨last, found, joins became became_last⟩

theorem append (same : ∀ item, becomes item item) (items added : List A) :
    Prolongs becomes items (items ++ added) := by
  intro place item found
  have inside : place < items.length := (List.getElem?_eq_some_iff.mp found).1
  exact ⟨item, by rw [List.getElem?_append_left inside, found], same item⟩

/-- The first item that passes a test is changed where it stands. -/
theorem modifyFirst {test : A → Bool} {change : A → A} (same : ∀ item, becomes item item)
    {item : A} (found : first.find? test = some item) (became : becomes item (change item)) :
    Prolongs becomes first (Lowering.modifyFirst test change first) := by
  induction first with
  | nil => cases found
  | cons head rest rest_ih =>
    rw [Lowering.modifyFirst]
    cases passes : test head with
    | true =>
      obtain rfl : head = item := by simpa [passes] using found
      rintro (_ | place) other inside
      · obtain rfl : head = other := by simpa using inside
        exact ⟨change head, rfl, became⟩
      · exact ⟨other, inside, same other⟩
    | false =>
      have later := rest_ih (by simpa [passes] using found)
      rintro (_ | place) other inside
      · obtain rfl : head = other := by simpa using inside
        exact ⟨head, rfl, same head⟩
      · exact later place other inside

end Prolongs

namespace IR

/-- A block keeps its label, its parameters and its instructions. -/
structure Block.Extends (before after : Block) : Prop where
  label : after.label = before.label
  params : after.params = before.params
  instructions : before.instructions <+: after.instructions

/-- A function keeps its name, its signature and its blocks. -/
structure Function.Extends (before after : Function) : Prop where
  name : after.name = before.name
  signature : after.signature = before.signature
  blocks : Prolongs Block.Extends before.blocks after.blocks
  temps : before.temps.issued ≤ after.temps.issued
  labels : before.labels.issued ≤ after.labels.issued

/-- A module keeps its name, its functions and its witness tables. -/
structure Module.Extends (before after : Module) : Prop where
  name : after.name = before.name
  functions : Prolongs Function.Extends before.functions after.functions
  tables : before.witnessTables <+: after.witnessTables

theorem Block.Extends.refl (block : Block) : block.Extends block :=
  ⟨rfl, rfl, List.prefix_refl _⟩

theorem Block.Extends.trans {first second third : Block} (start : first.Extends second)
    (rest : second.Extends third) : first.Extends third :=
  ⟨rest.label.trans start.label, rest.params.trans start.params,
    start.instructions.trans rest.instructions⟩

namespace Function.Extends

theorem refl (function : Function) : function.Extends function :=
  ⟨rfl, rfl, .refl Block.Extends.refl _, Nat.le_refl _, Nat.le_refl _⟩

theorem trans {first second third : Function} (start : first.Extends second)
    (rest : second.Extends third) : first.Extends third :=
  ⟨rest.name.trans start.name, rest.signature.trans start.signature,
    .trans Block.Extends.trans start.blocks rest.blocks, Nat.le_trans start.temps rest.temps,
    Nat.le_trans start.labels rest.labels⟩

theorem takeTemp (function : Function) : function.Extends function.takeTemp.2 :=
  ⟨rfl, rfl, .refl Block.Extends.refl _, Nat.le_succ _, Nat.le_refl _⟩

theorem addBlock (function : Function) (params : List OperandType) :
    function.Extends (function.addBlock params).2 :=
  ⟨rfl, rfl, .append Block.Extends.refl _ _, Nat.le_add_right _ _, Nat.le_succ _⟩

theorem extendBlock {function : Function} {label : LabelId} {block : Block}
    (found : function.block? label = some block) (instruction : Instruction) :
    function.Extends (function.extendBlock label instruction) :=
  ⟨rfl, rfl, .modifyFirst Block.Extends.refl found ⟨rfl, rfl, List.prefix_append _ _⟩,
    Nat.le_refl _, Nat.le_refl _⟩

end Function.Extends

namespace Module.Extends

theorem refl (module : Module) : module.Extends module :=
  ⟨rfl, .refl Function.Extends.refl _, List.prefix_refl _⟩

theorem trans {first second third : Module} (start : first.Extends second)
    (rest : second.Extends third) : first.Extends third :=
  ⟨rest.name.trans start.name, .trans Function.Extends.trans start.functions rest.functions,
    start.tables.trans rest.tables⟩

theorem addFunction (module : Module) (function : Function) :
    module.Extends (module.addFunction function) :=
  ⟨rfl, .append Function.Extends.refl _ _, List.prefix_refl _⟩

theorem addWitnessTable (module : Module) (table : WitnessTable) :
    module.Extends (module.addWitnessTable table) :=
  ⟨rfl, .refl Function.Extends.refl _, List.prefix_append _ _⟩

theorem put {builder : Builder} {old function : Function}
    (found : builder.module.function? function.name = some old) (grown : old.Extends function) :
    builder.module.Extends (builder.put function).module :=
  ⟨rfl, .modifyFirst Function.Extends.refl found grown, List.prefix_refl _⟩

end Module.Extends

/-- The module of a builder is extended, and stays well-formed if it is. -/
structure Builder.Advances (before after : Builder) : Prop where
  extended : before.module.Extends after.module
  formed : before.module.WellFormed → after.module.WellFormed

namespace Builder.Advances

theorem refl (builder : Builder) : builder.Advances builder := ⟨.refl _, id⟩

theorem trans {first second third : Builder} (start : first.Advances second)
    (rest : second.Advances third) : first.Advances third :=
  ⟨start.extended.trans rest.extended, fun formed => rest.formed (start.formed formed)⟩

/-- The insertion point is no part of the module. -/
theorem withCursor {before after : Builder} (advances : before.Advances after)
    (cursor : Option Cursor) : before.Advances { after with cursor := cursor } :=
  ⟨advances.extended, advances.formed⟩

theorem put {builder : Builder} {old function : Function}
    (found : builder.module.function? function.name = some old) (grown : old.Extends function)
    (formed : old.WellFormed → function.WellFormed) : builder.Advances (builder.put function) :=
  ⟨.put found grown, fun whole => whole.put (formed (whole.of_function? found))⟩

end Builder.Advances

namespace BuildM

variable {A B : Type}

/-- The builder that a step leaves behind, whether it returns or fails. -/
def leaves (step : BuildM A) (builder : Builder) : Builder :=
  match step builder with
  | .ok _ after | .error _ after => after

/-- A step never takes back anything of a module. -/
def Advances (step : BuildM A) : Prop :=
  ∀ builder : Builder, builder.Advances (step.leaves builder)

/-- A step that fails where it cannot be taken leaves the builder alone. -/
theorem run_requireCursor_error {before after : Builder} {error : BuildError}
    (stops : requireCursor before = .error error after) :
    after = before ∧ before.cursor = none ∧ error = .noInsertionPoint := by
  obtain stops | ⟨builder, between, read, stops⟩ := (run_bind_error _ _ _ _ _).mp stops
  · cases stops
  · obtain ⟨rfl, rfl⟩ := (run_get _ _ _).mp read
    cases found : before.cursor with
    | none =>
      simp only [found] at stops
      obtain ⟨same, rfl⟩ := (run_throw_error _ _ _ _).mp stops
      exact ⟨rfl, rfl, same.symm⟩
    | some cursor =>
      simp only [found] at stops
      exact ((run_pure_error _ _ _ _).mp stops).elim

theorem run_requireFunction_error {name : String} {before after : Builder} {error : BuildError}
    (stops : requireFunction name before = .error error after) :
    after = before ∧ before.module.function? name = none ∧ error = .unknownFunction name := by
  obtain stops | ⟨builder, between, read, stops⟩ := (run_bind_error _ _ _ _ _).mp stops
  · cases stops
  · obtain ⟨rfl, rfl⟩ := (run_get _ _ _).mp read
    cases found : before.module.function? name with
    | none =>
      simp only [found] at stops
      obtain ⟨same, rfl⟩ := (run_throw_error _ _ _ _).mp stops
      exact ⟨rfl, rfl, same.symm⟩
    | some function =>
      simp only [found] at stops
      exact ((run_pure_error _ _ _ _).mp stops).elim

theorem run_takeTemp_error {before after : Builder} {error : BuildError}
    (failed : takeTemp before = .error error after) : after = before := by
  obtain stops | ⟨cursor, between, placed, stops⟩ := (run_bind_error _ _ _ _ _).mp failed
  · exact (run_requireCursor_error stops).1
  obtain ⟨_, rfl⟩ := run_requireCursor placed
  obtain stops | ⟨function, between, required, stops⟩ := (run_bind_error _ _ _ _ _).mp stops
  · exact (run_requireFunction_error stops).1
  obtain stops | ⟨_, _, _, stops⟩ := (run_bind_error _ _ _ _ _).mp stops
  · exact ((run_modify_error _ _ _ _).mp stops).elim
  · exact ((run_pure_error _ _ _ _).mp stops).elim

theorem run_append_error {instruction : Instruction} {before after : Builder} {error : BuildError}
    (failed : append instruction before = .error error after) : after = before := by
  obtain stops | ⟨cursor, between, placed, further⟩ := (run_bind_error _ _ _ _ _).mp failed
  · exact (run_requireCursor_error stops).1
  obtain ⟨_, rfl⟩ := run_requireCursor placed
  obtain stops | ⟨function, between, required, last⟩ := (run_bind_error _ _ _ _ _).mp further
  · exact (run_requireFunction_error stops).1
  obtain ⟨_, rfl⟩ := run_requireFunction required
  cases inside : function.block? cursor.block with
  | none =>
    simp only [inside] at last
    exact ((run_throw_error _ _ _ _).mp last).2.symm
  | some block =>
    simp only [inside] at last
    split at last
    · obtain stops | ⟨_, _, impossible, _⟩ := (run_bind_error _ _ _ _ _).mp last
      · exact ((run_throw_error _ _ _ _).mp stops).2.symm
      · exact ((run_throw _ _ _ _).mp impossible).elim
    · exact ((run_modify_error _ _ _ _).mp last).elim

/-- A definition that fails has at most taken a temporary. -/
theorem run_define_error {type : OperandType} {instruction : TempId → Instruction}
    {before after : Builder} {error : BuildError}
    (stops : define type instruction before = .error error after) :
    after = before ∨ ∃ cursor function, before.cursor = some cursor ∧
      before.module.function? cursor.function = some function ∧
        after = before.put function.takeTemp.2 := by
  obtain stops | ⟨id, between, taken, stops⟩ := (run_bind_error _ _ _ _ _).mp stops
  · exact Or.inl (run_takeTemp_error stops)
  obtain ⟨cursor, function, here, found, rfl, rfl⟩ := run_takeTemp taken
  obtain stops | ⟨_, _, _, stops⟩ := (run_bind_error _ _ _ _ _).mp stops
  · exact Or.inr ⟨cursor, function, here, found, run_append_error stops⟩
  · exact ((run_pure_error _ _ _ _).mp stops).elim

theorem run_createBlock_error {name : String} {params : List OperandType}
    {before after : Builder} {error : BuildError}
    (stops : createBlock name params before = .error error after) : after = before := by
  obtain stops | ⟨function, _, _, stops⟩ := (run_bind_error _ _ _ _ _).mp stops
  · exact (run_requireFunction_error stops).1
  obtain stops | ⟨_, _, _, stops⟩ := (run_bind_error _ _ _ _ _).mp stops
  · exact ((run_modify_error _ _ _ _).mp stops).elim
  · exact ((run_pure_error _ _ _ _).mp stops).elim

theorem run_requireAddress_error {opcode : String} {operand : Value} {before after : Builder}
    {error : BuildError} (stops : requireAddress opcode operand before = .error error after) :
    after = before := by
  unfold requireAddress at stops
  split at stops
  · exact ((run_pure_error _ _ _ _).mp stops).elim
  · exact ((run_throw_error _ _ _ _).mp stops).2.symm

namespace Advances

/-- What a step does is known from what it leaves behind when it returns, and when it fails. -/
theorem of_run {step : BuildM A}
    (ok : ∀ {before after value}, step before = .ok value after → before.Advances after)
    (error : ∀ {before after error}, step before = .error error after → before.Advances after) :
    Advances step := by
  intro builder
  unfold leaves
  cases ran : step builder with
  | ok value after => exact ok ran
  | error own after => exact error ran

theorem pure (value : A) : Advances (Pure.pure value : BuildM A) := fun builder => .refl builder

theorem bind {step : BuildM A} {next : A → BuildM B} (first : Advances step)
    (rest : ∀ value, Advances (next value)) : Advances (step >>= next) := by
  intro builder
  have start := first builder
  show builder.Advances (leaves (EStateM.bind step next) builder)
  unfold leaves EStateM.bind
  unfold leaves at start
  cases ran : step builder with
  | ok value after =>
    rw [ran] at start
    exact start.trans (rest value after)
  | error error after =>
    rw [ran] at start
    exact start

theorem discard {step : BuildM A} (advances : Advances step) :
    Advances (Functor.discard step) := by
  intro builder
  have start := advances builder
  show builder.Advances (leaves (EStateM.map _ step) builder)
  unfold leaves EStateM.map
  unfold leaves at start
  cases ran : step builder with
  | ok value after | error error after =>
    rw [ran] at start
    exact start

theorem modify {change : Builder → Builder}
    (advances : ∀ builder : Builder, builder.Advances (change builder)) :
    Advances (modify change : BuildM PUnit) := advances

theorem requireAddress_bind {opcode : String} {operand : Value} {next : BuildM A}
    (rest : Advances next) : Advances (requireAddress opcode operand >>= fun _ => next) := by
  refine bind (fun builder => ?_) fun _ => rest
  unfold requireAddress
  split <;> exact .refl builder

theorem define {type : OperandType} {instruction : TempId → Instruction}
    (result : ∀ id, (instruction id).result? = some id) : Advances (define type instruction) := by
  refine of_run (fun done => ?_) fun stops => ?_
  · obtain ⟨function, block, place, _, rfl⟩ := run_define done
    have inside : function.takeTemp.2.block? block.label = some block := place.inside
    refine .put place.present ((Function.Extends.takeTemp function).trans (.extendBlock inside _))
      fun formed => formed.define place.inside place.pending fun id given => ?_
    rw [result] at given
    exact (Option.some.inj given).symm
  · obtain rfl | ⟨_, function, _, found, rfl⟩ := run_define_error stops
    · exact .refl _
    · have named := Module.name_of_function? found
      exact .put (by rw [Function.name_takeTemp, named, found]) (.takeTemp function)
        Function.WellFormed.takeTemp

theorem append {instruction : Instruction} (plain : instruction.result? = none) :
    Advances (append instruction) := by
  refine of_run (fun done => ?_) fun stops => ?_
  · obtain ⟨function, block, place, rfl⟩ := run_append done
    refine .put place.present (.extendBlock place.inside _)
      fun formed => formed.extendBlock place.inside place.pending fun id given => ?_
    rw [plain] at given
    cases given
  · rw [run_append_error stops]
    exact .refl _

theorem createBlock (name : String) (params : List OperandType) :
    Advances (createBlock name params) := by
  refine of_run (fun done => ?_) fun stops => ?_
  · obtain ⟨function, found, _, _, rfl⟩ := run_createBlock done
    have named := Module.name_of_function? found
    exact .put (by rw [Function.name_addBlock, named, found]) (.addBlock function params)
      fun formed => formed.addBlock params
  · rw [run_createBlock_error stops]
    exact .refl _

theorem getOrCreateFunction (name : String) (signature : Signature) :
    Advances (getOrCreateFunction name signature) := by
  refine of_run (fun done => ?_) fun stops => ?_
  · obtain ⟨_, ⟨_, _, _, rfl⟩ | ⟨absent, rfl⟩⟩ := run_getOrCreateFunction done
    · exact .refl _
    · exact ⟨.addFunction _ _, fun formed => formed.addFunction signature absent⟩
  · obtain ⟨_, _, _, _, rfl⟩ := run_getOrCreateFunction_error stops
    exact .refl _

theorem functionRef (name : String) : Advances (functionRef name) := by
  refine bind (fun builder => ?_) fun _ => pure _
  have looked : Advances (requireFunction name) := by
    refine of_run (fun done => ?_) fun stops => ?_
    · rw [(run_requireFunction done).2]
      exact .refl _
    · rw [(run_requireFunction_error stops).1]
      exact .refl _
  exact looked builder

theorem setCursor (cursor : Option Cursor) : Advances (setCursor cursor) :=
  modify fun builder => (Builder.Advances.refl builder).withCursor cursor

theorem addWitnessTable (table : WitnessTable) : Advances (addWitnessTable table) :=
  modify fun _ => ⟨.addWitnessTable _ table, fun formed => formed.addWitnessTable table⟩

theorem store (value location : Value) : Advances (store value location) :=
  requireAddress_bind (append rfl)

theorem copyAddr (source dest : Value) : Advances (copyAddr source dest) :=
  requireAddress_bind (requireAddress_bind (append rfl))

/-- All that storing a value at a location may take extends the module step by step. -/
theorem assignValue (value : Value) (ty : Ty) (location : Value) :
    Advances (assignValue value ty location) := by
  have stored (value location : Value) := store value location
  unfold BuildM.assignValue
  dsimp only
  split
  · exact pure ()
  split
  · exact stored _ _
  split
  · refine bind (define fun _ => rfl) fun temporary => bind (stored _ _) fun _ => ?_
    exact bind (requireAddress_bind (define fun _ => rfl)) fun source => copyAddr _ _
  split
  · exact bind (requireAddress_bind (define fun _ => rfl)) fun slot => stored _ _
  · exact stored _ _

end Advances

end BuildM

end IR

end Lowering
