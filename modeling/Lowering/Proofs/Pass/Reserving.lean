import Lowering.Proofs.IR.Writing
import Lowering.Proofs.Pass.Progress
import Lowering.Proofs.Scoping

/-
This file follows the slots that a body makes for its locals. Every slot is a temporary that occurs
nowhere in the function so far, so no two declarations are bound to the same one.
-/

namespace Lowering

namespace IR

/-- The temporary is a parameter, a result or an operand somewhere in the function. -/
def Function.Mentions (function : Function) (id : TempId) : Prop :=
  ∃ block ∈ function.blocks, id ∈ block.defined ∨
    ∃ instruction ∈ block.instructions, ∃ operand ∈ instruction.operands, operand.temp? = some id

namespace Block

variable {block : Block} {value : Value} {id : TempId}

/-- A temporary that a block has is one of its parameters or results. -/
theorem mem_defined_of_values (inside : value ∈ block.values) (temp : value.temp? = some id) :
    id ∈ block.defined := by
  rcases List.mem_append.mp inside with param | result
  · obtain ⟨⟨own, type⟩, listed, rfl⟩ := List.mem_map.mp param
    obtain rfl : own = id := Option.some.inj temp
    exact List.mem_append_left _ (List.mem_map_of_mem listed)
  · obtain ⟨instruction, listed, defines⟩ := List.mem_filterMap.mp result
    refine List.mem_append_right _ (List.mem_filterMap.mpr ⟨instruction, listed, ?_⟩)
    rw [Instruction.result?_eq_value?, defines]
    exact temp

theorem values_of_valuesBefore {place : Nat} (inside : value ∈ block.valuesBefore place) :
    value ∈ block.values := by
  rcases List.mem_append.mp inside with param | result
  · exact List.mem_append_left _ param
  · exact List.mem_append_right _ (((List.take_sublist _ _).filterMap _).subset result)

/-- In an ordered block, operands are parameters or results of the block. -/
theorem Ordered.mem_defined (ordered : block.Ordered) {instruction : Instruction}
    (listed : instruction ∈ block.instructions) (operand : value ∈ instruction.operands)
    (temp : value.temp? = some id) : id ∈ block.defined := by
  obtain ⟨place, found⟩ := List.mem_iff_getElem?.mp listed
  have before := ordered place instruction found value operand (by rw [temp]; rfl)
  exact mem_defined_of_values (values_of_valuesBefore before) temp

end Block

/-- What is mentioned was handed out before. -/
theorem Function.Mentions.issued {function : Function} {id : TempId}
    (mentions : function.Mentions id) (formed : function.WellFormed)
    (ordered : ∀ block ∈ function.blocks, block.Ordered) : id < function.temps.issued := by
  obtain ⟨block, inside, either⟩ := mentions
  have defined : id ∈ block.defined := by
    rcases either with defined | ⟨instruction, listed, value, operand, temp⟩
    · exact defined
    · exact (ordered block inside).mem_defined listed operand temp
  exact formed.issued id (List.mem_flatMap_of_mem inside defined)

end IR

open IR

namespace Locals

variable {locals : Locals} {value : Value}

/-- No two declarations are bound to the same temporary. -/
def Apart (locals : Locals) : Prop :=
  ∀ first second own other temp, locals.get? first = some own → locals.get? second = some other →
    own.temp? = some temp → other.temp? = some temp → first = second

/-- Nothing is bound to the value, if that is a temporary. -/
def Spares (locals : Locals) (value : Value) : Prop :=
  ∀ id bound temp, locals.get? id = some bound → bound.temp? = some temp → value.temp? ≠ some temp

theorem apart_empty : Apart Table.empty := by
  intro first second own other temp found
  simp [Table.get?_empty] at found

theorem spares_empty (value : Value) : Spares Table.empty value := by
  intro id bound temp found
  simp [Table.get?_empty] at found

theorem spares_of_temp? (locals : Locals) (none : value.temp? = none) : locals.Spares value := by
  intro id bound temp _ _ same
  cases none.symm.trans same

theorem get?_insert {locals : Locals} {id other : DeclId} {bound : Value}
    (found : Table.get? (locals.insert id value) other = some bound) :
    other = id ∧ bound = value ∨ other ≠ id ∧ locals.get? other = some bound := by
  by_cases same : other = id
  · subst same
    exact Or.inl ⟨rfl, (Option.some.inj ((Table.get?_insert_self _ _ _).symm.trans found)).symm⟩
  · exact Or.inr ⟨same, Table.get?_insert_of_ne locals id other value same ▸ found⟩

theorem Apart.insert (apart : locals.Apart) (spares : locals.Spares value) (id : DeclId) :
    Apart (locals.insert id value) := by
  intro first second own other temp found found_too given given_too
  rcases get?_insert found with ⟨rfl, rfl⟩ | ⟨_, held⟩ <;>
    rcases get?_insert found_too with ⟨rfl, rfl⟩ | ⟨_, held_too⟩
  · rfl
  · exact (spares second other temp held_too given_too given).elim
  · exact (spares first own temp held given given_too).elim
  · exact apart first second own other temp held held_too given given_too

theorem Spares.insert (spares : locals.Spares value) {other : Value}
    (apart : other.temp?.isSome = true → value.temp? ≠ other.temp?) (id : DeclId) :
    Spares (locals.insert id other) value := by
  intro first bound temp found given
  rcases get?_insert found with ⟨rfl, rfl⟩ | ⟨_, found⟩
  · exact given ▸ apart (by rw [given]; rfl)
  · exact spares first bound temp found given

end Locals

/-- A temporary that the open block has was handed out before. -/
theorem Pass.Has.issued {pass : Pass} {function : Function} {block : Block} {value : Value}
    {id : TempId} (has : pass.Has value) (formed : pass.builder.module.WellFormed)
    (place : pass.builder.At function block) (temp : value.temp? = some id) :
    id < function.temps.issued := by
  have inside := has.inside place (by rw [temp]; rfl)
  exact (formed.of_function? place.present).issued id
    (List.mem_flatMap_of_mem (Function.mem_of_block? place.inside)
      (Block.mem_defined_of_values inside temp))

/-- Nothing is bound to the slot that is made next. -/
theorem Policy.Ready.spares_slot {job : Job} {activation : Activation} {ty : Ty} {slot : Value}
    {builder : Builder} (ready : (scoping job).Ready activation)
    (done : BuildM.allocStack ty activation.pass.builder = .ok slot builder) :
    activation.locals.Spares slot := by
  obtain ⟨function, block, place, rfl, _⟩ := BuildM.run_define done
  intro id bound temp found given same
  have has : activation.pass.Has bound := (ready.locals id bound found).1
  obtain rfl : function.temps.issued = temp := Option.some.inj same
  exact Nat.lt_irrefl _ (has.issued ready.working.formed place given)

namespace Frame

variable {frame : Frame}

/-- A step that evaluates something leaves the locals as they are. -/
theorem locals_of_evaluates {A : Type} {step : BodyM A} {post : A → Prop} {value : A}
    {before after : Activation}
    (evaluates : Lowering.Evaluates (Invariant.unconditional frame.toJob).toContract before.locals
      step post)
    (done : step before = .ok value after) : after.locals = before.locals :=
  (evaluates.ok before value after ⟨trivial, rfl⟩ done).1.2

/-- A local variable may be declared under the name. -/
def Declarable (frame : Frame) (id : DeclId) : Prop :=
  ∃ decl, frame.program.find? id = some decl ∧ (decl.ty.isError = true ∨ decl.kind.isStored = true)

/--
The names get slots one after another, and `next` is the first. A name that is there again gets a
slot again, and one of error type gets none.
-/
inductive Slots (frame : Frame) : TempId → List DeclId → List Instruction → List Value → Prop
  | nil {next : TempId} : Slots frame next [] [] []
  | failed {next : TempId} {id : DeclId} {decl : Decl} {rest : List DeclId}
    {slots : List Instruction} {locations : List Value} (found : frame.program.find? id = some decl)
    (error : decl.ty.isError = true) (others : Slots frame next rest slots locations) :
    Slots frame next (id :: rest) slots (Value.error (.address .error) :: locations)
  | placed {next : TempId} {id : DeclId} {decl : Decl} {ty : Ty} {rest : List DeclId}
    {slots : List Instruction} {locations : List Value} (found : frame.program.find? id = some decl)
    (sound : decl.ty.isError = false) (stored : decl.kind.isStored = true)
    (seen : frame.contextualize decl.ty = .ok ty)
    (others : Slots frame (next + 1) rest slots locations) :
    Slots frame next (id :: rest) (.allocStack next ty :: slots)
      (Value.temp next (.address ty) :: locations)

namespace Slots

variable {next : TempId} {names : List DeclId} {slots : List Instruction} {locations : List Value}

/-- The slots are numbered one after another. -/
theorem temps (slotted : frame.Slots next names slots locations) :
    locations.filterMap Value.temp? = List.range' next slots.length ∧
      slots.filterMap Instruction.result? = List.range' next slots.length := by
  induction slotted with
  | nil => exact ⟨rfl, rfl⟩
  | failed _ _ _ others_ih => exact others_ih
  | placed _ _ _ _ _ others_ih =>
    constructor
    · simp [Value.temp, Value.temp?, List.range'_succ, ← others_ih.1]
    · simp [Instruction.result?, List.range'_succ, ← others_ih.2]

theorem declarable (slotted : frame.Slots next names slots locations) :
    ∀ name ∈ names, frame.Declarable name := by
  induction slotted with
  | nil => exact fun _ impossible => nomatch impossible
  | failed found error _ others_ih =>
    exact List.forall_mem_cons.mpr ⟨⟨_, found, Or.inl error⟩, others_ih⟩
  | placed found _ stored _ _ others_ih =>
    exact List.forall_mem_cons.mpr ⟨⟨_, found, Or.inr stored⟩, others_ih⟩

end Slots

/-- The locals once every name is bound to its location, in their order. -/
def bindAll (locals : Locals) (bound : List (DeclId × Value)) : Locals :=
  bound.foldl (fun locals entry => locals.insert entry.1 entry.2) locals

/-- The names of a pattern get their slots, and nothing else is written. -/
theorem slots_of_mapM (names : List DeclId) {locations : List Value} {before after : Activation}
    {function : Function} {block : Block} (place : before.pass.builder.At function block)
    (done : names.mapM frame.emitLocalVar before = .ok locations after) :
    ∃ slots, frame.Slots function.temps.issued names slots locations ∧
      before.pass.builder.Writes slots after.pass.builder ∧
      after.locals = bindAll before.locals (names.zip locations) := by
  induction names generalizing before locations function block with
  | nil =>
    obtain ⟨rfl, rfl⟩ := (run_pure _ _ _ _).mp done
    exact ⟨[], .nil, .refl _, rfl⟩
  | cons name rest rest_ih =>
    obtain ⟨location, between, others, ran, mapped, rfl⟩ := (run_mapM_cons _ _ _ _ _ _).mp done
    obtain ⟨decl, found, ⟨error, rfl, rfl⟩ | ⟨sound, stored, ty, builder, seen, allocated, rfl⟩⟩ :=
      run_emitLocalVar ran
    · obtain ⟨slots, slotted, writes, bound⟩ := rest_ih (by exact place) mapped
      exact ⟨slots, .failed found error slotted, writes, bound⟩
    · obtain ⟨again, own, place_again, rfl, rfl⟩ := BuildM.run_define allocated
      obtain ⟨rfl, rfl⟩ := place.unique place_again
      have later := @IR.Builder.At.define _ _ _ place (.allocStack again.temps.issued ty) rfl
      obtain ⟨slots, slotted, writes, bound⟩ := rest_ih (by exact later) mapped
      refine ⟨_, .placed found sound stored seen slotted, ?_, bound⟩
      exact (place.writes again.takeTemp.2 rfl rfl _).trans writes

/-- A name gets its slot wherever the insertion point is open. -/
theorem emitLocalVar_returns {id : DeclId} {routine : Routine} {before : Activation}
    {function : Function} {block : Block} (owned : frame.routine = .ok routine)
    (place : before.pass.builder.At function block) (declarable : frame.Declarable id) :
    ∃ location after, frame.emitLocalVar id before = .ok location after ∧
      ∃ later longer, after.pass.builder.At later longer := by
  obtain ⟨decl, found, either⟩ := declarable
  have known : (liftM (frame.program.decl id) : CheckM Decl) = .ok decl :=
    (lift_answer _ _).mpr (Program.decl_eq_ok.mpr found)
  cases flawed : decl.ty.isError with
  | true =>
    let value := Value.error (.address .error)
    refine ⟨value, { before with locals := before.locals.insert id value },
      (run_ask_bind _ _ _ _ _).mpr ⟨decl, known, ?_⟩, function, block, place⟩
    rw [if_pos flawed]
    exact (run_bind _ _ _ _ _).mpr ⟨(), _, (run_modify _ _ _ _).mpr rfl, rfl⟩
  | false =>
    have stored : decl.kind = .variable true := by
      have stored := either.resolve_left (by simp [flawed])
      cases kind : decl.kind with
      | «variable» hasStorage =>
        rw [kind] at stored
        rw [show hasStorage = true from stored]
      | _ =>
        rw [kind] at stored
        cases stored
    let ty := decl.ty.contextualized routine.env
    have seen : frame.contextualize decl.ty = .ok ty := by
      rw [contextualize, owned]
      rfl
    let slot := Value.temp function.temps.issued (.address ty)
    let room := Instruction.allocStack function.temps.issued ty
    let builder := before.pass.builder.put (function.takeTemp.2.extendBlock block.label room)
    have allocated : BuildM.allocStack ty before.pass.builder = .ok slot builder :=
      place.define_eq (.address ty) fun slot => .allocStack slot ty
    refine ⟨slot, ⟨{ before.pass with builder := builder }, before.locals.insert id slot⟩,
      (run_ask_bind _ _ _ _ _).mpr ⟨decl, known, ?_⟩, _, _, place.define rfl⟩
    rw [if_neg (by simp [flawed]), stored]
    refine (run_ask_bind _ _ _ _ _).mpr ⟨ty, seen, ?_⟩
    refine (run_bind _ _ _ _ _).mpr ⟨_, _, (lift_pass _ _ _ _).mpr
      ⟨_, (lift_build _ _ _ _).mpr ⟨_, allocated, rfl⟩, rfl⟩, ?_⟩
    exact (run_bind _ _ _ _ _).mpr ⟨(), _, (run_modify _ _ _ _).mpr rfl, rfl⟩

theorem mapM_emitLocalVar_returns (names : List DeclId) {routine : Routine} {before : Activation}
    {function : Function} {block : Block} (owned : frame.routine = .ok routine)
    (place : before.pass.builder.At function block)
    (declarable : ∀ name ∈ names, frame.Declarable name) :
    ∃ locations after, names.mapM frame.emitLocalVar before = .ok locations after := by
  induction names generalizing before function block with
  | nil => exact ⟨_, _, rfl⟩
  | cons name rest rest_ih =>
    obtain ⟨first, others⟩ := List.forall_mem_cons.mp declarable
    obtain ⟨location, between, ran, later, longer, place⟩ := emitLocalVar_returns owned place first
    obtain ⟨locations, after, mapped⟩ := rest_ih place others
    exact ⟨location :: locations, after,
      (run_mapM_cons _ _ _ _ _ _).mpr ⟨location, between, locations, ran, mapped, rfl⟩⟩

end Frame

end Lowering
