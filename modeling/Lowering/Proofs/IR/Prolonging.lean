import Lowering.Proofs.IR.Signatures
import Lowering.Proofs.IR.Writing

/-
This file shows that a building step returns wherever the block at the insertion point is open, and
its operands are addresses where they have to be. The block gets longer and stays open, and nothing
else changes.
-/

namespace Lowering

namespace IR

/-- The builder takes the value for an address, or for the place holder of one. -/
def Value.Addressable (value : Value) : Prop := (value.isAddress || value.isError) = true

theorem Value.Addressable.of_type {value : Value} {ty : Ty} (typed : value.type = .address ty) :
    value.Addressable := by
  simp [Addressable, isAddress, typed, OperandType.address]

theorem Value.Addressable.error (type : OperandType) : (Value.error type).Addressable :=
  Bool.or_true _

/-- The block at the insertion point gets longer, and everything else stays as it is. -/
structure Builder.Lengthens (before : Builder) (function : Function) (block : Block)
    (after : Builder) (later : Function) (longer : Block) : Prop where
  place : after.At later longer
  cursor : after.cursor = before.cursor
  instructions : block.instructions <+: longer.instructions
  blocks : ∀ label, label ≠ block.label → later.block? label = function.block? label
  functions : ∀ name other, name ≠ function.name → before.module.function? name = some other →
    after.module.function? name = some other

/-- Wherever a block is open, it gets longer and stays open. -/
def Builder.StaysOpen (before after : Builder) : Prop :=
  ∀ function block, before.At function block →
    ∃ later longer, before.Lengthens function block after later longer

namespace Builder.StaysOpen

variable {before between after : Builder}

theorem refl (builder : Builder) : builder.StaysOpen builder :=
  fun function block place => ⟨function, block, place, rfl, List.prefix_refl _, fun _ _ => rfl,
    fun _ _ _ found => found⟩

theorem trans (first : before.StaysOpen between) (rest : between.StaysOpen after) :
    before.StaysOpen after := by
  intro function block place
  obtain ⟨middle, half, there, cursor, instructions, blocks, functions⟩ := first function block place
  obtain ⟨later, longer, last, moved, further, kept, others⟩ := rest middle half there
  have same : (⟨function.name, block.label⟩ : Cursor) = ⟨middle.name, half.label⟩ :=
    Option.some.inj (place.cursor.symm.trans (cursor.symm.trans there.cursor))
  obtain ⟨name, label⟩ := Cursor.mk.inj same
  refine ⟨later, longer, last, moved.trans cursor, instructions.trans further, ?_, ?_⟩
  · intro other apart
    rw [kept other (label ▸ apart), blocks other apart]
  · intro other own apart found
    exact others other own (name ▸ apart) (functions other own apart found)

/-- The function at the insertion point gets another instruction, and maybe a temporary. -/
theorem of_put {function : Function} {block : Block} (place : before.At function block)
    (later : Function) (name : later.name = function.name) (blocks : later.blocks = function.blocks)
    {instruction : Instruction} (continues : instruction.isTerminator = false) :
    before.StaysOpen (before.put (later.extendBlock block.label instruction)) := by
  intro other current same
  obtain ⟨rfl, rfl⟩ := place.unique same
  have inside (label : LabelId) : later.block? label = other.block? label := by
    rw [Function.block?, Function.block?, blocks]
  refine ⟨later.extendBlock current.label instruction, current.add instruction, ?_, rfl,
    List.prefix_append _ _, ?_, ?_⟩
  · exact place.put name rfl (Function.block?_extendBlock ((inside _).trans place.inside) instruction)
      ((Block.isTerminated_add current instruction).trans continues)
  · intro label apart
    rw [Function.block?_extendBlock_of_ne later apart, inside]
  · intro own function apart found
    rwa [Builder.function?_put_of_ne _ before own (by simpa [name] using apart)]

/-- A function that is only declared leaves the blocks alone. -/
theorem addFunction (builder : Builder) (name : String) (signature : Signature) :
    builder.StaysOpen
      (builder.modifyModule (Module.addFunction · (Function.declared name signature))) := by
  intro function block place
  have kept {own : String} {other : Function} (found : builder.module.function? own = some other) :
      (builder.modifyModule
        (Module.addFunction · (Function.declared name signature))).module.function? own =
          some other := by
    have found : builder.module.functions.find? (·.name == own) = some other := found
    simp [Builder.modifyModule, Module.function?, Module.addFunction, List.find?_append, found]
  exact ⟨function, block, ⟨place.cursor, kept place.present, place.inside, place.pending⟩, rfl,
    List.prefix_refl _, fun _ _ => rfl, fun _ _ _ found => kept found⟩

end Builder.StaysOpen

namespace BuildM

/--
The step returns wherever a block is open, and yields such a value. The block gets longer, and
no function is declared.
-/
def Completes {A : Type} (step : BuildM A) (post : A → Prop) : Prop :=
  ∀ before : Builder, (∃ function block, before.At function block) →
    ∃ value after, step before = .ok value after ∧ before.StaysOpen after ∧
      (∀ name, after.module.signature? name = before.module.signature? name) ∧ post value

namespace Completes

variable {A B : Type} {step : BuildM A} {post : A → Prop} {last : B → Prop}

theorem pure {value : A} (met : post value) : Completes (Pure.pure value) post :=
  fun before _ => ⟨value, before, rfl, .refl before, fun _ => rfl, met⟩

theorem bind {next : A → BuildM B} (first : Completes step post)
    (rest : ∀ value, post value → Completes (next value) last) :
    Completes (step >>= next) last := by
  intro before opened
  obtain ⟨value, between, ran, begins, same, met⟩ := first before opened
  obtain ⟨function, block, place⟩ := opened
  obtain ⟨later, longer, lengthens⟩ := begins function block place
  obtain ⟨result, after, done, ends, again, met_last⟩ :=
    rest value met between ⟨later, longer, lengthens.place⟩
  exact ⟨result, after, (run_bind _ _ _ _ _).mpr ⟨value, between, ran, done⟩,
    begins.trans ends, fun name => (again name).trans (same name), met_last⟩

theorem define {type : OperandType} {instruction : TempId → Instruction}
    (continues : ∀ id, (instruction id).isTerminator = false) :
    Completes (BuildM.define type instruction) fun value => value.type = type := by
  rintro before ⟨function, block, place⟩
  have done := place.define_eq type instruction
  refine ⟨_, _, done, ?_, signature?_define done, rfl⟩
  exact .of_put place function.takeTemp.2 rfl rfl (continues _)

theorem append {instruction : Instruction} (continues : instruction.isTerminator = false) :
    Completes (BuildM.append instruction) fun _ => True := by
  rintro before ⟨function, block, place⟩
  have done := place.append_eq instruction
  exact ⟨(), _, done, .of_put place function rfl rfl continues, signature?_append done, trivial⟩

/-- An operand that is an address, or an error, passes the check. -/
theorem requireAddress_bind {opcode : String} {operand : Value}
    (addressable : operand.Addressable) (rest : Completes step post) :
    Completes (requireAddress opcode operand >>= fun _ => step) post := by
  have passes : requireAddress opcode operand = Pure.pure () := if_pos addressable
  rw [passes, pure_bind]
  exact rest

theorem allocStack (ty : Ty) :
    Completes (BuildM.allocStack ty) fun value => value.type = .address ty :=
  define fun _ => rfl

theorem unsafeCastAddr {source : Value} (addressable : source.Addressable)
    (target : Ty) :
    Completes (BuildM.unsafeCastAddr source target) fun value => value.type = .address target :=
  requireAddress_bind addressable (define fun _ => rfl)

theorem recordMemberAddr {record : Value}
    (addressable : record.Addressable) (member : DeclId) (name : String)
    (ty : Ty) :
    Completes (BuildM.recordMemberAddr record member name ty) fun value =>
      value.type = .address ty :=
  requireAddress_bind addressable (define fun _ => rfl)

theorem apply (function : Value) (args : List Value) (type : OperandType) :
    Completes (BuildM.apply function args type) fun value => value.type = type :=
  define fun _ => rfl

theorem partialApply (function : Value) (args : List Value) (ty : Ty) :
    Completes (BuildM.partialApply function args ty) fun value => value.type = .object ty :=
  define fun _ => rfl

section Location

variable {location : Value} (addressable : location.Addressable)

include addressable

theorem allocExistential (witness : Ty) :
    Completes (BuildM.allocExistential location witness) fun value =>
      value.type = .address witness :=
  requireAddress_bind addressable (define fun _ => rfl)

theorem load : Completes (BuildM.load location) fun value => value.type = location.type.asObject :=
  requireAddress_bind addressable (define fun _ => rfl)

theorem store (value : Value) : Completes (BuildM.store value location) fun _ => True :=
  requireAddress_bind addressable (append rfl)

theorem copyAddr {source : Value} (readable : source.Addressable) :
    Completes (BuildM.copyAddr source location) fun _ => True :=
  requireAddress_bind readable (requireAddress_bind addressable (append rfl))

/-- A value gets to a location by one way or another. -/
theorem assignValue (value : Value) (ty : Ty) :
    Completes (BuildM.assignValue value ty location) fun _ => True := by
  unfold BuildM.assignValue
  simp only
  split
  · exact pure trivial
  split
  · exact store addressable value
  split
  · refine bind (allocStack ty) fun temporary typed => ?_
    refine bind (store (.of_type typed) value) fun _ _ => ?_
    refine bind (unsafeCastAddr (.of_type typed) _) fun source typed => ?_
    exact copyAddr addressable (.of_type typed)
  split
  · exact bind (allocExistential addressable ty) fun slot typed => store (.of_type typed) value
  · exact store addressable value

end Location

end Completes

end BuildM

end IR

end Lowering
