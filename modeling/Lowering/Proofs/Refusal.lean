import Lowering.Proofs.Building

/-
This file says what an operation of a builder leaves behind when it fails: everything as it was, but
for one temporary at most. The temporary is gone when the operands were in order and the block at the
insertion point was not.
-/

namespace Lowering

/-- The first item that passes a test is the only one that is changed. -/
theorem getElem?_modifyFirst {A : Type} (test : A → Bool) (change : A → A) (items : List A)
    (place : Nat) :
    (modifyFirst test change items)[place]? =
      items[place]?.map (if items.findIdx? test = some place then change else id) := by
  induction items generalizing place with
  | nil => rfl
  | cons item rest rest_ih =>
    rw [modifyFirst, List.findIdx?_cons]
    cases passes : test item with
    | true => cases place <;> simp
    | false => cases place <;> simp [rest_ih]

namespace IR

/-- The error is about the block at the insertion point: it is not there, or it is terminated. -/
def BuildError.refusesBlock : BuildError → Bool
  | .unknownBlock .. | .blockTerminated .. => true
  | _ => false

namespace Request

/-- Storing a value as one of another type is put together from several operations. -/
def isPrimitive : Request → Bool
  | .assignValue .. => false
  | _ => true

/-- Whether the operation defines a temporary. -/
def yields : Request → Bool
  | .allocStack _ | .allocExistential .. | .load _ | .unsafeCastAddr .. | .recordMemberAddr ..
  | .apply .. | .partialApply .. | .openExistential .. | .openExistentialAddr .. => true
  | _ => false

/-- The operands that must be addresses. -/
def addresses : Request → List Value
  | .allocExistential container _ | .openExistentialAddr container _ => [container]
  | .load location | .store _ location => [location]
  | .copyAddr source dest => [source, dest]
  | .unsafeCastAddr source _ => [source]
  | .recordMemberAddr record .. => [record]
  | _ => []

/-- Whether an operation that fails with this error has taken the temporary for its result. -/
def isCharged (request : Request) (error : BuildError) : Bool :=
  request.yields && request.addresses.all (fun value => value.isAddress || value.isError) &&
    error.refusesBlock

end Request

namespace Builder

/-- The place of the function at the insertion point. -/
def place? (builder : Builder) : Option Nat :=
  builder.cursor.bind fun cursor => builder.module.functions.findIdx? (·.name == cursor.function)

/--
Nothing has changed, with one exception if there is a charge: the function at the insertion point,
which exists, has one temporary less to give. Its counter, as it is stored, goes up by one, which is
one more as a number unless the last temporary was given.
-/
structure Refuses (before after : Builder) (charge : Bool) : Prop where
  cursor : after.cursor = before.cursor
  name : after.module.name = before.module.name
  tables : after.module.witnessTables = before.module.witnessTables
  count : after.module.functions.length = before.module.functions.length
  functions : ∀ place function, before.module.functions[place]? = some function →
    ∃ later, after.module.functions[place]? = some later ∧ later.name = function.name ∧
      later.signature = function.signature ∧ later.blocks = function.blocks ∧
      later.labels = function.labels ∧ later.temps.word = function.temps.word +
        (if charge = true ∧ before.place? = some place then 1 else 0) ∧
      (later.temps.Storable → later.temps.word.toNat = function.temps.word.toNat +
        if charge = true ∧ before.place? = some place then 1 else 0)
  charged : charge = true → before.place?.isSome = true

namespace Refuses

theorem unchanged (builder : Builder) : builder.Refuses builder false where
  cursor := rfl
  name := rfl
  tables := rfl
  count := rfl
  functions := fun _ function found =>
    ⟨function, found, rfl, rfl, rfl, rfl, (UInt32.add_zero _).symm, fun _ => rfl⟩
  charged := nofun

/-- A temporary of the function at the insertion point is gone. -/
theorem takeTemp {builder : Builder} {cursor : Cursor} {function : Function}
    (here : builder.cursor = some cursor)
    (found : builder.module.function? cursor.function = some function) :
    builder.Refuses (builder.put function.takeTemp.2) true := by
  obtain ⟨name, block⟩ := cursor
  obtain rfl : function.name = name := Module.name_of_function? found
  have first : builder.place? = builder.module.functions.findIdx? (·.name == function.name) := by
    rw [place?, here, Option.bind_some]
  have same : (builder.put function.takeTemp.2).module.functions =
      modifyFirst (·.name == function.name) (fun own => own.takeTemp.2) builder.module.functions :=
    (modifyFirst_of_find? _ (fun own : Function => own.takeTemp.2) _ _ found).symm
  refine ⟨rfl, rfl, rfl, length_modifyFirst _ _ _, fun place own listed => ?_, fun _ => ?_⟩
  · rw [same, getElem?_modifyFirst, listed, Option.map_some, ← first]
    by_cases located : builder.place? = some place
    · simp only [located, and_self, if_true]
      exact ⟨own.takeTemp.2, rfl, rfl, rfl, rfl, rfl, own.temps.word_next,
        Counter.Storable.toNat_word_next⟩
    · simp only [located, and_false, if_false]
      exact ⟨own, rfl, rfl, rfl, rfl, rfl, (UInt32.add_zero _).symm, fun _ => rfl⟩
  · rw [first, List.findIdx?_isSome, List.any_eq_true]
    exact ⟨function, Module.mem_of_function? found, beq_self_eq_true function.name⟩

end Refuses

end Builder

namespace BuildM

variable {before after : Builder} {error : BuildError}

/-- What stops an instruction at a function is the block there. -/
theorem run_append_refusal {instruction : Instruction} {cursor : Cursor} {function : Function}
    (here : before.cursor = some cursor)
    (found : before.module.function? cursor.function = some function)
    (stops : append instruction before = .error error after) : error.refusesBlock = true := by
  obtain stops | ⟨place, between, placed, further⟩ := (run_bind_error _ _ _ _ _).mp stops
  · exact nomatch here.symm.trans (run_requireCursor_error stops).2.1
  obtain ⟨listed, rfl⟩ := run_requireCursor placed
  obtain rfl := Option.some.inj (here.symm.trans listed)
  obtain stops | ⟨own, between, required, last⟩ := (run_bind_error _ _ _ _ _).mp further
  · exact nomatch found.symm.trans (run_requireFunction_error stops).2.1
  obtain ⟨_, rfl⟩ := run_requireFunction required
  cases inside : own.block? cursor.block with
  | none =>
    simp only [inside] at last
    obtain ⟨rfl, _⟩ := (run_throw_error _ _ _ _).mp last
    rfl
  | some block =>
    simp only [inside] at last
    split at last
    · obtain stops | ⟨_, _, impossible, _⟩ := (run_bind_error _ _ _ _ _).mp last
      · obtain ⟨rfl, _⟩ := (run_throw_error _ _ _ _).mp stops
        rfl
      · exact ((run_throw _ _ _ _).mp impossible).elim
    · exact ((run_modify_error _ _ _ _).mp last).elim

/-- Without a function at the insertion point nothing is said about a block. -/
theorem run_takeTemp_refusal (stops : takeTemp before = .error error after) :
    error.refusesBlock = false := by
  obtain stops | ⟨cursor, between, placed, further⟩ := (run_bind_error _ _ _ _ _).mp stops
  · obtain ⟨_, _, rfl⟩ := run_requireCursor_error stops
    rfl
  obtain stops | ⟨function, between, required, last⟩ := (run_bind_error _ _ _ _ _).mp further
  · obtain ⟨_, _, rfl⟩ := run_requireFunction_error stops
    rfl
  obtain stops | ⟨_, _, _, stops⟩ := (run_bind_error _ _ _ _ _).mp last
  · exact ((run_modify_error _ _ _ _).mp stops).elim
  · exact ((run_pure_error _ _ _ _).mp stops).elim

/-- A definition is charged for when it is the block that refuses it. -/
theorem run_define_refusal {type : OperandType} {instruction : TempId → Instruction}
    (stops : define type instruction before = .error error after) :
    before.Refuses after error.refusesBlock := by
  obtain stops | ⟨id, between, taken, further⟩ := (run_bind_error _ _ _ _ _).mp stops
  · rw [run_takeTemp_error stops, run_takeTemp_refusal stops]
    exact .unchanged before
  obtain ⟨cursor, function, here, found, rfl, rfl⟩ := run_takeTemp taken
  obtain stops | ⟨_, _, _, stops⟩ := (run_bind_error _ _ _ _ _).mp further
  · have named := Module.name_of_function? found
    have present : (before.put function.takeTemp.2).module.function? cursor.function =
        some function.takeTemp.2 :=
      named ▸ Builder.function?_put_self function.takeTemp.2 function before (named.symm ▸ found)
    have placed : (before.put function.takeTemp.2).cursor = some cursor := here
    rw [run_append_error stops, run_append_refusal placed present stops]
    exact .takeTemp here found
  · exact ((run_pure_error _ _ _ _).mp stops).elim

/-- The operand is refused, or what follows its check is. -/
theorem run_requireAddress_refusal {A : Type} {opcode : String} {operand : Value} {next : BuildM A}
    (stops : (requireAddress opcode operand >>= fun _ => next) before = .error error after) :
    (error.refusesBlock = false ∧ after = before) ∨
      ((operand.isAddress || operand.isError) = true ∧ next before = .error error after) := by
  obtain stops | ⟨_, between, checked, further⟩ := (run_bind_error _ _ _ _ _).mp stops
  · refine Or.inl ⟨?_, run_requireAddress_error stops⟩
    unfold requireAddress at stops
    split at stops
    · exact ((run_pure_error _ _ _ _).mp stops).elim
    · obtain ⟨rfl, _⟩ := (run_throw_error _ _ _ _).mp stops
      rfl
  · obtain ⟨accepted, rfl⟩ := run_requireAddress checked
    exact Or.inr ⟨accepted, further⟩

/-- A definition with a checked operand is charged for when the operand was in order. -/
theorem run_checked_refusal {opcode : String} {operand : Value} {type : OperandType}
    {instruction : TempId → Instruction}
    (stops : (requireAddress opcode operand >>= fun _ => define type instruction) before =
      .error error after) :
    before.Refuses after
      ([operand].all (fun value => value.isAddress || value.isError) && error.refusesBlock) := by
  obtain ⟨refused, rfl⟩ | ⟨accepted, stops⟩ := run_requireAddress_refusal stops
  · rw [refused, Bool.and_false]
    exact .unchanged _
  · rw [List.all_cons, accepted]
    exact run_define_refusal stops

/-- An instruction without a result costs nothing, and neither does the check of its operands. -/
theorem run_requireAddress_append_error {opcode : String} {operand : Value}
    {instruction : Instruction}
    (stops : (requireAddress opcode operand >>= fun _ => append instruction) before =
      .error error after) : after = before := by
  obtain ⟨_, same⟩ | ⟨_, stops⟩ := run_requireAddress_refusal stops
  · exact same
  · exact run_append_error stops

theorem run_functionRef_error {name : String}
    (stops : functionRef name before = .error error after) : after = before := by
  obtain stops | ⟨_, _, _, stops⟩ := (run_bind_error _ _ _ _ _).mp stops
  · exact (run_requireFunction_error stops).1
  · exact ((run_pure_error _ _ _ _).mp stops).elim

end BuildM

open BuildM in
/--
An operation that fails leaves a builder as it was, whatever its operands and wherever the insertion
point. Only one that defines a value, and gets past the check of its operands, costs a temporary of
the function at the insertion point when there is no open block for it.
-/
theorem Request.step_refuses (request : Request) (primitive : request.isPrimitive = true)
    {before after : Builder} {error : BuildError} (stops : request.step before = .error error after) :
    before.Refuses after (request.isCharged error) := by
  have free (same : after = before) : before.Refuses after false := same ▸ .unchanged before
  cases request with
  | getOrCreateFunction name signature =>
    obtain ⟨_, _, _, _, same⟩ := run_getOrCreateFunction_error ((run_map_error _ _ _ _ _).mp stops)
    exact free same
  | functionRef name => exact free (run_functionRef_error ((run_map_error _ _ _ _ _).mp stops))
  | createBlock name params =>
    exact free (run_createBlock_error ((run_map_error _ _ _ _ _).mp stops))
  | setCursor | positionAtEnd | addWitnessTable =>
    exact ((run_modify_error _ _ _ _).mp stops).elim
  | allocStack | apply | partialApply | openExistential =>
    exact run_define_refusal ((run_map_error _ _ _ _ _).mp stops)
  | allocExistential | load | unsafeCastAddr | recordMemberAddr | openExistentialAddr =>
    exact run_checked_refusal ((run_map_error _ _ _ _ _).mp stops)
  | store value location => exact free (run_requireAddress_append_error stops)
  | copyAddr source dest =>
    obtain ⟨_, same⟩ | ⟨_, stops⟩ := run_requireAddress_refusal stops
    · exact free same
    · exact free (run_requireAddress_append_error stops)
  | ret | halt => exact free (run_append_error stops)
  | assignValue => cases primitive

/-- Two functions, and the insertion point in the second one, whose block is terminated. -/
def terminatedBuilder : Builder :=
  Operation.performAll
    [.one (.getOrCreateFunction "f" ⟨[], .object .int⟩), .one (.createBlock "f" [.object .int]),
      .one (.getOrCreateFunction "g" ⟨[], .object .int⟩), .one (.createBlock "g" []),
      .one (.positionAtEnd "g" 0), .one .halt]
    (Builder.empty "m")

/-- The error value passes for an address, and the block does not take the load. -/
theorem Request.step_refuses_terminated :
    (Request.load (Value.error (.object .int))).isPrimitive = true ∧ ∃ error after,
      (Request.load (Value.error (.object .int))).step terminatedBuilder = .error error after ∧
      (Request.load (Value.error (.object .int))).isCharged error = true ∧
      terminatedBuilder.place? = some 1 ∧
      terminatedBuilder.Refuses after
        ((Request.load (Value.error (.object .int))).isCharged error) := by
  let request := Request.load (Value.error (.object .int))
  have seen : (match request.step terminatedBuilder with
      | .error error _ => some (request.isCharged error)
      | .ok _ _ => none) = some true := by
    decide +kernel
  have located : terminatedBuilder.place? = some 1 := by decide +kernel
  cases ran : request.step terminatedBuilder with
  | ok value after => simp [ran] at seen
  | error error after =>
    simp only [ran, Option.some.injEq] at seen
    exact ⟨rfl, error, after, rfl, seen, located, request.step_refuses rfl ran⟩

end IR

end Lowering
