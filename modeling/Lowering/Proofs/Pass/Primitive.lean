import Lowering.Proofs.Pass.Policy

/-
This file says of each primitive step of a pass that it keeps every policy: building steps, names,
findings and declarations of functions.
-/

namespace Lowering

open IR

theorem NamesM.run_unique {path name : String} {before after : Names}
    (done : unique path before = .ok name after) :
    after.assigned = before.assigned ∧ ∃ uses, name = numbered path uses := by
  unfold unique at done
  obtain ⟨_, _, read, done⟩ := (run_bind _ _ _ _ _).mp done
  obtain ⟨rfl, rfl⟩ := (run_get _ _ _).mp read
  obtain ⟨_, between, changed, done⟩ := (run_bind _ _ _ _ _).mp done
  rw [run_modify] at changed
  obtain ⟨rfl, rfl⟩ := (run_pure _ _ _ _).mp done
  exact ⟨by rw [← changed], _, rfl⟩

theorem NamesM.run_qualified {program : Program} {id : DeclId} {name : String}
    {before after : Names} (done : qualified program id before = .ok name after) :
    program.qualifiedName id = .ok name ∧ after = before := by
  unfold qualified at done
  cases found : program.qualifiedName id with
  | ok given =>
    rw [found] at done
    obtain ⟨rfl, rfl⟩ := (run_pure _ _ _ _).mp done
    exact ⟨rfl, rfl⟩
  | error error =>
    rw [found] at done
    exact ((run_throw _ _ _ _).mp done).elim

/-- A declaration has its name afterwards, and every other keeps the one that it has. -/
theorem NamesM.run_functionName {program : Program} {id : DeclId} {name : String}
    {before after : Names} (done : functionName program id before = .ok name after) :
    (∀ other given, before.assigned.get? other = some given →
      after.assigned.get? other = some given) ∧ after.assigned.get? id = some name ∧
      ∀ other given, after.assigned.get? other = some given →
        before.assigned.get? other = some given ∨ program.HasName other given := by
  unfold functionName at done
  obtain ⟨_, _, read, done⟩ := (run_bind _ _ _ _ _).mp done
  obtain ⟨rfl, rfl⟩ := (run_get _ _ _).mp read
  cases found : before.assigned.get? id with
  | some given =>
    simp only [found] at done
    obtain ⟨rfl, rfl⟩ := (run_pure _ _ _ _).mp done
    exact ⟨fun _ _ kept => kept, found, fun _ _ kept => Or.inl kept⟩
  | none =>
    simp only [found] at done
    obtain ⟨path, between, asked, rest⟩ := (run_bind _ _ _ _ _).mp done
    obtain ⟨qualifies, rfl⟩ := run_qualified asked
    obtain ⟨fresh, middle, numbered, rest⟩ := (run_bind _ _ _ _ _).mp rest
    obtain ⟨same, uses, rfl⟩ := run_unique numbered
    obtain ⟨_, last, changed, rest⟩ := (run_bind _ _ _ _ _).mp rest
    obtain ⟨rfl, rfl⟩ := (run_pure _ _ _ _).mp rest
    obtain rfl := (run_modify _ _ _ _).mp changed
    refine ⟨?_, by simp, ?_⟩
    · intro other given kept
      have apart : other ≠ id := by
        intro clash
        rw [clash, found] at kept
        cases kept
      simp only [Table.get?_insert_of_ne _ _ _ _ apart, same]
      exact kept
    · intro other given assigned
      by_cases here : other = id
      · subst here
        obtain rfl : NamesM.numbered path uses = given := by simpa using assigned
        exact Or.inr ⟨path, uses, qualifies, rfl⟩
      · simp only [Table.get?_insert_of_ne _ _ _ _ here, same] at assigned
        exact Or.inl assigned

/-- A declaration that has a name keeps it. -/
theorem NamesM.functionName_of_assigned {program : Program} {id : DeclId} {name : String}
    {names : Names} (assigned : names.assigned.get? id = some name) :
    functionName program id names = .ok name names := by
  refine (run_bind _ _ _ _ _).mpr ⟨names, names, (run_get _ _ _).mpr ⟨rfl, rfl⟩, ?_⟩
  simp only [assigned]
  rfl

namespace Policy

variable {job : Job} {policy : Policy job}

theorem kind_of_temporary {value : Value} (temporary : value.temp?.isSome = true) (name : String) :
    value.kind ≠ .function name := by
  intro kind
  simp [Value.temp?, kind] at temporary

theorem kind_of_local {value : Value} (kept : value.IsLocal) (name : String) :
    value.kind ≠ .function name := by
  rcases kept with error | temporary
  · intro kind
    simp [Value.isError, kind] at error
  · exact kind_of_temporary temporary name

theorem isLocal_error (type : OperandType) : (Value.error type).IsLocal := Or.inl rfl

/-- Usable operands stay usable together. -/
theorem all_usable {before after : Pass} {values : List Value} (steady : before.Steady after)
    (usable : ∀ value ∈ values, policy.Usable before value) :
    ∀ value ∈ values, policy.Usable after value :=
  fun value inside => policy.usable_of_steady steady (usable value inside)

namespace Maintains

variable {before : Pass}

theorem define {type : OperandType} {instruction : TempId → Instruction}
    (defines : ∀ id, (instruction id).value? = some (Value.temp id type))
    (usable : ∀ id, ∀ operand ∈ (instruction id).operands, policy.Usable before operand)
    (sanctioned : ∀ id, job.Sanctioned before (instruction id)) :
    policy.Maintains (liftM (BuildM.define type instruction)) before
      fun value after => policy.Temporary after value := by
  intro working holds value after done
  obtain ⟨builder, ran, rfl⟩ := (lift_build _ _ _ _).mp done
  obtain ⟨again, steady⟩ := working.define defines ran
  obtain ⟨kept, operand⟩ := policy.define working holds defines usable sanctioned ran
  obtain ⟨function, block, _, rfl, _⟩ := BuildM.run_define ran
  exact ⟨again, kept, steady, operand, rfl⟩

theorem append {instruction : Instruction} (silent : instruction.value? = none)
    (continues : instruction.isTerminator = false)
    (usable : ∀ operand ∈ instruction.operands, policy.Usable before operand) :
    policy.Maintains (liftM (BuildM.append instruction)) before fun _ _ => True := by
  intro working holds value after done
  obtain ⟨builder, ran, rfl⟩ := (lift_build _ _ _ _).mp done
  obtain ⟨again, steady⟩ := working.append silent continues ran
  exact ⟨again, policy.append working holds silent usable ran, steady, trivial⟩

/-- A check of an operand changes nothing. -/
theorem requireAddress_bind {A : Type} {opcode : String} {operand : Value} {next : BuildM A}
    {last : A → Pass → Prop} (rest : policy.Maintains (liftM next) before last) :
    policy.Maintains (liftM (BuildM.requireAddress opcode operand >>= fun _ => next)) before
      last := by
  intro working holds value after done
  obtain ⟨builder, ran, rfl⟩ := (lift_build _ _ _ _).mp done
  obtain ⟨_, between, checked, ran⟩ := (run_bind _ _ _ _ _).mp ran
  obtain ⟨_, rfl⟩ := BuildM.run_requireAddress checked
  exact rest working holds value _ ((lift_build _ _ _ _).mpr ⟨builder, ran, rfl⟩)

/-- An instruction that calls nothing is sanctioned. -/
theorem define_other {type : OperandType} {instruction : TempId → Instruction}
    (defines : ∀ id, (instruction id).value? = some (Value.temp id type))
    (usable : ∀ id, ∀ operand ∈ (instruction id).operands, policy.Usable before operand)
    (other : ∀ id result function args type,
      instruction id ≠ .apply result function args type) :
    policy.Maintains (liftM (BuildM.define type instruction)) before
      fun value after => policy.Temporary after value :=
  define defines usable fun id => .of_not_apply before (other id)

theorem allocStack (ty : Ty) :
    policy.Maintains (liftM (BuildM.allocStack ty)) before
      fun value after => policy.Temporary after value :=
  define_other (fun _ => rfl) (by simp [Instruction.operands]) (by simp)

theorem allocExistential {container : Value} (usable : policy.Usable before container)
    (witness : Ty) :
    policy.Maintains (liftM (BuildM.allocExistential container witness)) before
      fun value after => policy.Temporary after value :=
  requireAddress_bind
    (define_other (fun _ => rfl) (by simpa [Instruction.operands] using usable) (by simp))

theorem load {location : Value} (usable : policy.Usable before location) :
    policy.Maintains (liftM (BuildM.load location)) before
      fun value after => policy.Temporary after value :=
  requireAddress_bind
    (define_other (fun _ => rfl) (by simpa [Instruction.operands] using usable) (by simp))

theorem unsafeCastAddr {source : Value} (usable : policy.Usable before source) (target : Ty) :
    policy.Maintains (liftM (BuildM.unsafeCastAddr source target)) before
      fun value after => policy.Temporary after value :=
  requireAddress_bind
    (define_other (fun _ => rfl) (by simpa [Instruction.operands] using usable) (by simp))

theorem recordMemberAddr {record : Value} (usable : policy.Usable before record)
    (member : DeclId) (name : String) (ty : Ty) :
    policy.Maintains (liftM (BuildM.recordMemberAddr record member name ty)) before
      fun value after => policy.Temporary after value :=
  requireAddress_bind
    (define_other (fun _ => rfl) (by simpa [Instruction.operands] using usable) (by simp))

theorem partialApply {function : Value} {args : List Value}
    (usable : policy.Usable before function) (all : ∀ arg ∈ args, policy.Usable before arg)
    (ty : Ty) :
    policy.Maintains (liftM (BuildM.partialApply function args ty)) before
      fun value after => policy.Temporary after value :=
  define_other (fun _ => rfl) (by simpa [Instruction.operands] using ⟨usable, all⟩) (by simp)

theorem openExistential {container : Value} (usable : policy.Usable before container) (ty : Ty) :
    policy.Maintains (liftM (BuildM.openExistential container ty)) before
      fun value after => policy.Temporary after value :=
  define_other (fun _ => rfl) (by simpa [Instruction.operands] using usable) (by simp)

theorem openExistentialAddr {container : Value} (usable : policy.Usable before container)
    (ty : Ty) :
    policy.Maintains (liftM (BuildM.openExistentialAddr container ty)) before
      fun value after => policy.Temporary after value :=
  requireAddress_bind
    (define_other (fun _ => rfl) (by simpa [Instruction.operands] using usable) (by simp))

/-- A call needs one of the sanctioned origins. -/
theorem apply {function : Value} {args : List Value} (usable : policy.Usable before function)
    (all : ∀ arg ∈ args, policy.Usable before arg)
    (origin : job.CallsValue before function args ∨ job.CallsMethod before function args ∨
      job.CallsImplementation before function args) (type : OperandType) :
    policy.Maintains (liftM (BuildM.apply function args type)) before
      fun value after => policy.Temporary after value := by
  refine define (fun _ => rfl) (by simpa [Instruction.operands] using ⟨usable, all⟩) ?_
  intro id result callee given type same
  cases same
  exact origin

theorem store {value location : Value} (usable : policy.Usable before value)
    (target : policy.Usable before location) :
    policy.Maintains (liftM (BuildM.store value location)) before fun _ _ => True :=
  requireAddress_bind
    (append rfl rfl (by simpa [Instruction.operands] using ⟨usable, target⟩))

theorem copyAddr {source dest : Value} (usable : policy.Usable before source)
    (target : policy.Usable before dest) :
    policy.Maintains (liftM (BuildM.copyAddr source dest)) before fun _ _ => True :=
  requireAddress_bind (requireAddress_bind
    (append rfl rfl (by simpa [Instruction.operands] using ⟨usable, target⟩)))

theorem assignValue {value location : Value} (usable : policy.Usable before value)
    (target : policy.Usable before location) (ty : Ty) :
    policy.Maintains (liftM (BuildM.assignValue value ty location)) before fun _ _ => True := by
  unfold BuildM.assignValue
  simp only
  split
  · intro working holds given after done
    obtain ⟨builder, ran, rfl⟩ := (lift_build _ _ _ _).mp done
    obtain ⟨_, rfl⟩ := (run_pure _ _ _ _).mp ran
    exact ⟨working, holds, .refl before, trivial⟩
  · split
    · exact store usable target
    · split
      · refine build_bind (allocStack ty) ?_
        intro temporary first steady room
        refine build_bind (store (policy.usable_of_steady steady usable) room.1) ?_
        intro _ second later _
        refine build_bind (unsafeCastAddr (policy.usable_of_steady later room.1) _) ?_
        intro source third last cast
        exact copyAddr cast.1 (policy.usable_of_steady ((steady.trans later).trans last) target)
      · split
        · refine build_bind (allocExistential target ty) ?_
          intro slot first steady room
          exact store (policy.usable_of_steady steady usable) room.1
        · exact store usable target

end Maintains

namespace Concludes

variable {before : Pass}

theorem terminate {instruction : Instruction} (ends : instruction.isTerminator = true)
    (usable : ∀ operand ∈ instruction.operands, policy.Usable before operand) :
    policy.Concludes (liftM (BuildM.append instruction)) before := by
  intro working holds value after done
  obtain ⟨builder, appended, rfl⟩ := (lift_build _ _ _ _).mp done
  obtain ⟨formed, _, closes⟩ := working.terminate ends appended
  have silent : instruction.value? = none := by
    cases instruction <;> simp_all [Instruction.isTerminator, Instruction.value?]
  exact ⟨formed, policy.append working holds silent usable appended, closes⟩

theorem ret {value : Value} (usable : policy.Usable before value) :
    policy.Concludes (liftM (BuildM.ret value)) before :=
  terminate rfl (by simpa [Instruction.operands] using usable)

end Concludes

namespace Visits

variable {before : Pass}

/-- A block is added and written, and the insertion point is taken back. -/
theorem writing {A : Type} {name : String} {params : List OperandType}
    {next : LabelId × List Value → PassM A} {rest : List Value → PassM A}
    (positions : ∀ label args,
      next (label, args) = do BuildM.positionAtEnd name label; rest args)
    (concludes : ∀ args middle, args.length = params.length →
      (∀ arg ∈ args, policy.Bindable middle arg) → policy.Concludes (rest args) middle) :
    policy.Visits (PassM.restoring (liftM (BuildM.createBlock name params) >>= next)) before
      fun _ _ => True := by
  refine .restoring fun formed holds value after done => ?_
  obtain ⟨⟨label, args⟩, between, ran, done⟩ := (run_bind _ _ _ _ _).mp done
  obtain ⟨builder, created, rfl⟩ := (lift_build _ _ _ _).mp ran
  rw [positions] at done
  obtain ⟨_, middle, positioned, done⟩ := (run_bind _ _ _ _ _).mp done
  obtain ⟨last, moved, rfl⟩ := (lift_build _ _ _ _).mp positioned
  obtain rfl := (BuildM.run_setCursor _ _ _ _).mp moved
  have opened := Pass.opens_block formed created
  obtain ⟨holds, usable⟩ := policy.block formed holds created
  have ⟨length, temporary⟩ : args.length = params.length ∧
      ∀ arg ∈ args, arg.temp?.isSome = true := by
    obtain ⟨function, _, _, rfl, _⟩ := BuildM.run_createBlock created
    refine ⟨by simp [Block.paramValues, Function.addBlock, Counter.take], ?_⟩
    intro arg inside
    obtain ⟨param, _, rfl⟩ := List.mem_map.mp inside
    rfl
  obtain ⟨formed, holds, closes⟩ := concludes args _ length
    (fun arg inside => ⟨usable arg inside, Or.inr (temporary arg inside)⟩) opened.working holds
    value after done
  exact ⟨formed, holds, opened.settles closes⟩

theorem message_of_unlowered (failure : Unlowerable) (span : Span) :
    (Finding.unlowered failure span).diagnostic.message ≠
      "missing return value in non-unit function" := by
  intro same
  have heads := congrArg (fun text : String => text.toList.head?) same
  simp [Finding.diagnostic, toString] at heads

/-- A finding other than a missing return is reported. -/
theorem report (finding : Finding)
    (other : finding.diagnostic.message ≠ "missing return value in non-unit function") :
    policy.Visits (PassM.report finding) before fun _ after =>
      finding.diagnostic.isError = true → after.report.containsError = true := by
  intro formed holds value after done
  have same := (run_modify _ _ _ _).mp done
  subst same
  refine ⟨formed, policy.report finding holds, before.settles_report other, ?_⟩
  intro isError
  simp [Report.containsError_add, isError]

theorem functionName (id : DeclId) :
    policy.Visits (liftM (NamesM.functionName job.program id)) before fun name after =>
      after.names.assigned.get? id = some name := by
  intro formed holds name after done
  obtain ⟨names, given, rfl⟩ := (lift_names _ _ _ _).mp done
  obtain ⟨kept, assigned, listed⟩ := NamesM.run_functionName given
  exact ⟨formed, policy.names holds kept listed, .of_module rfl (.refl _ _) rfl rfl kept, assigned⟩

/-- The function is there afterwards, with the signature that was asked for. -/
theorem getOrCreateFunction (name : String) (signature : Signature) :
    policy.Visits (liftM (BuildM.getOrCreateFunction name signature)) before fun value after =>
      value = Value.function name signature.funType ∧ ∃ function,
        after.builder.module.function? name = some function ∧ function.signature = signature := by
  intro formed holds value after done
  obtain ⟨builder, ran, rfl⟩ := (lift_build _ _ _ _).mp done
  have created := BuildM.function?_of_getOrCreate ran
  obtain ⟨rfl, ⟨_, _, _, rfl⟩ | ⟨absent, rfl⟩⟩ := BuildM.run_getOrCreateFunction ran
  · exact ⟨formed, holds, .refl before, rfl, created⟩
  · refine ⟨formed.addFunction signature absent, policy.function formed holds absent, ?_, rfl,
      created⟩
    exact .of_module rfl (.addFunction _ _ _) (Module.pending_addFunction _ _ _) rfl
      fun _ _ given => given

/-- The function of a declaration is there afterwards, under the name that it keeps. -/
theorem declare (id : DeclId) :
    policy.Visits (job.declare id) before fun value after => job.Declared after id value := by
  intro formed holds value after done
  obtain ⟨name, named, ran, done⟩ := (run_bind _ _ _ _ _).mp done
  obtain ⟨formed, holds, start, assigned⟩ := functionName id formed holds name named ran
  obtain ⟨signature, signed, done⟩ := (run_check_bind _ _ _ _ _).mp done
  obtain ⟨formed, holds, settled, rfl, function, found, typed⟩ :=
    getOrCreateFunction name signature formed holds value after done
  exact ⟨formed, holds, start.trans settled, name, signature, function,
    settled.grows.names id name assigned, signed, rfl, found, typed⟩

end Visits

end Policy

end Lowering
