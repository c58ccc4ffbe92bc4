import Lowering.Proofs.Pass.Allotment
import Lowering.Proofs.Pass.Contract

/-
This file says what it takes for a contract of the pass to outlast the steps inside a function body,
whichever block they write, and the declarations of functions.
-/

namespace Lowering

open IR

/-- The signature of a function may be unknown, but it misuses no builder. -/
instance (job : Job) (id : DeclId) : Blameless (job.signature id) := by
  refine Blameless.bind fun decl => ?_
  cases decl.routine? with
  | none => exact .abort
  | some routine =>
    refine Blameless.bind fun unapplied => Blameless.bind fun captures => ?_
    refine @Blameless.bind _ _ _ _ (.mapM (fun capture => ?_) captures) fun _ => inferInstance
    exact Blameless.bind fun _ => inferInstance

/-- The function that a closure is made of, and the arguments that it binds. -/
def IR.Instruction.closure? : Instruction → Option (Value × List Value)
  | .partialApply _ function args _ => some (function, args)
  | _ => none

/--
A contract of the pass, and why the steps that a body takes keep to it. A step of the builder is
refused for the state of the builder, an operand, or the signature of a function.
-/
structure Invariant (job : Job) extends Contract Pass where
  /-- What closures may be made of. -/
  Closes : Pass → Value → List Value → Prop := fun _ _ _ => True
  define : ∀ {pass : Pass} {type : OperandType} {instruction : TempId → Instruction}
    {value : Value} {builder : Builder}, Holds pass →
    (∀ id, ∀ closure ∈ (instruction id).closure?, Closes pass closure.1 closure.2) →
    BuildM.define type instruction pass.builder = .ok value builder →
    Holds { pass with builder := builder }
  append : ∀ {pass : Pass} {instruction : Instruction} {value : Unit} {builder : Builder},
    Holds pass → instruction.closure? = none →
    BuildM.append instruction pass.builder = .ok value builder →
    Holds { pass with builder := builder }
  report : ∀ {pass : Pass} (finding : Finding), Holds pass →
    Holds { pass with report := pass.report.add finding.diagnostic }
  names : ∀ {pass : Pass} {names : Names} {id : DeclId} {name : String}, Holds pass →
    NamesM.functionName job.program id pass.names = .ok name names →
    Holds { pass with names := names }
  function : ∀ {pass : Pass} (name : String) (signature : Signature), Holds pass →
    job.Allots pass.names name signature → pass.builder.module.function? name = none →
    Holds { pass with
      builder := pass.builder.modifyModule
        (Module.addFunction · (Function.declared name signature)) }
  defineStops : ∀ {pass : Pass} {type : OperandType} {instruction : TempId → Instruction}
    {error : BuildError} {builder : Builder}, Holds pass →
    BuildM.define type instruction pass.builder = .error error builder →
    Stops (.violation (.misuse error)) { pass with builder := builder } := by intros; trivial
  appendStops : ∀ {pass : Pass} {instruction : Instruction} {error : BuildError}
    {builder : Builder}, Holds pass →
    BuildM.append instruction pass.builder = .error error builder →
    Stops (.violation (.misuse error)) { pass with builder := builder } := by intros; trivial
  addressStops : ∀ {pass : Pass} {opcode : String} {operand : Value} {error : BuildError}
    {builder : Builder}, Holds pass →
    BuildM.requireAddress opcode operand pass.builder = .error error builder →
    Stops (.violation (.misuse error)) { pass with builder := builder } := by intros; trivial
  functionStops : ∀ {pass : Pass} {name : String} {existing : Function} {signature : Signature},
    Holds pass → job.Allots pass.names name signature →
    pass.builder.module.function? name = some existing → existing.signature ≠ signature →
    Stops (.violation (.misuse (.signatureMismatch name existing.signature signature))) pass := by
      intros; trivial

namespace Invariant

variable {job : Job} (kept : Invariant job)

/-- A step of the pass keeps the invariant. -/
abbrev Keeps {A : Type} (step : PassM A) (post : A → Prop) : Prop :=
  Sustains kept.toContract step post

/-- Whatever goes into closures, the invariant allows it. -/
def Free : Prop := ∀ pass function args, kept.Closes pass function args

/-- An instruction defines a temporary. It may only make a closure that is allowed. -/
theorem ends_define {type : OperandType} {instruction : TempId → Instruction} {before : Pass}
    (holds : kept.Holds before)
    (closes : ∀ id, ∀ closure ∈ (instruction id).closure?,
      kept.Closes before closure.1 closure.2) :
    kept.Ends (fun value => value.type = type ∧ value.isError = false)
      ((liftM (BuildM.define type instruction) : PassM Value) before) := by
  cases ran : (liftM (BuildM.define type instruction) : PassM Value) before with
  | ok value after =>
    obtain ⟨builder, done, rfl⟩ := (lift_build _ _ _ _).mp ran
    refine ⟨kept.define holds closes done, ?_⟩
    obtain ⟨_, _, _, rfl, _⟩ := BuildM.run_define done
    exact ⟨rfl, rfl⟩
  | error abort after =>
    obtain ⟨error, builder, stops, rfl, rfl⟩ := (lift_build_error _ _ _ _).mp ran
    exact kept.defineStops holds stops

theorem keeps_defining (type : OperandType) (instruction : TempId → Instruction)
    (closes : ∀ pass, kept.Holds pass → ∀ id, ∀ closure ∈ (instruction id).closure?,
      kept.Closes pass closure.1 closure.2) :
    kept.Keeps (liftM (BuildM.define type instruction)) fun value =>
      value.type = type ∧ value.isError = false :=
  .of_ends fun pass holds => kept.ends_define holds (closes pass holds)

theorem keeps_define (type : OperandType) (instruction : TempId → Instruction)
    (plain : ∀ id, (instruction id).closure? = none) :
    kept.Keeps (liftM (BuildM.define type instruction)) fun value =>
      value.type = type := by
  refine (kept.keeps_defining type instruction fun pass _ id closure given => ?_).mono
    fun _ defined => defined.1
  rw [plain] at given
  cases given

theorem keeps_append (instruction : Instruction) (plain : instruction.closure? = none) :
    kept.Keeps (liftM (BuildM.append instruction)) fun _ => True :=
  .build (fun holds done => ⟨kept.append holds plain done, trivial⟩) kept.appendStops

/-- The check of an operand needs no attention. -/
theorem requireAddress_bind {A : Type} {opcode : String} {operand : Value} {next : BuildM A}
    {post : A → Prop} (rest : kept.Keeps (liftM next) post) :
    kept.Keeps (liftM (BuildM.requireAddress opcode operand >>= fun _ => next)) post := by
  have checked : kept.Keeps (liftM (BuildM.requireAddress opcode operand)) fun _ => True := by
    refine .build (fun holds done => ?_) kept.addressStops
    obtain ⟨_, rfl⟩ := BuildM.run_requireAddress done
    exact ⟨holds, trivial⟩
  exact .build_bind checked fun _ _ => rest

theorem keeps_allocStack (ty : Ty) :
    kept.Keeps (liftM (BuildM.allocStack ty)) fun value =>
      value.type = .address ty ∧ value.isError = false :=
  kept.keeps_defining _ _ fun _ _ _ _ given => nomatch given

theorem keeps_load (location : Value) :
    kept.Keeps (liftM (BuildM.load location)) fun value =>
      value.type = .object location.type.ty :=
  kept.requireAddress_bind (kept.keeps_define _ _ fun _ => rfl)

theorem keeps_store (value location : Value) :
    kept.Keeps (liftM (BuildM.store value location)) fun _ => True :=
  kept.requireAddress_bind (kept.keeps_append _ rfl)

theorem keeps_copyAddr (source dest : Value) :
    kept.Keeps (liftM (BuildM.copyAddr source dest)) fun _ => True :=
  kept.requireAddress_bind (kept.requireAddress_bind (kept.keeps_append _ rfl))

theorem keeps_unsafeCastAddr (source : Value) (target : Ty) :
    kept.Keeps (liftM (BuildM.unsafeCastAddr source target)) fun value =>
      value.type = .address target :=
  kept.requireAddress_bind (kept.keeps_define _ _ fun _ => rfl)

theorem keeps_recordMemberAddr (record : Value) (member : DeclId) (name : String) (ty : Ty) :
    kept.Keeps (liftM (BuildM.recordMemberAddr record member name ty)) fun value =>
      value.type = .address ty :=
  kept.requireAddress_bind (kept.keeps_define _ _ fun _ => rfl)

theorem keeps_apply (function : Value) (args : List Value) (type : OperandType) :
    kept.Keeps (liftM (BuildM.apply function args type)) fun value =>
      value.type = type :=
  kept.keeps_define _ _ fun _ => rfl

theorem ends_partialApply {function : Value} {args : List Value} {before : Pass}
    (holds : kept.Holds before) (closes : kept.Closes before function args) (ty : Ty) :
    kept.Ends (fun value => value.type = .object ty)
      ((liftM (BuildM.partialApply function args ty) : PassM Value) before) := by
  refine (kept.ends_define holds fun id closure given => ?_).mono fun _ defined => defined.1
  obtain rfl := Option.some.inj given
  exact closes

theorem keeps_partialApply {function : Value} {args : List Value}
    (closes : ∀ pass, kept.Holds pass → kept.Closes pass function args) (ty : Ty) :
    kept.Keeps (liftM (BuildM.partialApply function args ty)) fun value =>
      value.type = .object ty :=
  .of_ends fun pass holds => kept.ends_partialApply holds (closes pass holds) ty

theorem keeps_openExistential (container : Value) (ty : Ty) :
    kept.Keeps (liftM (BuildM.openExistential container ty)) fun value =>
      value.type = .object ty :=
  kept.keeps_define _ _ fun _ => rfl

theorem keeps_openExistentialAddr (container : Value) (ty : Ty) :
    kept.Keeps (liftM (BuildM.openExistentialAddr container ty)) fun value =>
      value.type = .address ty :=
  kept.requireAddress_bind (kept.keeps_define _ _ fun _ => rfl)

theorem keeps_ret (value : Value) :
    kept.Keeps (liftM (BuildM.ret value)) fun _ => True :=
  kept.keeps_append _ rfl

theorem keeps_halt : kept.Keeps (liftM BuildM.halt) fun _ => True :=
  kept.keeps_append _ rfl

theorem keeps_assignValue (value location : Value) (ty : Ty) :
    kept.Keeps (liftM (BuildM.assignValue value ty location)) fun _ => True := by
  unfold BuildM.assignValue
  simp only
  split
  · refine .build (fun holds done => ?_) fun holds stops => ?_
    · obtain ⟨_, rfl⟩ := (run_pure _ _ _ _).mp done
      exact ⟨holds, trivial⟩
    · exact ((run_pure_error _ _ _ _).mp stops).elim
  · split
    · exact kept.keeps_store _ _
    · split
      · refine .build_bind (kept.keeps_allocStack ty) fun temporary _ => ?_
        refine .build_bind (kept.keeps_store _ _) fun _ _ => ?_
        refine .build_bind (kept.keeps_unsafeCastAddr _ _) fun source _ => ?_
        exact kept.keeps_copyAddr _ _
      · split
        · refine .build_bind (kept.requireAddress_bind (kept.keeps_define _ _ fun _ => rfl)) ?_
          exact fun slot _ => kept.keeps_store _ _
        · exact kept.keeps_store _ _

theorem keeps_report (finding : Finding) :
    kept.Keeps (PassM.report finding) fun _ => True where
  ok before value after holds done := by
    obtain rfl := (run_modify _ _ _ _).mp done
    exact ⟨kept.report _ holds, trivial⟩
  error before abort after _ stops := ((run_modify_error _ _ _ _).mp stops).elim

theorem keeps_functionName (id : DeclId) :
    kept.Keeps (liftM (NamesM.functionName job.program id)) fun _ => True where
  ok before name after holds done := by
    obtain ⟨names, given, rfl⟩ := (lift_names _ _ _ _).mp done
    exact ⟨kept.names holds given, trivial⟩
  error before abort after holds stops := by
    obtain ⟨error, names, refused, rfl, rfl⟩ := (lift_names_error _ _ _ _).mp stops
    obtain rfl := NamesM.run_functionName_error refused
    exact kept.refused rfl holds

theorem keeps_thunkName (implementation requirement : DeclId) :
    kept.Keeps (liftM (NamesM.thunkName job.program implementation requirement)) fun _ => True where
  ok before name after holds done := by
    obtain ⟨names, given, rfl⟩ := (lift_names _ _ _ _).mp done
    obtain ⟨_, _, named, _⟩ := NamesM.run_thunkName given
    exact ⟨kept.names holds named, trivial⟩
  error before abort after holds stops := by
    obtain ⟨error, names, refused, rfl, rfl⟩ := (lift_names_error _ _ _ _).mp stops
    rcases NamesM.run_thunkName_error refused with rfl | ⟨_, named⟩
    · exact kept.refused rfl holds
    · exact kept.refused rfl (kept.names holds named)

/-- A function is named, its signature is asked for, and it is declared. -/
theorem keeps_declaration {A B : Type} {naming : NamesM String} {question : CheckM A}
    [Blameless question] (signed : A → Signature) (next : String → A → Value → PassM B)
    {post : B → Prop} (named : kept.Keeps (liftM naming) fun _ => True)
    (allots : ∀ {before name after answer}, naming before = .ok name after →
      question = .ok answer → job.Allots after name (signed answer))
    (rest : ∀ name answer, question = .ok answer →
      kept.Keeps (next name answer (Value.function name (signed answer).funType)) post) :
    kept.Keeps (do
      let name ← naming
      let answer ← liftM question
      let value ← BuildM.getOrCreateFunction name (signed answer)
      next name answer value) post := by
  refine .of_ends fun before holds => .bind (fun name between lifted => ?_) fun abort after =>
    named.error before abort after holds
  have holds := (named.ok before name between holds lifted).1
  obtain ⟨names, given, rfl⟩ := (lift_names _ _ _ _).mp lifted
  refine .bind (fun answer last asked => ?_) fun abort after =>
    (Sustains.check question).error _ abort after holds
  obtain ⟨answered, rfl⟩ := (lift_check _ _ _ _).mp asked
  have allots := allots given answered
  refine .bind (fun value last lifted => ?_) fun abort after stops => ?_
  · obtain ⟨builder, created, rfl⟩ := (lift_build _ _ _ _).mp lifted
    obtain ⟨rfl, ⟨_, _, _, rfl⟩ | ⟨absent, rfl⟩⟩ := BuildM.run_getOrCreateFunction created
    · exact (rest name answer answered).ends holds
    · exact (rest name answer answered).ends (kept.function name _ holds allots absent)
  · obtain ⟨error, builder, refused, rfl, rfl⟩ := (lift_build_error _ _ _ _).mp stops
    obtain ⟨existing, found, differs, rfl, rfl⟩ := BuildM.run_getOrCreateFunction_error refused
    exact kept.functionStops holds allots found differs

/-- A reference to a function has the type of its signature. -/
theorem keeps_declare (id : DeclId) :
    kept.Keeps (job.declare id) fun value =>
      ∃ signature, job.signature id = .ok signature ∧ value.type = .object signature.funType := by
  have rest (name : String) (signature : Signature) (signed : job.signature id = .ok signature) :
      kept.Keeps (pure (Value.function name signature.funType)) fun value =>
        ∃ signature, job.signature id = .ok signature ∧ value.type = .object signature.funType :=
    .pure ⟨signature, signed, rfl⟩
  have declared := kept.keeps_declaration (fun signature => signature) (fun _ _ value => pure value)
    (kept.keeps_functionName id)
    (fun named signed => .routine id (NamesM.run_functionName named).2.1 signed) rest
  simp only [bind_pure] at declared
  exact declared

end Invariant

/-- Nothing is asked of the pass. -/
def Invariant.unconditional (job : Job) : Invariant job where
  Holds _ := True
  define _ _ _ := trivial
  append _ _ _ := trivial
  report _ _ := trivial
  names _ _ := trivial
  function _ _ _ _ _ := trivial

theorem Invariant.unconditional_free (job : Job) : (unconditional job).Free :=
  fun _ _ _ => trivial

end Lowering
