import Lowering.Proofs.Pass.Conclusive

/-
This file shows that a pass never stops because a walk along the declarations has no end, if the
walks that it asks for have one. There is one instance for each function of the pass.
-/

namespace Lowering

open IR

/-- The walks that a pass asks for have an end. -/
class Program.Walkable (program : Program) : Prop where
  captures : ∀ id, Answered (program.captures id)
  qualifiedName : ∀ id, Answered (program.qualifiedName id)

namespace Program

variable (program : Program) (id : DeclId)

instance : Answered (program.decl id) where
  answered {error} given := by
    unfold decl at given
    cases found : program.find? id with
    | some decl =>
      rw [found] at given
      cases given
    | none =>
      rw [found] at given
      obtain rfl := Except.error.inj given
      rfl

instance : Answered (program.routine? id) := by
  unfold routine?
  infer_instance

instance : Answered (program.nominal id) := by
  unfold nominal
  infer_instance

instance : Answered (program.unappliedType id) := by
  refine Answered.then_ fun decl => ?_
  cases decl.routine? with
  | none => exact inferInstanceAs (Answered (pure _))
  | some routine =>
    dsimp only
    split
    · have : Answered (program.receiverType routine) := by
        unfold receiverType
        cases routine.self <;> infer_instance
      infer_instance
    · infer_instance

instance : Answered (program.storedVars id) := by
  have (member : DeclId) : Answered (do
      match (← program.decl member).kind with
      | .binding binding => return if binding.isMember then binding.pattern.names else []
      | _ => return [] : Answer (List DeclId)) := by
    refine Answered.then_ fun decl => ?_
    cases decl.kind <;> infer_instance
  unfold storedVars
  infer_instance

instance (stmt : Stmt) : Answered (Frame.stmtSpan program stmt) := by
  unfold Frame.stmtSpan
  cases stmt <;> infer_instance

instance [walkable : program.Walkable] : Answered (program.captures id) := walkable.captures id

instance [walkable : program.Walkable] : Answered (program.qualifiedName id) :=
  walkable.qualifiedName id

end Program

section Names

variable {program : Program} [program.Walkable] {id : DeclId} {error : QueryError}
  {before after : Names}

theorem NamesM.isEndless_of_functionName (stops : functionName program id before = .error error after) :
    error.isEndless = false := by
  rw [functionName_eq] at stops
  split at stops
  · cases stops
  · split at stops
    · cases stops
    next asked =>
      obtain ⟨rfl, _⟩ := EStateM.Result.error.inj stops
      exact Answered.answered asked

theorem NamesM.isEndless_of_thunkName {requirement : DeclId}
    (stops : thunkName program id requirement before = .error error after) :
    error.isEndless = false := by
  obtain stops | ⟨name, between, _, stops⟩ := (run_bind_error _ _ _ _ _).mp stops
  · exact isEndless_of_functionName stops
  obtain stops | ⟨_, _, _, stops⟩ := (run_bind_error _ _ _ _ _).mp stops
  · cases asked : program.qualifiedName requirement with
    | ok path => simp [qualified, asked] at stops
    | error own =>
      rw [qualified, asked] at stops
      obtain ⟨rfl, _⟩ := (run_throw_error _ _ _ _).mp stops
      exact Answered.answered asked
  · exact ((run_pure_error _ _ _ _).mp stops).elim

instance (program : Program) [program.Walkable] (id : DeclId) :
    Conclusive (liftM (NamesM.functionName program id) : PassM String) where
  conclusive lifted := by
    obtain ⟨_, _, stops, rfl, _⟩ := (lift_names_error _ _ _ _).mp lifted
    exact NamesM.isEndless_of_functionName stops

instance (program : Program) [program.Walkable] (implementation requirement : DeclId) :
    Conclusive (liftM (NamesM.thunkName program implementation requirement) : PassM String) where
  conclusive lifted := by
    obtain ⟨_, _, stops, rfl, _⟩ := (lift_names_error _ _ _ _).mp lifted
    exact NamesM.isEndless_of_thunkName stops

end Names

namespace Job

variable (job : Job) [job.program.Walkable]

instance (id : DeclId) : Checked (job.signature id) := by
  refine Checked.then_ fun decl => ?_
  cases decl.routine? <;> infer_instance

instance (id : DeclId) : Conclusive (job.declare id) := by
  unfold declare
  infer_instance

end Job

namespace Frame

variable (frame : Frame)

instance : Checked frame.routine := by
  refine Checked.then_ fun decl => ?_
  cases decl.routine? <;> infer_instance

instance (ty : Ty) : Checked (frame.contextualize ty) := by
  unfold contextualize
  infer_instance

instance : Checked frame.returnType := by
  unfold returnType
  infer_instance

instance (expr : Expr) (target : Ty) : Checked (frame.needsCoercion expr target) := by
  unfold needsCoercion
  infer_instance

instance (params : List Ty) (args : List Expr) : Checked (requireArity params args) := by
  unfold requireArity
  infer_instance

instance (id : DeclId) : Checked (frame.method? id) :=
  inferInstanceAs (Checked (liftM (frame.program.routine? id)))

section Expressions

theorem conclusive_location (expr : Expr) : Conclusive (frame.location expr).run := by
  unfold location
  split
  · infer_instance
  cases expr with
  | ref note id =>
    refine Conclusive.attempt_then fun found => ?_
    cases found <;> infer_instance
  | member note base id =>
    have := conclusive_location base
    refine Conclusive.attempt_then fun decl => ?_
    dsimp only
    infer_instance
  | addressOf note operand => exact conclusive_location operand
  | bool | int | float | string | call | assign | error => infer_instance

instance (expr : Expr) : Conclusive (frame.location expr).run := frame.conclusive_location expr

instance (expr : Expr) : Conclusive (frame.emitLocation expr) := by
  unfold emitLocation
  infer_instance

instance (captures : List DeclId) : Conclusive (frame.captureValues captures).run := by
  induction captures with
  | nil => exact inferInstanceAs (Conclusive (ExceptT.run (pure _)))
  | cons capture rest rest_ih =>
    refine Conclusive.attempt_then fun found => ?_
    cases found <;> infer_instance

instance [frame.program.Walkable] (id : DeclId) (captures : List DeclId) (ty : Ty) :
    Conclusive (frame.ownClosure id captures ty).run := by
  unfold ownClosure
  infer_instance

instance [frame.program.Walkable] (id : DeclId) : Conclusive (frame.reference id).run := by
  refine Conclusive.attempt_then fun found => ?_
  cases found with
  | some value => infer_instance
  | none =>
    refine Conclusive.attempt_then fun decl => ?_
    cases decl.kind with
    | function routine =>
      dsimp only
      infer_instance
    | _ => infer_instance

instance [frame.program.Walkable] (id : DeclId) (span : Span) :
    Conclusive (frame.emitReference id span) := by
  unfold emitReference
  infer_instance

instance (expr : Expr) (lowered : Attempt Value) [Conclusive lowered.run] :
    Conclusive (emitWith expr lowered) := by
  unfold emitWith
  infer_instance

instance (expr : Expr) (location : Value) (ty : Ty) :
    Conclusive (frame.copyFrom? expr location ty) := by
  unfold copyFrom?
  have (found : Except Unlowerable Value) : Conclusive (match found with
      | .error _ => (return false : BodyM Bool)
      | .ok source => do
        if source.isError then return false
        let source ← if ty ≠ location.type.ty then BuildM.unsafeCastAddr source location.type.ty
          else pure source
        BuildM.copyAddr source location
        return true) := by
    cases found <;> infer_instance
  dsimp only
  infer_instance

instance (expr : Expr) (value : BodyM Value) [Conclusive value] (location : Value) :
    Conclusive (frame.assignWith expr value location) := by
  unfold assignWith
  infer_instance

instance (expr : Expr) (value : BodyM Value) [Conclusive value] (target : Ty) :
    Conclusive (frame.coerceWith expr value target) := by
  unfold coerceWith
  infer_instance

instance (param : Ty) (arg : Expr) (value : BodyM Value) [Conclusive value] :
    Conclusive (frame.argumentWith param arg value) := by
  unfold argumentWith
  cases param <;> infer_instance

instance (expr : Expr) (value : BodyM Value) [Conclusive value] :
    Conclusive (frame.spill expr value) := by
  unfold spill
  infer_instance

instance (base : Expr) (value : BodyM Value) [Conclusive value] (id : DeclId) (name : String)
    (ty : Ty) : Conclusive (frame.readMember base value id name ty).run := by
  unfold readMember
  infer_instance

instance (base : Expr) (value : BodyM Value) [Conclusive value] (id : DeclId) :
    Conclusive (frame.memberWith base value id).run := by
  refine Conclusive.attempt_then fun decl => ?_
  cases decl.kind with
  | function => infer_instance
  | _ =>
    dsimp only
    infer_instance

section Calls

variable [frame.program.Walkable] (base callee : Expr) (value : BodyM Value) [Conclusive value]
  (argCheck : List Ty → CheckM Unit) [∀ params, Checked (argCheck params)]
  (argValues : List Ty → BodyM (List Value)) [∀ params, Conclusive (argValues params)]
  (result : OperandType)

instance (id : DeclId) (params : List Ty) (receiver : List Value) :
    Conclusive (frame.callWith id params argCheck argValues result receiver).run := by
  unfold Frame.callWith
  infer_instance

instance (id : DeclId) (routine : Routine) :
    Conclusive (frame.methodWith base value id routine argCheck argValues result).run := by
  refine Conclusive.attempt_then fun decl => ?_
  dsimp only
  split
  · infer_instance
  refine Conclusive.attempt_then fun ty => ?_
  cases ty.asFunction? with
  | none => infer_instance
  | some funType =>
    dsimp only
    split
    · infer_instance
    · split <;> infer_instance

instance : Conclusive (frame.applyWith callee value argCheck argValues result).run := by
  refine Conclusive.attempt_then fun ty => ?_
  cases ty.asFunction? <;> infer_instance

end Calls

mutual

theorem conclusive_value [frame.program.Walkable] (expr : Expr) : Conclusive (frame.value expr).run := by
  cases expr with
  | bool | int | float | string | error => exact inferInstanceAs (Conclusive (pure _ : BodyM _))
  | ref note id => exact inferInstanceAs (Conclusive (frame.reference id).run)
  | member note base id =>
    have := conclusive_value base
    rw [value]
    infer_instance
  | call note callee args =>
    have (params : List Ty) := conclusive_arguments params args
    have := conclusive_value callee
    rw [value]
    refine Conclusive.attempt_then fun ty => ?_
    cases callee with
    | member calleeNote base id =>
      have := conclusive_value base
      refine Conclusive.attempt_then fun found => ?_
      cases found <;> infer_instance
    | bool | int | float | string | ref | call | assign | addressOf | error => infer_instance
  | assign note target source =>
    have := conclusive_value source
    rw [value]
    infer_instance
  | addressOf note operand =>
    rw [value]
    infer_instance

theorem conclusive_arguments [frame.program.Walkable] (params : List Ty) (args : List Expr) :
    Conclusive (frame.arguments params args) := by
  cases args with
  | nil => cases params <;> exact inferInstanceAs (Conclusive (pure _))
  | cons arg args =>
    cases params with
    | nil => exact inferInstanceAs (Conclusive (pure _))
    | cons param params =>
      have := conclusive_value arg
      have := conclusive_arguments params args
      rw [arguments]
      infer_instance

end

variable [frame.program.Walkable]

instance (expr : Expr) : Conclusive (frame.emitValue expr) := by
  have := frame.conclusive_value expr
  unfold emitValue
  infer_instance

instance (expr : Expr) (location : Value) : Conclusive (frame.emitAssign expr location) := by
  unfold emitAssign
  infer_instance

instance (expr : Expr) (target : Ty) : Conclusive (frame.emitCoerced expr target) := by
  unfold emitCoerced
  infer_instance

end Expressions

section Ends

instance (routine : Routine) :
    Conclusive (emitConstructorEnd routine) := by
  unfold emitConstructorEnd
  cases routine.self with
  | none => infer_instance
  | some self =>
    refine Conclusive.then_ fun found => ?_
    cases found <;> infer_instance

instance : Conclusive BodyM.isTerminated :=
  inferInstanceAs (Conclusive (get >>= fun _ => pure _ : BodyM _))

end Ends

section Statements

instance (id : DeclId) : Conclusive (frame.emitLocalVar id) := by
  refine Conclusive.then_ fun decl => ?_
  dsimp only
  split
  · infer_instance
  cases decl.kind with
  | «variable» hasStorage => cases hasStorage <;> infer_instance
  | _ => infer_instance

instance [frame.program.Walkable] (binding : Binding) : Conclusive (frame.emitBinding binding) := by
  refine Conclusive.then_ fun locations => ?_
  cases binding.initializer with
  | none => infer_instance
  | some initializer =>
    dsimp only
    split <;> infer_instance

instance [frame.program.Walkable] (value : Option Expr) : Conclusive (frame.emitReturn value) := by
  refine Conclusive.then_ fun routine => ?_
  cases value <;> infer_instance

instance (stmt : Stmt) : Conclusive (frame.warnUnreachable stmt) := by
  unfold warnUnreachable
  infer_instance

instance [frame.program.Walkable] (id : DeclId) : Conclusive (frame.bindClosure id) := by
  unfold bindClosure
  infer_instance

variable (nested : DeclId → PassM Unit)

instance [frame.program.Walkable] [∀ id, Conclusive (nested id)] (id : DeclId) :
    Conclusive (frame.emitLocalDecl nested id) := by
  refine Conclusive.then_ fun decl => ?_
  cases decl.kind with
  | function =>
    dsimp only
    unfold emitLocalFunction
    infer_instance
  | _ => infer_instance

mutual

theorem conclusive_emitStmt [frame.program.Walkable] [∀ id, Conclusive (nested id)] (stmt : Stmt) :
    Conclusive (frame.emitStmt nested stmt) := by
  cases stmt with
  | block stmts span =>
    rw [emitStmt]
    exact conclusive_emitStmts stmts
  | decl | returned | expr =>
    rw [emitStmt]
    infer_instance

theorem conclusive_emitStmts [frame.program.Walkable] [∀ id, Conclusive (nested id)] (stmts : List Stmt) :
    Conclusive (frame.emitStmts nested stmts) := by
  cases stmts with
  | nil => exact inferInstanceAs (Conclusive (pure _))
  | cons stmt rest =>
    have := conclusive_emitStmt stmt
    have := conclusive_emitStmts rest
    rw [emitStmts.eq_def]
    refine Conclusive.then_ fun flow => ?_
    cases flow with
    | fallthrough | unreachable => infer_instance
    | returned => cases rest <;> infer_instance

end

variable [frame.program.Walkable] [∀ id, Conclusive (nested id)]

instance (stmts : List Stmt) : Conclusive (frame.emitStmts nested stmts) :=
  frame.conclusive_emitStmts nested stmts

instance (body : Body) : Conclusive (frame.emitEnd body) := by
  unfold emitEnd
  have (ty : Ty) : Conclusive (match ty with
      | .nothing => (BuildM.halt : BodyM Unit)
      | .unit => BuildM.ret Value.unit
      | _ => PassM.report (.missingReturn body.span.endPoint)) := by
    cases ty <;> infer_instance
  infer_instance

instance (receiver : Value) (stores : List (DeclId × DeclId)) :
    Conclusive (frame.emitMemberStores receiver stores) := by
  induction stores with
  | nil => exact inferInstanceAs (Conclusive (pure _))
  | cons store rest rest_ih =>
    obtain ⟨var, param⟩ := store
    refine Conclusive.then_ fun member => Conclusive.then_ fun ty => ?_
    refine Conclusive.then_ fun address => Conclusive.then_ fun found => ?_
    cases found <;> infer_instance

instance : Conclusive frame.emitSynthesized := by
  refine Conclusive.then_ fun decl => Conclusive.then_ fun routine => ?_
  dsimp only
  split
  · infer_instance
  cases decl.parent with
  | none => infer_instance
  | some parent =>
    refine Conclusive.then_ fun outer => ?_
    cases outer.kind with
    | product =>
      cases routine.self with
      | none => infer_instance
      | some self =>
        refine Conclusive.then_ fun found => ?_
        cases found <;> infer_instance
    | _ => infer_instance

instance (routine : Routine) : Conclusive (frame.emitBody nested routine) := by
  unfold emitBody
  cases routine.body <;> infer_instance

end Statements

end Frame

namespace Job

variable (job : Job)

instance (name : String) (routine : Routine) (args : List Value) :
    Conclusive (job.bindReceiver name routine args) := by
  unfold bindReceiver
  cases routine.self with
  | none => infer_instance
  | some self => cases args <;> infer_instance

instance (name : String) (locals : Locals) (ids : List DeclId) (args : List Value) :
    Checked (job.bindArguments name locals ids args) := by
  induction ids generalizing locals args with
  | nil => exact inferInstanceAs (Checked (pure _))
  | cons bound rest rest_ih =>
    cases args with
    | nil => exact inferInstanceAs (Checked (_ >>= fun decl => abort _))
    | cons arg args => exact rest_ih _ _

variable [job.program.Walkable]

instance (id : DeclId) (routine : Routine) (name : String) (args : List Value) :
    Conclusive (job.bindEntry id routine name args) := by
  unfold bindEntry
  infer_instance

instance (name : String) (requirement implementation : Routine) (container : Value) :
    Conclusive (job.openReceiver name requirement implementation container) := by
  unfold openReceiver
  cases implementation.self <;> infer_instance

instance (result : Value) (given required : OperandType) :
    Conclusive (packResult result given required) := by
  unfold packResult
  infer_instance

instance (id : DeclId) (args : List Value) (required : OperandType) :
    Conclusive (job.relay id args required) := by
  unfold relay
  infer_instance

instance (name : String) (signature : Signature) (requirement implementation : Routine)
    (id : DeclId) (args : List Value) :
    Conclusive (job.forward name signature requirement implementation id args) := by
  unfold forward
  cases args <;> infer_instance

instance (name : String) (signature : Signature) (requirement implementation : Routine)
    (id : DeclId) : Conclusive (job.fillThunk name signature requirement implementation id) := by
  unfold fillThunk
  infer_instance

instance (implementation requirement : DeclId) :
    Conclusive (job.emitWitness implementation requirement) := by
  refine Conclusive.then_ fun required => ?_
  cases required.routine? with
  | none => infer_instance
  | some requiredRoutine =>
    refine Conclusive.then_ fun implementing => ?_
    cases implementing.routine? <;> infer_instance

instance (entries : List ConformanceEntry) : Conclusive (job.emitEntries entries) := by
  induction entries with
  | nil => exact inferInstanceAs (Conclusive (pure _))
  | cons entry rest rest_ih =>
    unfold emitEntries
    infer_instance

instance (ty : Ty) (conformance : Conformance) :
    Conclusive (job.emitConformance ty conformance) := by
  unfold emitConformance
  infer_instance

instance (name : String) (binding : Binding) : Checked (job.checkProperty name binding) := by
  unfold checkProperty
  infer_instance

variable (nested : DeclId → PassM Unit) [∀ id, Conclusive (nested id)]

instance (id : DeclId) (routine : Routine) (name : String) (signature : Signature) :
    Conclusive (job.fill nested id routine name signature) := by
  unfold fill
  infer_instance

instance (id : DeclId) : Conclusive (job.emitRoutine nested id) := by
  refine Conclusive.then_ fun decl => ?_
  cases decl.routine? with
  | none => infer_instance
  | some routine =>
    dsimp only
    split
    · infer_instance
    refine Conclusive.then_ fun _ => Conclusive.then_ fun name => ?_
    split
    · infer_instance
    refine Conclusive.then_ fun pass => ?_
    cases pass.builder.module.function? name with
    | none => infer_instance
    | some function =>
      dsimp only
      infer_instance

instance (id : DeclId) : Conclusive (job.emitMember nested id) := by
  refine Conclusive.then_ fun decl => ?_
  cases decl.kind <;> infer_instance

/-- Only a product type is asked for the type that it declares, which it knows by itself. -/
instance (id : DeclId) : Conclusive (job.emitLevel nested id) := by
  refine Conclusive.ask_then fun decl found => ?_
  cases kind : decl.kind with
  | product members conformances env =>
    have given : job.program.declaredType id =
        (do return .product (← job.program.nominal id)) := by
      unfold Program.declaredType Program.walkLimit Program.declaredTypeFrom
      rw [found]
      simp only [bind, Except.bind, kind]
    have : Answered (job.program.declaredType id) := by
      rw [given]
      infer_instance
    dsimp only
    unfold emitProduct
    infer_instance
  | _ => dsimp only; infer_instance

/-- A pass that is given enough steps stops for no want of them. -/
instance (id : DeclId) [∀ id, Conclusive (job.emitDecl id)] : Conclusive (job.emitModule id) := by
  refine Conclusive.then_ fun decl => ?_
  cases decl.kind <;> infer_instance

end Job

end Lowering
