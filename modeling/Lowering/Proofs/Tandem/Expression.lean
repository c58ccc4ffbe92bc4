import Lowering.Pass.Statement
import Lowering.Proofs.Program.Reordering
import Lowering.Proofs.Tandem.Coupling

/-
This file lowers expressions of two programs side by side. What it takes to keep them coupled is
asked of the steps that change a pass; all others follow.
-/

namespace Lowering

open IR

section Declarations

variable {A : Type} {coupling : Coupling Pass} {program other : Program}
  (alike : program.Reorders other)

include alike

/-- What follows a question about a declaration knows the declaration on each side. -/
theorem Couples.decl_bind (id : DeclId) {next again : Decl → PassM A}
    (rest : ∀ decl peer, program.find? id = some decl → other.find? id = some peer →
      decl.Reorders peer → Couples coupling (next decl) (again peer)) :
    Couples coupling (liftM (program.decl id) >>= next) (liftM (other.decl id) >>= again) := by
  obtain ⟨lost, missing⟩ | ⟨decl, peer, known, listed, found, present, same⟩ :=
    Program.decl_of_rel (alike.decls id)
  · rw [lost, missing]
    exact .ask_bind _ fun _ impossible => nomatch impossible
  · rw [found, present]
    exact rest decl peer known listed same

theorem Accompanies.decl_bind (id : DeclId) {next again : Decl → BodyM A}
    (rest : ∀ decl peer, program.find? id = some decl → other.find? id = some peer →
      decl.Reorders peer → Accompanies coupling (next decl) (again peer)) :
    Accompanies coupling (liftM (program.decl id) >>= next)
      (liftM (other.decl id) >>= again) := by
  obtain ⟨lost, missing⟩ | ⟨decl, peer, known, listed, found, present, same⟩ :=
    Program.decl_of_rel (alike.decls id)
  · rw [lost, missing]
    exact .ask_bind _ fun _ impossible => nomatch impossible
  · rw [found, present]
    exact rest decl peer known listed same

theorem Attends.decl_bind (id : DeclId) {next again : Decl → Attempt A}
    (rest : ∀ decl peer, program.find? id = some decl → other.find? id = some peer →
      decl.Reorders peer → Attends coupling (next decl) (again peer)) :
    Attends coupling (liftM (program.decl id) >>= next) (liftM (other.decl id) >>= again) := by
  obtain ⟨lost, missing⟩ | ⟨decl, peer, known, listed, found, present, same⟩ :=
    Program.decl_of_rel (alike.decls id)
  · rw [lost, missing]
    exact .ask_bind _ fun _ impossible => nomatch impossible
  · rw [found, present]
    exact rest decl peer known listed same

end Declarations

/-- Two jobs for programs that differ at most in the order of members of modules. -/
structure Tandem (left right : Job) extends Coupling Pass where
  programs : left.program.Reorders right.program
  terminated : ∀ {pass peer : Pass}, Relates pass peer →
    peer.builder.isTerminated = pass.builder.isTerminated
  define : ∀ type instruction, toCoupling.Builds (BuildM.define type instruction)
  append : ∀ instruction, toCoupling.Builds (BuildM.append instruction)
  /-- Errors are reported on both sides. -/
  report : ∀ finding : Finding, finding.diagnostic.isError = true →
    Couples toCoupling (PassM.report finding) (PassM.report finding)
  declare : ∀ id, Couples toCoupling (left.declare id) (right.declare id)
  /-- The declarations that statements may name. -/
  Sited : DeclId → Prop
  /-- A warning may be given on one side only. -/
  warn : ∀ owner stmt, (∀ id, stmt = .decl id → Sited id) →
    Accompanies toCoupling (Frame.warnUnreachable ⟨left, owner⟩ stmt)
      (Frame.warnUnreachable ⟨right, owner⟩ stmt)

namespace Tandem

variable {left right : Job} (tandem : Tandem left right)

section Building

theorem allocStack (ty : Ty) : tandem.toCoupling.Builds (BuildM.allocStack ty) := tandem.define _ _

theorem allocExistential (container : Value) (witness : Ty) :
    tandem.toCoupling.Builds (BuildM.allocExistential container witness) :=
  .bind (.requireAddress _ _) fun _ => tandem.define _ _

theorem load (location : Value) : tandem.toCoupling.Builds (BuildM.load location) :=
  .bind (.requireAddress _ _) fun _ => tandem.define _ _

theorem store (value location : Value) : tandem.toCoupling.Builds (BuildM.store value location) :=
  .bind (.requireAddress _ _) fun _ => tandem.append _

theorem copyAddr (source dest : Value) : tandem.toCoupling.Builds (BuildM.copyAddr source dest) :=
  .bind (.requireAddress _ _) fun _ => .bind (.requireAddress _ _) fun _ => tandem.append _

theorem unsafeCastAddr (source : Value) (target : Ty) :
    tandem.toCoupling.Builds (BuildM.unsafeCastAddr source target) :=
  .bind (.requireAddress _ _) fun _ => tandem.define _ _

theorem recordMemberAddr (record : Value) (member : DeclId) (name : String) (ty : Ty) :
    tandem.toCoupling.Builds (BuildM.recordMemberAddr record member name ty) :=
  .bind (.requireAddress _ _) fun _ => tandem.define _ _

theorem apply (function : Value) (args : List Value) (type : OperandType) :
    tandem.toCoupling.Builds (BuildM.apply function args type) := tandem.define _ _

theorem partialApply (function : Value) (args : List Value) (ty : Ty) :
    tandem.toCoupling.Builds (BuildM.partialApply function args ty) := tandem.define _ _

theorem openExistential (container : Value) (ty : Ty) :
    tandem.toCoupling.Builds (BuildM.openExistential container ty) := tandem.define _ _

theorem openExistentialAddr (container : Value) (ty : Ty) :
    tandem.toCoupling.Builds (BuildM.openExistentialAddr container ty) :=
  .bind (.requireAddress _ _) fun _ => tandem.define _ _

theorem ret (value : Value) : tandem.toCoupling.Builds (BuildM.ret value) := tandem.append _

theorem halt : tandem.toCoupling.Builds BuildM.halt := tandem.append _

theorem assignValue (value : Value) (ty : Ty) (location : Value) :
    tandem.toCoupling.Builds (BuildM.assignValue value ty location) := by
  unfold BuildM.assignValue
  dsimp only
  split
  · exact .pure ()
  · split
    · exact tandem.store value location
    · split
      · refine .bind (tandem.allocStack ty) fun temporary => ?_
        refine .bind (tandem.store value temporary) fun _ => ?_
        refine .bind (tandem.unsafeCastAddr temporary _) fun source => ?_
        exact tandem.copyAddr source location
      · split
        · exact .bind (tandem.allocExistential location ty) fun slot =>
            tandem.store value slot
        · exact tandem.store value location

end Building

section Questions

variable (owner : DeclId)

include tandem

theorem routine : Frame.routine ⟨right, owner⟩ = Frame.routine ⟨left, owner⟩ := by
  unfold Frame.routine
  obtain ⟨lost, missing⟩ | ⟨decl, peer, _, _, found, present, same⟩ :=
    Program.decl_of_rel (tandem.programs.decls owner)
  · rw [lost, missing]
  · rw [found, present]
    simp only [same.routine?, same.akin.name, liftM, monadLift, MonadLift.monadLift, bind,
      Except.bind]

theorem contextualize : Frame.contextualize ⟨right, owner⟩ = Frame.contextualize ⟨left, owner⟩ := by
  funext ty
  rw [Frame.contextualize, Frame.contextualize, tandem.routine]

theorem returnType : Frame.returnType ⟨right, owner⟩ = Frame.returnType ⟨left, owner⟩ := by
  unfold Frame.returnType
  rw [tandem.programs.akin.unappliedType, tandem.contextualize]

theorem needsCoercion : Frame.needsCoercion ⟨right, owner⟩ = Frame.needsCoercion ⟨left, owner⟩ := by
  funext expr target
  rw [Frame.needsCoercion, Frame.needsCoercion, tandem.contextualize]

end Questions

section Body

variable {owner : DeclId}

/-- What a body builds. -/
theorem lift {A : Type} {step : BuildM A} (coupled : tandem.toCoupling.Builds step) :
    Accompanies tandem.toCoupling (liftM step) (liftM step) :=
  Accompanies.lift coupled

theorem emitReport (failure : Unlowerable) (span : Span) :
    Accompanies tandem.toCoupling (BodyM.report failure span) (BodyM.report failure span) :=
  Accompanies.lift (tandem.report (.unlowered failure span) rfl)

theorem location (expr : Expr) :
    Attends tandem.toCoupling (Frame.location ⟨left, owner⟩ expr)
      (Frame.location ⟨right, owner⟩ expr) := by
  rw [Frame.location.eq_def, Frame.location.eq_def ⟨right, owner⟩]
  split
  · exact .pure _
  · cases expr with
    | ref note id =>
      refine .local_bind id fun found => ?_
      cases found with
      | some value =>
        dsimp only
        split
        · exact .pure _
        · exact .fail _
      | none =>
        refine .decl_bind tandem.programs id fun decl peer _ _ same => ?_
        rw [same.akin.isLocalKind, same.akin.name]
        split
        · exact .fail _
        · exact .fail _
    | member note base id =>
      refine .decl_bind tandem.programs id fun decl peer _ _ same => ?_
      dsimp only
      rw [same.akin.isStored, same.akin.name, same.akin.ty, tandem.contextualize]
      split
      · exact .fail_bind _ _ _
      · split
        · exact .fail_bind _ _ _
        · refine .bind (location base) fun record => .check_bind _ fun ty _ => ?_
          exact .lift (tandem.lift (tandem.recordMemberAddr record id decl.name ty))
    | addressOf note operand => exact location operand
    | bool | int | float | string | call | assign | error => exact .fail _

theorem emitLocation (expr : Expr) :
    Accompanies tandem.toCoupling (Frame.emitLocation ⟨left, owner⟩ expr)
      (Frame.emitLocation ⟨right, owner⟩ expr) :=
  Attends.recover (tandem.location expr) fun failure =>
    .bind (tandem.emitReport failure expr.span) fun _ => .pure _

theorem captureValues (captures : List DeclId) :
    Attends tandem.toCoupling (Frame.captureValues ⟨left, owner⟩ captures)
      (Frame.captureValues ⟨right, owner⟩ captures) := by
  induction captures with
  | nil => exact .pure _
  | cons capture rest rest_ih =>
    refine .local_bind capture fun found => ?_
    cases found with
    | some value => exact .bind rest_ih fun _ => .pure _
    | none =>
      refine .decl_bind tandem.programs capture fun decl peer _ _ same => ?_
      rw [same.akin.name]
      exact .fail _

theorem ownClosure (id : DeclId) (captures : List DeclId) (ty : Ty) :
    Attends tandem.toCoupling (Frame.ownClosure ⟨left, owner⟩ id captures ty)
      (Frame.ownClosure ⟨right, owner⟩ id captures ty) := by
  unfold Frame.ownClosure
  rw [tandem.contextualize]
  refine .bind (tandem.captureValues captures) fun args => ?_
  refine .bind (.lift (.lift (tandem.declare id))) fun function => .check_bind _ fun ty _ => ?_
  exact .lift (tandem.lift (tandem.partialApply function args ty))

theorem reference (id : DeclId) :
    Attends tandem.toCoupling (Frame.reference ⟨left, owner⟩ id)
      (Frame.reference ⟨right, owner⟩ id) := by
  refine .local_bind id fun found => ?_
  cases found with
  | some value =>
    dsimp only
    split
    · exact .lift (tandem.lift (tandem.load value))
    · exact .pure _
  | none =>
    refine .decl_bind tandem.programs id fun decl peer _ _ same => ?_
    cases same with
    | module => exact .fail _
    | same =>
      cases kind : decl.kind with
      | function routine =>
        dsimp only
        rw [tandem.programs.kindred.captures]
        split
        · exact .pure _
        · split
          · exact .fail_bind _ _ _
          · refine .ask_bind _ fun captures _ => ?_
            split
            · exact .lift (.lift (tandem.declare id))
            · split
              · exact .fail_bind _ _ _
              · exact tandem.ownClosure id captures decl.ty
      | _ =>
        dsimp only
        split
        · exact .fail _
        · exact .fail _

theorem emitReference (id : DeclId) (span : Span) :
    Accompanies tandem.toCoupling (Frame.emitReference ⟨left, owner⟩ id span)
      (Frame.emitReference ⟨right, owner⟩ id span) := by
  refine Attends.recover (tandem.reference id) fun failure => ?_
  refine .bind (tandem.emitReport failure span) fun _ => ?_
  refine .decl_bind tandem.programs id fun decl peer _ _ same => ?_
  rw [same.akin.ty]
  exact .pure _

theorem emitWith (expr : Expr) {lowered other : Attempt Value}
    (attended : Attends tandem.toCoupling lowered other) :
    Accompanies tandem.toCoupling (Frame.emitWith expr lowered) (Frame.emitWith expr other) := by
  unfold Frame.emitWith
  split
  · exact .pure _
  · exact Attends.recover attended fun failure =>
      .bind (tandem.emitReport failure expr.span) fun _ => .pure _

theorem copyFrom? (expr : Expr) (location : Value) (ty : Ty) :
    Accompanies tandem.toCoupling (Frame.copyFrom? ⟨left, owner⟩ expr location ty)
      (Frame.copyFrom? ⟨right, owner⟩ expr location ty) := by
  unfold Frame.copyFrom?
  split
  · exact .pure _
  · refine .bind (tandem.location expr) fun result => ?_
    cases result with
    | error => exact .pure _
    | ok source =>
      dsimp only
      split
      · exact .pure _
      · have copied (source : Value) : Accompanies tandem.toCoupling
            (do
              BuildM.copyAddr source location
              return true)
            (do
              BuildM.copyAddr source location
              return true) :=
          .bind (tandem.lift (tandem.copyAddr source location)) fun _ => .pure _
        split
        · exact .bind (tandem.lift (tandem.unsafeCastAddr source location.type.ty)) copied
        · exact copied source

section Value

variable {expr : Expr} {value other : BodyM Value}
  (accompanied : Accompanies tandem.toCoupling value other)

include accompanied

theorem assignWith (location : Value) :
    Accompanies tandem.toCoupling (Frame.assignWith ⟨left, owner⟩ expr value location)
      (Frame.assignWith ⟨right, owner⟩ expr other location) := by
  unfold Frame.assignWith
  rw [tandem.contextualize]
  split
  · exact .discard accompanied
  · refine .check_bind _ fun ty _ => .bind (tandem.copyFrom? expr location ty) fun copied => ?_
    split
    · exact .bind accompanied fun value => tandem.lift (tandem.assignValue value ty location)
    · exact .pure _

theorem coerceWith (target : Ty) :
    Accompanies tandem.toCoupling (Frame.coerceWith ⟨left, owner⟩ expr value target)
      (Frame.coerceWith ⟨right, owner⟩ expr other target) := by
  refine .bind (tandem.lift (tandem.allocStack target)) fun temporary => ?_
  refine .bind (tandem.assignWith accompanied temporary) fun _ => ?_
  exact tandem.lift (tandem.load temporary)

theorem argumentWith (param : Ty) :
    Accompanies tandem.toCoupling (Frame.argumentWith ⟨left, owner⟩ param expr value)
      (Frame.argumentWith ⟨right, owner⟩ param expr other) := by
  have coerced : Accompanies tandem.toCoupling
      (do
        if ← Frame.needsCoercion ⟨left, owner⟩ expr param then
          Frame.coerceWith ⟨left, owner⟩ expr value param
        else value)
      (do
        if ← Frame.needsCoercion ⟨right, owner⟩ expr param then
          Frame.coerceWith ⟨right, owner⟩ expr other param
        else other) := by
    rw [tandem.needsCoercion]
    refine .check_bind _ fun needed _ => ?_
    split
    · exact tandem.coerceWith accompanied param
    · exact accompanied
  cases param with
  | inout => exact tandem.emitLocation expr
  | _ => exact coerced

theorem spill :
    Accompanies tandem.toCoupling (Frame.spill ⟨left, owner⟩ expr value)
      (Frame.spill ⟨right, owner⟩ expr other) := by
  unfold Frame.spill
  rw [tandem.contextualize]
  refine .bind accompanied fun value => .check_bind _ fun ty _ => ?_
  refine .bind (tandem.lift (tandem.allocStack ty)) fun temporary => ?_
  exact .bind (tandem.lift (tandem.store value temporary)) fun _ => .pure _

theorem readMember (base : Expr) (id : DeclId) (name : String) (ty : Ty) :
    Attends tandem.toCoupling (Frame.readMember ⟨left, owner⟩ base value id name ty)
      (Frame.readMember ⟨right, owner⟩ base other id name ty) := by
  unfold Frame.readMember
  rw [tandem.contextualize]
  refine .bind (.lift (Attends.recover (tandem.location base) fun _ => tandem.spill accompanied))
    fun record => .check_bind _ fun ty _ => ?_
  refine .bind (.lift (tandem.lift (tandem.recordMemberAddr record id name ty))) fun address => ?_
  exact .lift (tandem.lift (tandem.load address))

theorem memberWith (base : Expr) (id : DeclId) :
    Attends tandem.toCoupling (Frame.memberWith ⟨left, owner⟩ base value id)
      (Frame.memberWith ⟨right, owner⟩ base other id) := by
  refine .decl_bind tandem.programs id fun decl peer _ _ same => ?_
  cases same with
  | module => exact .fail_bind _ _ _
  | same =>
    cases decl.kind with
    | «variable» hasStorage =>
      cases hasStorage with
      | true =>
        by_cases existential : base.ty.isExistential = true
        · simp only [existential, if_true]
          exact .fail_bind _ _ _
        · simp only [existential]
          exact tandem.readMember accompanied base id decl.name decl.ty
      | false => exact .fail_bind _ _ _
    | _ => exact .fail_bind _ _ _

variable {argCheck : List Ty → CheckM Unit} {argValues otherValues : List Ty → BodyM (List Value)}
  (all : ∀ params, Accompanies tandem.toCoupling (argValues params) (otherValues params))

omit accompanied in
include all in
theorem callWith (id : DeclId) (params : List Ty) (result : OperandType) (receiver : List Value) :
    Attends tandem.toCoupling
      (Frame.callWith ⟨left, owner⟩ id params argCheck argValues result receiver)
      (Frame.callWith ⟨right, owner⟩ id params argCheck otherValues result receiver) := by
  refine .check_bind _ fun _ _ => .bind (.lift (all params)) fun args => ?_
  refine .bind (.lift (.lift (tandem.declare id))) fun function => ?_
  exact .lift (tandem.lift (tandem.apply function (receiver ++ args) result))

include all

theorem methodWith (base : Expr) (id : DeclId) (routine : Routine) (result : OperandType) :
    Attends tandem.toCoupling
      (Frame.methodWith ⟨left, owner⟩ base value id routine argCheck argValues result)
      (Frame.methodWith ⟨right, owner⟩ base other id routine argCheck otherValues result) := by
  refine .decl_bind tandem.programs id fun decl peer _ _ same => ?_
  dsimp only
  rw [same.akin.name, same.akin.ty, tandem.contextualize]
  split
  · exact .fail_bind _ _ _
  · refine .check_bind _ fun ty _ => ?_
    cases ty.asFunction? with
    | none => exact .fail _
    | some funType =>
      dsimp only
      split
      · exact tandem.callWith all id _ result []
      · split
        · exact .bind (.lift (tandem.emitLocation base)) fun receiver =>
            tandem.callWith all id _ result [receiver]
        · exact .bind (.lift accompanied) fun receiver =>
            tandem.callWith all id _ result [receiver]

theorem applyWith (callee : Expr) (result : OperandType) :
    Attends tandem.toCoupling
      (Frame.applyWith ⟨left, owner⟩ callee value argCheck argValues result)
      (Frame.applyWith ⟨right, owner⟩ callee other argCheck otherValues result) := by
  unfold Frame.applyWith
  rw [tandem.contextualize]
  refine .check_bind _ fun ty _ => ?_
  cases ty.asFunction? with
  | none => exact .fail _
  | some funType =>
    refine .bind (.lift accompanied) fun function => ?_
    split
    · exact .pure _
    · refine .check_bind _ fun _ _ => .bind (.lift (all funType.params)) fun args => ?_
      exact .lift (tandem.lift (tandem.apply function args result))

end Value

mutual

theorem value (expr : Expr) :
    Attends tandem.toCoupling (Frame.value ⟨left, owner⟩ expr)
      (Frame.value ⟨right, owner⟩ expr) := by
  cases expr with
  | bool | int | float | string | error => exact .pure _
  | ref note id => exact tandem.reference id
  | member note base id => exact tandem.memberWith (tandem.emitWith base (value base)) base id
  | call note callee args =>
    rw [Frame.value, Frame.value, tandem.contextualize]
    refine .check_bind _ fun ty _ => ?_
    have all (params : List Ty) := arguments params args
    cases callee with
    | member calleeNote base id =>
      have base_accompanied := tandem.emitWith base (value base)
      dsimp only [Frame.method?]
      rw [tandem.programs.routine?]
      refine .check_bind _ fun found _ => ?_
      cases found with
      | some routine => exact tandem.methodWith base_accompanied all base id routine (.object ty)
      | none =>
        have member : Attends tandem.toCoupling (Frame.memberWith ⟨left, owner⟩ base _ id)
            (Frame.memberWith ⟨right, owner⟩ base _ id) :=
          tandem.memberWith base_accompanied base id
        have callee := tandem.emitWith (.member calleeNote base id) member
        exact tandem.applyWith callee all _ (.object ty)
    | bool | int | float | string | ref | call | assign | addressOf | error =>
      exact tandem.applyWith (tandem.emitWith _ (value _)) all _ (.object ty)
  | assign note target source =>
    refine .bind (.lift (tandem.emitLocation target)) fun location => ?_
    refine .bind (.lift (tandem.assignWith (tandem.emitWith source (value source)) location))
      fun _ => .pure _
  | addressOf note operand => exact tandem.location operand

theorem arguments (params : List Ty) (args : List Expr) :
    Accompanies tandem.toCoupling (Frame.arguments ⟨left, owner⟩ params args)
      (Frame.arguments ⟨right, owner⟩ params args) := by
  cases args with
  | nil => cases params <;> exact .pure _
  | cons arg args =>
    cases params with
    | nil => exact .pure _
    | cons param params =>
      rw [Frame.arguments, Frame.arguments]
      refine .bind (tandem.argumentWith (tandem.emitWith arg (value arg)) param) fun first => ?_
      exact .bind (arguments params args) fun rest => .pure _

end

theorem emitValue (expr : Expr) :
    Accompanies tandem.toCoupling (Frame.emitValue ⟨left, owner⟩ expr)
      (Frame.emitValue ⟨right, owner⟩ expr) :=
  tandem.emitWith expr (tandem.value expr)

theorem emitAssign (expr : Expr) (location : Value) :
    Accompanies tandem.toCoupling (Frame.emitAssign ⟨left, owner⟩ expr location)
      (Frame.emitAssign ⟨right, owner⟩ expr location) :=
  tandem.assignWith (tandem.emitValue expr) location

theorem emitCoerced (expr : Expr) (target : Ty) :
    Accompanies tandem.toCoupling (Frame.emitCoerced ⟨left, owner⟩ expr target)
      (Frame.emitCoerced ⟨right, owner⟩ expr target) :=
  tandem.coerceWith (tandem.emitValue expr) target

end Body

end Tandem

end Lowering
