import Lowering.Pass.Declaration
import Lowering.Proofs.Program.Kinship
import Lowering.Proofs.Run

/-
This file shows that a pass reads the body of a function only to lower it, and the members of a module
only to go through them. Two programs that differ in these, but not in what functions capture, are
lowered by the same steps.
-/

namespace Lowering

open IR

namespace Frame

theorem stmtSpan_of_akin {program other : Program} (akin : program.Akin other) (stmt : Stmt) :
    stmtSpan other stmt = stmtSpan program stmt := by
  cases stmt with
  | decl id => exact akin.ask id fun decl peer kept => by rw [kept.span]
  | _ => rfl

variable {left right : Frame} (kindred : left.program.Kindred right.program)
  (same : right.owner = left.owner)

include kindred same

/-- The function is the same on both sides, up to its body. -/
theorem routine_of_kindred :
    (∃ abort, left.routine = .error abort ∧ right.routine = .error abort) ∨
      ∃ routine peer, left.routine = .ok routine ∧ right.routine = .ok peer ∧
        routine.Rebodies peer := by
  unfold routine
  rw [same]
  obtain ⟨lost, missing⟩ | ⟨decl, peer, _, _, found, present, kept⟩ :=
    Program.decl_of_rel (kindred.decls left.owner)
  · rw [lost, missing]
    exact Or.inl ⟨_, rfl, rfl⟩
  · rw [found, present]
    have routines := kept.routine?
    simp only [liftM, monadLift, MonadLift.monadLift, bind, Except.bind]
    generalize decl.routine? = own at routines ⊢
    generalize peer.routine? = another at routines ⊢
    cases routines with
    | none =>
      rw [kept.name]
      exact Or.inl ⟨_, rfl, rfl⟩
    | some kept => exact Or.inr ⟨_, _, rfl, rfl, kept⟩

theorem routine_check {A : Type} {next again : Routine → CheckM A}
    (rest : ∀ routine peer, routine.Rebodies peer → again peer = next routine) :
    (right.routine >>= again) = (left.routine >>= next) := by
  obtain ⟨abort, stops, halts⟩ | ⟨routine, peer, given, known, kept⟩ :=
    routine_of_kindred kindred same
  · rw [stops, halts]
    rfl
  · rw [given, known]
    exact rest routine peer kept

theorem routine_body {A : Type} {next again : Routine → BodyM A}
    (rest : ∀ routine peer, routine.Rebodies peer → again peer = next routine) :
    (liftM right.routine >>= again : BodyM A) = liftM left.routine >>= next := by
  obtain ⟨abort, stops, halts⟩ | ⟨routine, peer, given, known, kept⟩ :=
    routine_of_kindred kindred same
  · rw [stops, halts]
    rfl
  · rw [given, known]
    exact rest routine peer kept

theorem contextualize_of_kindred (ty : Ty) : right.contextualize ty = left.contextualize ty :=
  routine_check kindred same fun routine peer kept => by cases kept; rfl

theorem returnType_of_kindred : right.returnType = left.returnType := by
  unfold returnType
  rw [same, kindred.unappliedType]
  simp only [contextualize_of_kindred kindred same]

theorem needsCoercion_of_kindred (expr : Expr) (target : Ty) :
    right.needsCoercion expr target = left.needsCoercion expr target := by
  unfold needsCoercion
  rw [contextualize_of_kindred kindred same]

theorem location_of_kindred (expr : Expr) : right.location expr = left.location expr := by
  unfold location
  split
  · rfl
  cases expr with
  | ref note id =>
    refine congrArg (Bind.bind _) (funext fun found => ?_)
    cases found with
    | some value => rfl
    | none => exact kindred.attempt id fun decl peer kept => by rw [kept.isLocalKind, kept.name]
  | member note base id =>
    refine kindred.attempt id fun decl peer kept => ?_
    rw [kept.isStored, kept.name, kept.ty, location_of_kindred base,
      contextualize_of_kindred kindred same]
  | addressOf note operand => exact location_of_kindred operand
  | _ => rfl

theorem emitLocation_of_kindred (expr : Expr) :
    right.emitLocation expr = left.emitLocation expr := by
  unfold emitLocation
  rw [location_of_kindred kindred same]

omit same in
theorem captureValues_of_kindred (captures : List DeclId) :
    right.captureValues captures = left.captureValues captures := by
  induction captures with
  | nil => rfl
  | cons capture rest rest_ih =>
    unfold captureValues
    rw [rest_ih]
    refine congrArg (Bind.bind _) (funext fun found => ?_)
    cases found with
    | some value => rfl
    | none => exact kindred.attempt capture fun decl peer kept => by rw [kept.name]

theorem ownClosure_of_kindred (id : DeclId) (captures : List DeclId) (ty : Ty) :
    right.ownClosure id captures ty = left.ownClosure id captures ty := by
  unfold ownClosure
  rw [captureValues_of_kindred kindred, Job.declare_of_kindred kindred,
    contextualize_of_kindred kindred same]

theorem reference_of_kindred (id : DeclId) : right.reference id = left.reference id := by
  refine congrArg (Bind.bind _) (funext fun found => ?_)
  cases found with
  | some value => rfl
  | none =>
    refine kindred.attempt id fun decl peer kept => ?_
    rw [kindred.captures, Job.declare_of_kindred kindred]
    cases kept with
    | same => simp only [ownClosure_of_kindred kindred same, same]
    | module => rfl
    | function kept =>
      obtain ⟨body, _⟩ := kept
      simp only [ownClosure_of_kindred kindred same, same]
      rfl

theorem emitReference_of_kindred (id : DeclId) (span : Span) :
    right.emitReference id span = left.emitReference id span := by
  unfold emitReference
  rw [reference_of_kindred kindred same]
  refine congrArg (Attempt.recover _) (funext fun failure => ?_)
  refine congrArg (Bind.bind _) (funext fun _ => ?_)
  exact kindred.body id fun decl peer kept => by rw [kept.ty]

theorem copyFrom?_of_kindred (expr : Expr) (location : Value) (ty : Ty) :
    right.copyFrom? expr location ty = left.copyFrom? expr location ty := by
  unfold copyFrom?
  rw [location_of_kindred kindred same]

theorem assignWith_of_kindred (expr : Expr) (value : BodyM Value) (location : Value) :
    right.assignWith expr value location = left.assignWith expr value location := by
  unfold assignWith
  simp only [contextualize_of_kindred kindred same, copyFrom?_of_kindred kindred same]

theorem coerceWith_of_kindred (expr : Expr) (value : BodyM Value) (target : Ty) :
    right.coerceWith expr value target = left.coerceWith expr value target := by
  unfold coerceWith
  simp only [assignWith_of_kindred kindred same]

theorem argumentWith_of_kindred (param : Ty) (arg : Expr) (value : BodyM Value) :
    right.argumentWith param arg value = left.argumentWith param arg value := by
  unfold argumentWith
  simp only [emitLocation_of_kindred kindred same, needsCoercion_of_kindred kindred same,
    coerceWith_of_kindred kindred same]

theorem spill_of_kindred (expr : Expr) (value : BodyM Value) :
    right.spill expr value = left.spill expr value := by
  unfold spill
  simp only [contextualize_of_kindred kindred same]

theorem readMember_of_kindred (base : Expr) (value : BodyM Value) (id : DeclId) (name : String)
    (ty : Ty) : right.readMember base value id name ty = left.readMember base value id name ty := by
  unfold readMember
  rw [location_of_kindred kindred same]
  simp only [contextualize_of_kindred kindred same, spill_of_kindred kindred same]

theorem memberWith_of_kindred (base : Expr) (value : BodyM Value) (id : DeclId) :
    right.memberWith base value id = left.memberWith base value id := by
  refine kindred.attempt id fun decl peer kept => ?_
  cases kept with
  | same => simp only [readMember_of_kindred kindred same]
  | function | module => rfl

omit same in
theorem callWith_of_kindred (id : DeclId) (params : List Ty) (argCheck : List Ty → CheckM Unit)
    (argValues : List Ty → BodyM (List Value)) (result : OperandType) (receiver : List Value) :
    right.callWith id params argCheck argValues result receiver =
      left.callWith id params argCheck argValues result receiver := by
  unfold callWith
  simp only [Job.declare_of_kindred kindred]

theorem methodWith_of_kindred (base : Expr) (value : BodyM Value) (id : DeclId)
    {routine peer : Routine} (kept : routine.Rebodies peer) (argCheck : List Ty → CheckM Unit)
    (argValues : List Ty → BodyM (List Value)) (result : OperandType) :
    right.methodWith base value id peer argCheck argValues result =
      left.methodWith base value id routine argCheck argValues result := by
  obtain ⟨body, _⟩ := kept
  refine kindred.attempt id fun decl peer kept => ?_
  rw [kept.name, kept.ty]
  simp only [contextualize_of_kindred kindred same, emitLocation_of_kindred kindred same,
    callWith_of_kindred kindred]

theorem applyWith_of_kindred (callee : Expr) (value : BodyM Value)
    (argCheck : List Ty → CheckM Unit) (argValues : List Ty → BodyM (List Value))
    (result : OperandType) :
    right.applyWith callee value argCheck argValues result =
      left.applyWith callee value argCheck argValues result := by
  unfold applyWith
  simp only [contextualize_of_kindred kindred same]

omit same in
theorem method?_of_kindred {A : Type} (id : DeclId) {next again : Option Routine → Attempt A}
    (none : again none = next none)
    (some : ∀ routine peer, routine.Rebodies peer → again (some peer) = next (some routine)) :
    (liftM (right.method? id) >>= again) = (liftM (left.method? id) >>= next) := by
  unfold method? Program.routine?
  obtain ⟨lost, missing⟩ | ⟨decl, peer, _, _, found, present, kept⟩ :=
    Program.decl_of_rel (kindred.decls id)
  · rw [lost, missing]
    rfl
  · rw [found, present]
    have routines := kept.routine?
    show again peer.routine? = next decl.routine?
    generalize decl.routine? = own at routines ⊢
    generalize peer.routine? = another at routines ⊢
    cases routines with
    | none => exact none
    | some kept => exact some _ _ kept

mutual

theorem value_of_kindred (expr : Expr) : right.value expr = left.value expr := by
  cases expr with
  | bool | int | float | string | error => simp only [value]
  | ref note id =>
    simp only [value]
    exact reference_of_kindred kindred same id
  | member note base id =>
    simp only [value]
    rw [value_of_kindred base, memberWith_of_kindred kindred same]
  | addressOf note operand =>
    simp only [value]
    exact location_of_kindred kindred same operand
  | assign note target source =>
    simp only [value]
    rw [value_of_kindred source, emitLocation_of_kindred kindred same]
    simp only [assignWith_of_kindred kindred same]
  | call note callee args =>
    have passed (params : List Ty) : right.arguments params args = left.arguments params args :=
      arguments_of_kindred params args
    simp only [value, contextualize_of_kindred kindred same, passed]
    refine congrArg (Bind.bind _) (funext fun result => ?_)
    cases callee with
    | member calleeNote base id =>
      dsimp only
      rw [value_of_kindred base, memberWith_of_kindred kindred same,
        applyWith_of_kindred kindred same]
      exact method?_of_kindred kindred id rfl fun routine peer kept =>
        methodWith_of_kindred kindred same _ _ _ kept _ _ _
    | _ =>
      dsimp only
      rw [value_of_kindred, applyWith_of_kindred kindred same]

theorem arguments_of_kindred (params : List Ty) (args : List Expr) :
    right.arguments params args = left.arguments params args := by
  cases params with
  | nil => simp only [arguments]
  | cons param params =>
    cases args with
    | nil => simp only [arguments]
    | cons arg args =>
      simp only [arguments]
      rw [value_of_kindred arg, argumentWith_of_kindred kindred same,
        arguments_of_kindred params args]

end

theorem emitValue_of_kindred (expr : Expr) : right.emitValue expr = left.emitValue expr := by
  rw [emitValue, emitValue, value_of_kindred kindred same]

theorem emitAssign_of_kindred (expr : Expr) (location : Value) :
    right.emitAssign expr location = left.emitAssign expr location := by
  rw [emitAssign, emitAssign, emitValue_of_kindred kindred same, assignWith_of_kindred kindred same]

theorem emitCoerced_of_kindred (expr : Expr) (target : Ty) :
    right.emitCoerced expr target = left.emitCoerced expr target := by
  rw [emitCoerced, emitCoerced, emitValue_of_kindred kindred same, coerceWith_of_kindred kindred same]

theorem emitLocalVar_of_kindred (id : DeclId) : right.emitLocalVar id = left.emitLocalVar id := by
  refine kindred.body id fun decl peer kept => ?_
  rw [kept.name, kept.ty, kept.kindText]
  simp only [contextualize_of_kindred kindred same]
  cases kept <;> rfl

theorem emitBinding_of_kindred (binding : Binding) :
    right.emitBinding binding = left.emitBinding binding := by
  unfold emitBinding
  rw [funext (emitLocalVar_of_kindred kindred same)]
  simp only [emitAssign_of_kindred kindred same, emitValue_of_kindred kindred same]

theorem emitReturn_of_kindred (value : Option Expr) :
    right.emitReturn value = left.emitReturn value := by
  refine routine_body kindred same fun routine peer kept => ?_
  cases kept
  simp only [emitValue_of_kindred kindred same, returnType_of_kindred kindred same,
    needsCoercion_of_kindred kindred same, emitCoerced_of_kindred kindred same]
  rfl

theorem bindClosure_of_kindred (id : DeclId) : right.bindClosure id = left.bindClosure id := by
  unfold bindClosure
  rw [kindred.captures]
  refine congrArg (Bind.bind _) (funext fun captures => ?_)
  split
  · refine kindred.body id fun decl peer kept => ?_
    rw [kept.span, kept.ty]
    simp only [emitReference_of_kindred kindred same, Job.declare_of_kindred kindred,
      contextualize_of_kindred kindred same]
  · rfl

section Nested

variable (nested : DeclId → PassM Unit)

theorem emitLocalDecl_of_kindred (id : DeclId) :
    right.emitLocalDecl nested id = left.emitLocalDecl nested id := by
  refine kindred.body id fun decl peer kept => ?_
  cases kept with
  | same => simp only [emitBinding_of_kindred kindred same, emitLocalFunction,
      bindClosure_of_kindred kindred same]
  | module => rfl
  | function kept =>
    cases kept
    simp only [emitLocalFunction, bindClosure_of_kindred kindred same]
    rfl

omit same in
theorem warnUnreachable_of_kindred (asked : right.options = left.options) (stmt : Stmt) :
    right.warnUnreachable stmt = left.warnUnreachable stmt := by
  rw [warnUnreachable, warnUnreachable, asked, stmtSpan_of_akin kindred.toAkin]

omit same

mutual

theorem emitStmt_of_kindred (same : right.owner = left.owner)
    (asked : right.options = left.options) (stmt : Stmt) :
    right.emitStmt nested stmt = left.emitStmt nested stmt := by
  cases stmt with
  | decl id => simp only [emitStmt, emitLocalDecl_of_kindred kindred same]
  | block stmts span =>
    simp only [emitStmt]
    exact emitStmts_of_kindred same asked stmts
  | returned value span => simp only [emitStmt, emitReturn_of_kindred kindred same]
  | expr expr => simp only [emitStmt, emitValue_of_kindred kindred same]

theorem emitStmts_of_kindred (same : right.owner = left.owner)
    (asked : right.options = left.options) (stmts : List Stmt) :
    right.emitStmts nested stmts = left.emitStmts nested stmts := by
  cases stmts with
  | nil => simp only [emitStmts]
  | cons stmt rest =>
    simp only [emitStmts, emitStmt_of_kindred same asked stmt,
      emitStmts_of_kindred same asked rest, warnUnreachable_of_kindred kindred asked]

end

end Nested

theorem emitEnd_of_kindred {body another : Body} (span : another.span = body.span) :
    right.emitEnd another = left.emitEnd body := by
  refine routine_body kindred same fun routine peer kept => ?_
  cases kept
  rw [returnType_of_kindred kindred same, span]
  rfl

theorem emitMemberStores_of_kindred (receiver : Value) (stores : List (DeclId × DeclId)) :
    right.emitMemberStores receiver stores = left.emitMemberStores receiver stores := by
  induction stores with
  | nil => rfl
  | cons store rest rest_ih =>
    obtain ⟨var, param⟩ := store
    refine kindred.body var fun decl peer kept => ?_
    rw [kept.ty, kept.name, rest_ih]
    simp only [contextualize_of_kindred kindred same]
    refine congrArg (Bind.bind _) (funext fun ty => ?_)
    refine congrArg (Bind.bind _) (funext fun address => ?_)
    refine congrArg (Bind.bind _) (funext fun found => ?_)
    cases found with
    | some value => rfl
    | none => exact kindred.body param fun decl peer kept => by rw [kept.name]

theorem emitSynthesized_of_kindred : right.emitSynthesized = left.emitSynthesized := by
  unfold emitSynthesized
  rw [same]
  refine kindred.body left.owner fun decl peer kept => ?_
  rw [kept.name, kept.kindText, kept.parent]
  refine routine_body kindred same fun routine peer kept => ?_
  cases kept
  cases decl.parent with
  | none => rfl
  | some parent =>
    refine ite_congr rfl (fun _ => rfl) fun _ => ?_
    dsimp only
    obtain ⟨lost, missing⟩ | ⟨product, peer, known, listed, found, present, kept⟩ :=
      Program.decl_of_rel (kindred.decls parent)
    · rw [lost, missing]
      rfl
    · rw [found, present]
      cases kept with
      | function | module => rfl
      | same =>
        rw [kindred.storedVars known listed]
        simp only [emitMemberStores_of_kindred kindred same]

end Frame

namespace Job

variable {left right : Job} (kindred : left.program.Kindred right.program)

include kindred

theorem bindReceiver_of_kindred (name : String) {routine peer : Routine}
    (kept : routine.Rebodies peer) (args : List Value) :
    right.bindReceiver name peer args = left.bindReceiver name routine args := by
  cases kept
  unfold bindReceiver
  cases routine.self with
  | none => rfl
  | some self =>
    dsimp only
    refine ite_congr rfl (fun _ => rfl) fun _ => ite_congr rfl (fun _ => ?_) fun _ => rfl
    exact kindred.pass self fun decl peer kept => by rw [kept.ty]

theorem bindArguments_of_kindred (name : String) (locals : Locals) (ids : List DeclId)
    (args : List Value) :
    right.bindArguments name locals ids args = left.bindArguments name locals ids args := by
  induction ids generalizing locals args with
  | nil => rfl
  | cons id ids ids_ih =>
    cases args with
    | nil => exact kindred.check id fun decl peer kept => by rw [kept.name]
    | cons arg args => exact ids_ih _ _

theorem bindEntry_of_kindred (id : DeclId) {routine peer : Routine} (kept : routine.Rebodies peer)
    (name : String) (args : List Value) :
    right.bindEntry id peer name args = left.bindEntry id routine name args := by
  have params : peer.params = routine.params := by
    cases kept
    rfl
  unfold bindEntry
  simp only [bindReceiver_of_kindred kindred name kept, kindred.captures, params,
    bindArguments_of_kindred kindred]

theorem openReceiver_of_kindred (name : String) {required other routine peer : Routine}
    (asks : required.Rebodies other) (gives : routine.Rebodies peer) (container : Value) :
    right.openReceiver name other peer container =
      left.openReceiver name required routine container := by
  cases asks
  cases gives
  unfold openReceiver
  cases routine.self with
  | none => rfl
  | some self => exact kindred.pass self fun decl peer kept => by rw [kept.ty]

theorem relay_of_kindred (id : DeclId) (args : List Value) (required : OperandType) :
    right.relay id args required = left.relay id args required := by
  unfold relay
  simp only [declare_of_kindred kindred, signature_of_kindred kindred]

theorem fillThunk_of_kindred (name : String) (signature : Signature)
    {required other routine peer : Routine} (asks : required.Rebodies other)
    (gives : routine.Rebodies peer) (id : DeclId) :
    right.fillThunk name signature other peer id =
      left.fillThunk name signature required routine id := by
  unfold fillThunk forward
  simp only [openReceiver_of_kindred kindred name asks gives, relay_of_kindred kindred]
  cases asks
  rfl

theorem emitWitness_of_kindred (implementation requirement : DeclId) :
    right.emitWitness implementation requirement = left.emitWitness implementation requirement := by
  refine kindred.pass requirement fun required other kept => ?_
  have asks := kept.routine?
  rw [kept.name]
  generalize required.routine? = asked at asks ⊢
  generalize other.routine? = again at asks ⊢
  cases asks with
  | none => rfl
  | some asks =>
    refine kindred.pass implementation fun decl peer kept => ?_
    have gives := kept.routine?
    rw [kept.name, kept.kindText]
    generalize decl.routine? = given at gives ⊢
    generalize peer.routine? = gave at gives ⊢
    cases gives with
    | none => rfl
    | some gives =>
      dsimp only
      rw [kindred.thunkName, kindred.unappliedType]
      simp only [fillThunk_of_kindred kindred _ _ asks gives]

theorem checkProperty_of_kindred (name : String) (binding : Binding) :
    right.checkProperty name binding = left.checkProperty name binding := by
  unfold checkProperty
  refine ite_congr rfl (fun _ => rfl) fun _ => congr (congrArg Bind.bind ?_) rfl
  refine congrArg binding.pattern.names.forM (funext fun var => ?_)
  exact kindred.check var fun decl peer kept => by rw [kept.isStored, kept.name]

theorem emitEntries_of_kindred (entries : List ConformanceEntry) :
    right.emitEntries entries = left.emitEntries entries := by
  induction entries with
  | nil => rfl
  | cons entry rest rest_ih =>
    refine kindred.pass entry.requirement fun decl peer kept => ?_
    have same : peer.routine?.isNone = decl.routine?.isNone := by
      cases kept <;> rfl
    rw [same, kept.name, rest_ih, emitWitness_of_kindred kindred]

theorem emitConformance_of_kindred (ty : Ty) (conformance : Conformance) :
    right.emitConformance ty conformance = left.emitConformance ty conformance := by
  rw [emitConformance, emitConformance, kindred.nominal, emitEntries_of_kindred kindred]

theorem emitMember_of_kindred (nested : DeclId → PassM Unit) (id : DeclId) :
    right.emitMember nested id = left.emitMember nested id := by
  refine kindred.pass id fun decl peer kept => ?_
  cases kept with
  | same => simp only [checkProperty_of_kindred kindred]
  | function | module => rfl

end Job

end Lowering
