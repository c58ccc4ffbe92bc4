import Lowering.Proofs.Closure
import Lowering.Proofs.Pass.Signature
import Lowering.Proofs.Typing.Closing
import Lowering.Proofs.Typing.Signed

/-
This file shows that closures are typed: what a function is closed over has the types of the
parameters that it takes first, if a function and the function around it see what is captured in the
same way. The environment of a function lists its own generic parameters only, so they may not.
-/

namespace Lowering

open IR

/-- A closure that an instruction makes fits its function. -/
def IR.Instruction.Fits (instruction : Instruction) : Prop :=
  ∀ closure ∈ instruction.closure?, IR.Fits closure.1 closure.2

theorem IR.Instruction.mem_operands_of_closure? {instruction : Instruction} {function : Value}
    {args : List Value} (closes : instruction.closure? = some (function, args)) :
    function ∈ instruction.operands := by
  cases instruction with
  | partialApply _ other others type =>
    obtain ⟨rfl, rfl⟩ := Prod.mk.inj (Option.some.inj closes)
    exact List.mem_cons_self ..
  | _ => cases closes

/-- What a module makes closures of, in the order of the listing. -/
def IR.Module.closures (module : Module) : List (Value × List Value) :=
  (module.functions.flatMap Function.instructions).filterMap Instruction.closure?

/-- As long as no error is reported, closures fit their functions. -/
def fitting (job : Job) : Invariant job where
  Holds pass := pass.report.containsError = true ∨
    pass.builder.module.EveryInstruction Instruction.Fits
  Closes pass function args := pass.report.containsError = true ∨ Fits function args
  define {pass type instruction value builder} holds closes done := by
    rcases holds with error | every
    · exact Or.inl error
    by_cases error : pass.report.containsError = true
    · exact Or.inl error
    · exact Or.inr (every.define (fun id closure given =>
        (closes id closure given).resolve_left error) done)
  append holds plain done := holds.imp_right fun every =>
    every.append (fun closure given => nomatch plain.symm.trans given) done
  report finding holds := holds.imp_left fun error => by simp [Report.containsError_add, error]
  names holds _ := holds
  function name signature holds _ _ := holds.imp_right fun every => every.addFunction name signature

namespace fitting

variable {job : Job}

theorem holds_createBlock {pass : Pass} {name : String} {params : List OperandType}
    {entry : LabelId × List Value} {builder : Builder}
    (done : BuildM.createBlock name params pass.builder = .ok entry builder)
    (holds : (fitting job).Holds pass) : (fitting job).Holds { pass with builder := builder } := by
  obtain ⟨function, found, _, _, rfl⟩ := BuildM.run_createBlock done
  exact holds.imp_right fun every => every.addBlock found params

variable {program : Program} {options : Options} {owner : DeclId}

/-- A function may be closed over what is bound to its own captures. -/
theorem covers (closable : program.Closable) {locals : Locals}
    (situates : program.Situates owner locals) :
    @Invariant.Covers ⟨⟨program, options⟩, owner⟩ (fitting ⟨program, options⟩) locals := by
  intro pass captures signature function args _ encloses bound signed typed
  obtain ⟨⟨decl, routine, found, listed, free⟩, captured⟩ := encloses
  have passes := (situates _ (Program.env?_eq_some found listed)).2 captures captured
  have all := (List.forall₂_and_left captures args).mpr ⟨fun _ inside => inside, bound⟩
  exact Or.inr (@Program.Closable.fits ⟨program, options⟩ closable owner decl routine found listed
    free captures captured args (all.imp fun capture value held =>
      passes capture held.1 value held.2) signature signed function typed)

/-- A function that a body declares may be closed over what is at hand there. -/
theorem footing (closable : program.Closable) :
    @Invariant.Footing ⟨⟨program, options⟩, owner⟩ (fitting ⟨program, options⟩)
      (program.Situates owner) (program.DeclaredIn owner) where
  grows situates introduces := introduces.situates closable situates
  covers situates := covers closable situates
  closes {inner captures span args function signature before middle reached} declared captured _
      situates mapped signed typed silent := by
    rcases Frame.denotes_of_emitReferences mapped with error | denote
    · exact Or.inl (silent.report ▸ error)
    obtain ⟨own, routine, present, listed⟩ := Job.routine_of_signature signed
    have present := Program.decl_eq_ok.mp present
    have given := Program.env?_eq_some present listed
    have all := (List.forall₂_and_left captures args).mpr ⟨fun _ inside => inside, denote⟩
    have passes := all.imp fun capture value held =>
      held.2.passesIn closable situates declared captured held.1 present given
    exact Or.inr (@Program.Closable.fits ⟨program, options⟩ closable inner own routine present
      listed (closable.free_of_declaredIn declared present listed) captures captured args passes
      signature signed function typed)

/-- A body starts with the types that its function sees. -/
theorem starts (closable : program.Closable) {id : DeclId} {decl : Decl} {routine : Routine}
    {name : String} {signature : Signature} {before after : Pass} {locals : Locals}
    (found : program.find? id = some decl) (listed : decl.routine? = some routine)
    (ordinary : routine.isBuiltin = false)
    (signed : Job.signature ⟨program, options⟩ id = .ok signature)
    (enters : Job.enter ⟨program, options⟩ id routine name signature before = .ok locals after) :
    program.Situates id locals := by
  intro env given
  obtain rfl := Option.some.inj (given.symm.trans (Program.env?_eq_some found listed))
  obtain ⟨sees, passes⟩ := Job.enter_seen closable.signed (closable.owned found listed) found listed
    ordinary signed enters
  exact ⟨sees, fun captures captured capture inside => passes captures captured capture inside
    (closable.not_mem_params found listed (Program.captured_of_mem captured inside))⟩

end fitting

/-- Closures fit their functions from one declaration to the next. -/
def fittings (job : Job) (closable : job.program.Closable) : Lasting job where
  toInvariant := fitting job
  cursor _ holds := holds
  body _ _ _ _ _ _ created holds := fitting.holds_createBlock created holds
  conformance found kind _ stated :=
    (fitting job).keeps_conformance (fun _ holds => holds) (fun _ _ => trivial)
      (fun _ _ => .build (fun holds created => ⟨fitting.holds_createBlock created holds, trivial⟩)
        fun _ _ => trivial)
      (fun _ _ holds => holds) found kind stated _
  Bound := job.program.Situates
  starts := fitting.starts closable
  footing _ := fitting.footing closable

/--
Where every function sees what it captures as the function around it does, a lowering without errors
closes functions over values of the types of their parameters, one by one.
-/
theorem lower_fits {program : Program} {id : DeclId} {options : Options} {lowered : Lowered}
    (assembled : program.Assembled) (borrows : program.BorrowsOutermost)
    (binds : program.BindsNoReceiver) (substitutes : program.SubstitutesOwned)
    (owning : program.OwnsLocals) (housed : program.HousesMembers) (beside : program.NamesBeside)
    (checked : program.CapturesChecked) (harmonious : program.Harmonious)
    (done : lower program id options = .ok lowered)
    (accepted : lowered.report.containsError = false) :
    ∀ callee args, (callee, args) ∈ lowered.module.closures → ∀ name,
      callee.kind = .function name → ∃ closed, lowered.module.function? name = some closed ∧
        args.map Value.type <+: closed.signature.params := by
  have closable : program.Closable := ⟨assembled.signed, assembled.gathers, borrows, binds,
    substitutes, owning, housed, beside, checked, harmonious⟩
  obtain ⟨pass, ran, same, report⟩ := run_lower done
  have start : (fitting ⟨program, options⟩).Holds (Pass.start options) :=
    Or.inr fun _ impossible => nomatch impossible
  have held := (((fittings ⟨program, options⟩ closable).keeps_emitModule id).ok _ () pass start
    ran).1
  have every := held.resolve_left (by rw [report, accepted]; exact Bool.false_ne_true)
  obtain ⟨resolved, resolves, module, _⟩ := (resolving ⟨program, options⟩).lower
    (fun _ impossible => nomatch impossible) done
  intro callee args listed name kind
  obtain ⟨instruction, inside, closes⟩ := List.mem_filterMap.mp listed
  obtain ⟨function, stands, inside⟩ := List.mem_flatMap.mp inside
  obtain ⟨closed, found, typed⟩ := resolves function (module ▸ stands) instruction inside callee
    (Instruction.mem_operands_of_closure? closes) name kind
  have fits := every function (same ▸ stands) instruction inside (callee, args) closes
  exact ⟨closed, module ▸ found, fits.prefix typed⟩

open Assembly in
/--
The function inside refers to a variable of a generic type, which is known outside, to a borrowed
parameter and to itself.
-/
def specializing (env : GenericEnv) : Assembly Unit := do
  let main ← addModule "main"
  let outer ← addFunction main "outer" [⟨none, "n", .inout .int⟩] .unit
  let param ← addGenericParam outer "T"
  setEnv outer ⟨[param], [(param, .int)]⟩
  let ty ← ask (·.declaredType param)
  let (binding, x) ← addLocalVar outer "x" ty none
  let inner ← addFunction outer "inner" [] .unit
  setEnv inner env
  let names : List DeclId := [x, ⟨outer.index + 1⟩, inner]
  let mentioned ← names.mapM fun name => ask (·.refExpr name Span.unknown)
  setBody inner ⟨mentioned.map .expr, Span.unknown⟩
  setBody outer ⟨[.decl binding, .decl inner], Span.unknown⟩

open Assembly in
theorem specializing_assembled (env : GenericEnv) : (specializing env).built.Assembled := by
  refine Preserves.built ?_
  refine .bind (Offered.addModule _).assembles fun main => ?_
  refine .bind (Offered.addFunction _ _ _ _).assembles fun outer => ?_
  refine .bind (Offered.addGenericParam _ _).assembles fun param => ?_
  refine .bind (Offered.setEnv _ _).assembles fun _ => ?_
  refine .bind (.ask _) fun ty => ?_
  refine .bind (Offered.addLocalVar _ _ _ _).assembles fun binding => ?_
  refine .bind (Offered.addFunction _ _ _ _).assembles fun inner => ?_
  refine .bind (Offered.setEnv _ _).assembles fun _ => ?_
  refine .bind (.mapM _ fun name => .ask _) fun mentioned => ?_
  refine .bind (Offered.setBody _ _).assembles fun _ => ?_
  exact (Offered.setBody _ _).assembles

/-- The program in which the function inside knows the generic type as well. -/
def agreeing : Program := (specializing ⟨[], [(⟨3⟩, .int)]⟩).built

/-- The program in which it does not, for the generic parameter is not its own. -/
def disagreeing : Program := (specializing GenericEnv.empty).built

theorem lower_fits_agreeing :
    agreeing.Assembled ∧ agreeing.BorrowsOutermost ∧ agreeing.BindsNoReceiver ∧
      agreeing.SubstitutesOwned ∧ agreeing.OwnsLocals ∧ agreeing.HousesMembers ∧
      agreeing.NamesBeside ∧ agreeing.CapturesChecked ∧ agreeing.Harmonious ∧
      ∃ lowered, lower agreeing ⟨0⟩ Options.standard = .ok lowered ∧
        lowered.report.containsError = false ∧
        lowered.module.closures.map (fun closure => (closure.1.kind, closure.2.map Value.type)) =
          [(.function "outer.inner", [.object .int, .object .int]),
            (.function "outer.inner", [.object .int, .object .int])] ∧
        ∀ callee args, (callee, args) ∈ lowered.module.closures → ∀ name,
          callee.kind = .function name → ∃ closed, lowered.module.function? name = some closed ∧
            args.map Value.type <+: closed.signature.params := by
  have assembled : agreeing.Assembled := specializing_assembled _
  have borrows : agreeing.BorrowsOutermost := by decide +kernel
  have binds : agreeing.BindsNoReceiver := by decide +kernel
  have substitutes : agreeing.SubstitutesOwned := by decide +kernel
  have owning : agreeing.OwnsLocals := by decide +kernel
  have housed : agreeing.HousesMembers := by decide +kernel
  have beside : agreeing.NamesBeside := by decide +kernel
  have checked : agreeing.CapturesChecked := by decide +kernel
  have harmonious : agreeing.Harmonious := by decide +kernel
  have lowers : (lower agreeing ⟨0⟩ Options.standard).toOption.map (fun lowered =>
      (lowered.report.containsError, lowered.module.closures.map fun closure =>
        (closure.1.kind, closure.2.map Value.type))) =
      some (false, [(.function "outer.inner", [.object .int, .object .int]),
        (.function "outer.inner", [.object .int, .object .int])]) := by
    decide +kernel
  obtain ⟨lowered, done, seen⟩ := ok_of_map lowers
  obtain ⟨accepted, closures⟩ := Prod.mk.inj seen
  exact ⟨assembled, borrows, binds, substitutes, owning, housed, beside, checked, harmonious,
    lowered, done, accepted, closures, lower_fits assembled borrows binds substitutes owning housed
      beside checked harmonious done accepted⟩

/-- The variable holds an integer, and the closed function takes a value of the generic type. -/
theorem disagreeing_closes :
    disagreeing.Assembled ∧ disagreeing.BorrowsOutermost ∧ disagreeing.BindsNoReceiver ∧
      disagreeing.SubstitutesOwned ∧ disagreeing.OwnsLocals ∧ disagreeing.HousesMembers ∧
      disagreeing.NamesBeside ∧ disagreeing.CapturesChecked ∧
      ∃ lowered, lower disagreeing ⟨0⟩ Options.standard = .ok lowered ∧
        lowered.report.containsError = false ∧
        ∃ callee args closed, (callee, args) ∈ lowered.module.closures ∧
          callee.kind = .function "outer.inner" ∧
          lowered.module.function? "outer.inner" = some closed ∧
          args.map Value.type = [.object .int, .object .int] ∧
          closed.signature.params = [.object (.genericParam ⟨⟨3⟩, "T"⟩), .object .int] ∧
          ¬args.map Value.type <+: closed.signature.params := by
  refine ⟨specializing_assembled _, by decide +kernel, by decide +kernel, by decide +kernel,
    by decide +kernel, by decide +kernel, by decide +kernel, by decide +kernel, ?_⟩
  have lowers : (lower disagreeing ⟨0⟩ Options.standard).toOption.map (fun lowered =>
      (lowered.report.containsError, (lowered.module.closures.head?.map fun closure =>
        (closure.1.kind, closure.2.map Value.type)),
        (lowered.module.function? "outer.inner").map (·.signature.params))) =
      some (false, some (.function "outer.inner", [.object .int, .object .int]),
        some [.object (.genericParam ⟨⟨3⟩, "T"⟩), .object .int]) := by
    decide +kernel
  obtain ⟨lowered, done, seen⟩ := ok_of_map lowers
  simp only [Prod.mk.injEq] at seen
  obtain ⟨accepted, first, given⟩ := seen
  obtain ⟨⟨callee, args⟩, leads, seen⟩ := Option.map_eq_some_iff.mp first
  obtain ⟨kind, types⟩ := Prod.mk.inj seen
  obtain ⟨closed, found, params⟩ := Option.map_eq_some_iff.mp given
  refine ⟨lowered, done, accepted, callee, args, closed, List.mem_of_mem_head? leads, kind, found,
    types, params, ?_⟩
  rw [types, params]
  decide

end Lowering
