import Lowering.Proofs.Pass.Kinship
import Lowering.Proofs.Pass.Statement
import Lowering.Proofs.Program.Trimming

/-
This file shows that what is never executed is never lowered either. Where no warnings are given, a
body is lowered by the same steps with it and without it.
-/

namespace Lowering

open IR

/-- How control leaves a statement from which nothing needs to be skipped. -/
def Flow.settled : Flow → Flow
  | .fallthrough => .fallthrough
  | .returned | .unreachable => .returned

/-- Steps that answer alike after every first step are alike after it. -/
theorem bind_congr_of_run {S E A B : Type} {step : EStateM E S A} {next again : A → EStateM E S B}
    (rest : ∀ before value after, step before = .ok value after →
      again value after = next value after) : step >>= again = step >>= next := by
  funext before
  simp only [bind, EStateM.bind]
  cases ran : step before with
  | ok value after => exact rest before value after ran
  | error error after => rfl

namespace Frame

variable {frame : Frame} {nested : DeclId → PassM Unit}

theorem warnUnreachable_of_mute (mute : frame.options.warnsUnreachable = false) (stmt : Stmt) :
    frame.warnUnreachable stmt = pure () := by
  rw [warnUnreachable, mute]
  rfl

mutual

theorem emitStmt_trimmed (mute : frame.options.warnsUnreachable = false) (stmt : Stmt) :
    frame.emitStmt nested stmt.trimmed = Flow.settled <$> frame.emitStmt nested stmt := by
  cases stmt with
  | decl id => simp [Stmt.trimmed, emitStmt, Flow.settled]
  | block stmts span =>
    simp only [Stmt.trimmed, emitStmt]
    exact emitStmts_trimmed mute stmts
  | returned value span => simp [Stmt.trimmed, emitStmt, Flow.settled]
  | expr value => simp [Stmt.trimmed, emitStmt, Flow.settled]

theorem emitStmts_trimmed (mute : frame.options.warnsUnreachable = false) (stmts : List Stmt) :
    frame.emitStmts nested (Stmt.trimmedAll stmts) =
      Flow.settled <$> frame.emitStmts nested stmts := by
  cases stmts with
  | nil => simp [Stmt.trimmedAll, emitStmts, Flow.settled]
  | cons stmt rest =>
    simp only [Stmt.trimmedAll, emitStmts]
    rw [emitStmt_trimmed mute stmt, map_bind, bind_map_left]
    refine bind_congr_of_run fun before flow after ran => ?_
    have leaves := run_emitStmt_flow stmt ran
    cases flow with
    | fallthrough =>
      rw [leaves.mp rfl]
      exact congrFun (emitStmts_trimmed mute rest) after
    | returned =>
      have returns : stmt.returns = true := by simpa using leaves
      rw [returns]
      cases rest with
      | nil => rfl
      | cons next =>
        simp only [warnUnreachable_of_mute mute]
        rfl
    | unreachable =>
      have returns : stmt.returns = true := by simpa using leaves
      rw [returns]
      rfl

end

theorem emitBody_trimmed {left right : Frame} (kindred : left.program.Kindred right.program)
    (same : right.owner = left.owner) (asked : right.options = left.options)
    (mute : left.options.warnsUnreachable = false) {routine peer : Routine}
    (kept : peer = routine ∨ peer = routine.trimmed) :
    right.emitBody nested peer = left.emitBody nested routine := by
  have synthesized := emitSynthesized_of_kindred kindred same
  obtain ⟨kind, params, body, self, isMember, isMutating, isSynthesized, env⟩ := routine
  obtain rfl | rfl := kept
  all_goals
    unfold emitBody
    cases body with
    | none => exact synthesized
    | some body => ?_
  · dsimp only
    rw [emitStmts_of_kindred kindred nested same asked, emitEnd_of_kindred kindred same rfl]
  · have ending : right.emitEnd body.trimmed = left.emitEnd body :=
      emitEnd_of_kindred kindred same rfl
    dsimp only [Routine.trimmed, Option.map]
    rw [ending, emitStmts_of_kindred kindred nested same asked, Body.trimmed,
      emitStmts_trimmed mute, discard_bind, discard_bind, bind_map_left]

end Frame

namespace Job

theorem fill_trimmed {left right : Job} (kindred : left.program.Kindred right.program)
    (asked : right.options = left.options) (mute : left.options.warnsUnreachable = false)
    (nested : DeclId → PassM Unit) (id : DeclId) {routine peer : Routine}
    (kept : peer = routine ∨ peer = routine.trimmed) (name : String) (signature : Signature) :
    right.fill nested id peer name signature = left.fill nested id routine name signature := by
  have rebodied : routine.Rebodies peer := by
    obtain rfl | rfl := kept
    · exact .refl _
    · exact routine.rebodies_trimmed
  have body : Frame.emitBody ⟨right, id⟩ nested peer = Frame.emitBody ⟨left, id⟩ nested routine :=
    @Frame.emitBody_trimmed nested ⟨left, id⟩ ⟨right, id⟩ kindred rfl asked mute _ _ kept
  unfold fill
  simp only [bindEntry_of_kindred kindred id rebodied, body]

section Trimmed

variable {program : Program} {function : DeclId} {options : Options}
  (spares : program.Spares function) (mute : options.warnsUnreachable = false)

include spares mute

theorem emitRoutine_trimmed (nested : DeclId → PassM Unit) (id : DeclId) :
    emitRoutine ⟨program.trimmed function, options⟩ nested id =
      emitRoutine ⟨program, options⟩ nested id := by
  have kindred : (Job.mk program options).program.Kindred
      (Job.mk (program.trimmed function) options).program := spares.rebodies.kindred
  refine Program.pass_trimmed id fun decl peer kept => ?_
  obtain ⟨name, kind, ty, parent, span⟩ := decl
  cases kind with
  | function routine =>
    have trimmed : ∃ own, peer = ⟨name, .function own, ty, parent, span⟩ ∧
        (own = routine ∨ own = routine.trimmed) := by
      obtain rfl | rfl := kept
      · exact ⟨routine, rfl, Or.inl rfl⟩
      · exact ⟨routine.trimmed, rfl, Or.inr rfl⟩
    obtain ⟨own, rfl, cut⟩ := trimmed
    have same : own.isBuiltin = routine.isBuiltin ∧ own.body.isNone = routine.body.isNone ∧
        own.isSynthesized = routine.isSynthesized := by
      obtain rfl | rfl := cut
      · exact ⟨rfl, rfl, rfl⟩
      · exact ⟨rfl, Option.isNone_map, rfl⟩
    simp only [Decl.routine?, DeclKind.routine?, same, declare_of_kindred kindred,
      kindred.functionName, fill_trimmed kindred rfl mute nested id cut]
  | _ => obtain rfl | rfl := kept <;> rfl

theorem emitLevel_trimmed (nested : DeclId → PassM Unit) (id : DeclId) :
    emitLevel ⟨program.trimmed function, options⟩ nested id =
      emitLevel ⟨program, options⟩ nested id := by
  have kindred : (Job.mk program options).program.Kindred
      (Job.mk (program.trimmed function) options).program := spares.rebodies.kindred
  have routine := emitRoutine_trimmed spares mute nested id
  refine Program.pass_trimmed id fun decl peer kept => ?_
  cases Decl.rebodies_of_kept kept with
  | same =>
    simp only [emitProduct, kindred.declaredType, routine,
      funext (emitMember_of_kindred kindred nested),
      funext fun ty => funext (emitConformance_of_kindred kindred ty)]
  | function => exact routine

theorem emitWithin_trimmed (levels : Nat) (id : DeclId) :
    emitWithin ⟨program.trimmed function, options⟩ levels id =
      emitWithin ⟨program, options⟩ levels id := by
  induction levels generalizing id with
  | zero => rfl
  | succ levels levels_ih =>
    rw [emitWithin, emitWithin, funext levels_ih, emitLevel_trimmed spares mute]

theorem emitModule_trimmed (id : DeclId) :
    emitModule ⟨program.trimmed function, options⟩ id = emitModule ⟨program, options⟩ id := by
  have limit : nestingLimit ⟨program.trimmed function, options⟩ =
      nestingLimit ⟨program, options⟩ := by
    rw [nestingLimit, nestingLimit, spares.rebodies.size]
  have below : emitDecl ⟨program.trimmed function, options⟩ = emitDecl ⟨program, options⟩ :=
    funext fun id => by rw [emitDecl, emitDecl, limit, emitWithin_trimmed spares mute]
  refine Program.pass_trimmed id fun decl peer kept => ?_
  have rebodied := Decl.rebodies_of_kept kept
  rw [rebodied.akin.name, rebodied.akin.kindText, below]
  cases rebodied <;> rfl

end Trimmed

end Job

end Lowering
