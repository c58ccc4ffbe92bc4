import Lowering.Proofs.CallOrder
import Lowering.Proofs.DeadCode
import Lowering.Proofs.Tandem.Statement

/-
This file lists the statements of a body in source order and says which of them are lowered, and which
one is reported as never executed. Only the first return of the list matters, however the statements
are nested in blocks.
-/

namespace Lowering

open IR

namespace Stmt

def isReturn : Stmt → Bool
  | .returned .. => true
  | .decl _ | .block .. | .expr _ => false

def isBlock : Stmt → Bool
  | .block .. => true
  | .decl _ | .returned .. | .expr _ => false

mutual

/-- A statement and the statements inside it, in source order. -/
def inOrder : Stmt → List Stmt
  | .block stmts span => .block stmts span :: inOrderAll stmts
  | .decl id => [.decl id]
  | .returned value span => [.returned value span]
  | .expr value => [.expr value]

def inOrderAll : List Stmt → List Stmt
  | [] => []
  | stmt :: rest => inOrder stmt ++ inOrderAll rest

end

/-- A list of statements as far as its first return. -/
def untilReturn : List Stmt → List Stmt
  | [] => []
  | stmt :: rest => if stmt.isReturn then [stmt] else stmt :: untilReturn rest

/-- What follows the first return of a list of statements. -/
def afterReturn : List Stmt → List Stmt
  | [] => []
  | stmt :: rest => if stmt.isReturn then rest else afterReturn rest

/-- The statements of a body as far as its first return, without the blocks around them. -/
def executed (stmts : List Stmt) : List Stmt := (untilReturn (inOrderAll stmts)).filter (!·.isBlock)

/-- The statements of a body that follow its first return. -/
def dead (stmts : List Stmt) : List Stmt := afterReturn (inOrderAll stmts)

@[simp] theorem untilReturn_append_afterReturn (stmts : List Stmt) :
    untilReturn stmts ++ afterReturn stmts = stmts := by
  induction stmts with
  | nil => rfl
  | cons stmt rest rest_ih =>
    rw [untilReturn, afterReturn]
    split <;> simp [rest_ih]

theorem untilReturn_append (start rest : List Stmt) :
    untilReturn (start ++ rest) =
      if start.any isReturn then untilReturn start else start ++ untilReturn rest := by
  induction start with
  | nil => rfl
  | cons stmt others others_ih =>
    rw [List.cons_append, untilReturn, others_ih, untilReturn, List.any_cons]
    cases stmt.isReturn <;> cases others.any isReturn <;> simp

theorem afterReturn_append (start rest : List Stmt) :
    afterReturn (start ++ rest) =
      if start.any isReturn then afterReturn start ++ rest else afterReturn rest := by
  induction start with
  | nil => rfl
  | cons stmt others others_ih =>
    rw [List.cons_append, afterReturn, others_ih, afterReturn, List.any_cons]
    cases stmt.isReturn <;> cases others.any isReturn <;> simp

theorem untilReturn_of_none {stmts : List Stmt} (none : stmts.any isReturn = false) :
    untilReturn stmts = stmts := by
  simpa [none, untilReturn] using untilReturn_append stmts []

theorem afterReturn_of_none {stmts : List Stmt} (none : stmts.any isReturn = false) :
    afterReturn stmts = [] := by
  simpa [none, afterReturn] using afterReturn_append stmts []

mutual

theorem any_inOrder (stmt : Stmt) : (inOrder stmt).any isReturn = stmt.returns := by
  cases stmt with
  | block stmts span => simpa [inOrder, isReturn, returns] using any_inOrderAll stmts
  | decl | returned | expr => simp [inOrder, isReturn, returns]

theorem any_inOrderAll (stmts : List Stmt) : (inOrderAll stmts).any isReturn = returnsAny stmts := by
  cases stmts with
  | nil => rfl
  | cons stmt rest =>
    rw [inOrderAll, List.any_append, any_inOrder stmt, any_inOrderAll rest, returnsAny]

end

/-- Every statement is the first of its own. -/
theorem inOrder_append (stmt : Stmt) (rest : List Stmt) :
    ∃ later, inOrder stmt ++ rest = stmt :: later := by
  cases stmt <;> exact ⟨_, rfl⟩

end Stmt

/-- How control leaves statements that are given in source order. -/
def Flow.across (stmts : List Stmt) : Flow :=
  if !stmts.any Stmt.isReturn then .fallthrough
  else if (Stmt.afterReturn stmts).isEmpty then .returned else .unreachable

namespace Frame

variable (frame : Frame) (nested : DeclId → PassM Unit)

/-- Lowers statements one after another. Blocks do nothing of their own. -/
def emitEach (stmts : List Stmt) : BodyM Unit :=
  (stmts.filter (!·.isBlock)).forM fun stmt => discard (frame.emitStmt nested stmt)

/-- Reports the first of the statements that are never executed. -/
def reportFirst : List Stmt → BodyM Unit
  | [] => pure ()
  | next :: _ => do PassM.report (.unreachable (← stmtSpan frame.program next))

/-- The first of the statements that are never executed is reported if the options ask for it. -/
def warnFirst : List Stmt → BodyM Unit
  | [] => pure ()
  | next :: _ => frame.warnUnreachable next

/-- Lowers statements that are given in source order. -/
def emitAcross (stmts : List Stmt) : BodyM Flow := do
  frame.emitEach nested (Stmt.untilReturn stmts)
  frame.warnFirst (Stmt.afterReturn stmts)
  return Flow.across stmts

variable {frame nested}

theorem warnFirst_of_asked (asked : frame.options.warnsUnreachable = true) (stmts : List Stmt) :
    frame.warnFirst stmts = frame.reportFirst stmts := by
  cases stmts with
  | nil => rfl
  | cons next others =>
    rw [warnFirst, warnUnreachable, asked]
    rfl

theorem emitEach_append (start rest : List Stmt) :
    frame.emitEach nested (start ++ rest) =
      (do frame.emitEach nested start; frame.emitEach nested rest) := by
  simp [emitEach, List.forM_append]

theorem emitAcross_of_none {stmts : List Stmt} (none : stmts.any Stmt.isReturn = false) :
    frame.emitAcross nested stmts =
      (do frame.emitEach nested stmts; return .fallthrough) := by
  simp [emitAcross, Stmt.untilReturn_of_none none, Stmt.afterReturn_of_none none, warnFirst,
    Flow.across, none]

/-- Without a return at the start, what follows is lowered too. -/
theorem emitAcross_append_of_none {start : List Stmt} (none : start.any Stmt.isReturn = false)
    (rest : List Stmt) :
    frame.emitAcross nested (start ++ rest) =
      (do frame.emitEach nested start; frame.emitAcross nested rest) := by
  simp [emitAcross, Stmt.untilReturn_append, Stmt.afterReturn_append, Flow.across, none,
    emitEach_append]

/-- A block is its statements. -/
theorem emitAcross_block (stmts rest : List Stmt) (span : Span) :
    frame.emitAcross nested (.block stmts span :: rest) = frame.emitAcross nested rest := by
  simp [emitAcross, Stmt.untilReturn, Stmt.afterReturn, emitEach, Stmt.isReturn, Stmt.isBlock,
    Flow.across]

theorem emitAcross_simple {stmt : Stmt} (simple : stmt.isBlock = false) :
    frame.emitAcross nested [stmt] = (do
      discard (frame.emitStmt nested stmt)
      return if stmt.isReturn then .returned else .fallthrough) := by
  cases returns : stmt.isReturn <;>
    simp [emitAcross, Stmt.untilReturn, Stmt.afterReturn, emitEach, simple, returns, warnFirst,
      Flow.across]

mutual

theorem emitStmt_inOrder (stmt : Stmt) :
    frame.emitStmt nested stmt = frame.emitAcross nested stmt.inOrder := by
  cases stmt with
  | block stmts span =>
    rw [Stmt.inOrder, emitAcross_block, emitStmt]
    exact emitStmts_inOrder stmts
  | decl | returned | expr =>
    rw [Stmt.inOrder, emitAcross_simple rfl]
    simp [emitStmt, Functor.discard, map_const, Stmt.isReturn]

theorem emitStmts_inOrder (stmts : List Stmt) :
    frame.emitStmts nested stmts = frame.emitAcross nested (Stmt.inOrderAll stmts) := by
  cases stmts with
  | nil => simp [emitStmts, Stmt.inOrderAll, emitAcross, emitEach, Stmt.untilReturn,
      Stmt.afterReturn, warnFirst, Flow.across]
  | cons stmt rest =>
    simp only [emitStmts, Stmt.inOrderAll, emitStmt_inOrder stmt]
    cases returns : stmt.returns with
    | false =>
      have none := (Stmt.any_inOrder stmt).trans returns
      rw [emitAcross_append_of_none none, emitAcross_of_none none, ← emitStmts_inOrder rest]
      simp
    | true =>
      have some := (Stmt.any_inOrder stmt).trans returns
      simp only [emitAcross, Flow.across, Stmt.untilReturn_append, Stmt.afterReturn_append, some,
        List.any_append, Bool.true_or, Bool.not_true, Bool.false_eq_true, if_true, if_false,
        bind_assoc, pure_bind]
      -- What is dead in the first statement is reported there, and the rest only if that is all.
      congr 1
      funext _
      cases follows : Stmt.afterReturn stmt.inOrder with
      | cons next others => simp [warnFirst]
      | nil =>
        cases rest with
        | nil => simp [warnFirst, Stmt.inOrderAll]
        | cons next others =>
          obtain ⟨later, listed⟩ := Stmt.inOrder_append next (Stmt.inOrderAll others)
          simp [warnFirst, Stmt.inOrderAll, listed]

end

end Frame

/-- The warnings for code that is never executed. -/
def Report.unreachable (report : Report) : List Diagnostic :=
  report.diagnostics.filter Diagnostic.isUnreachable

/-- The step, except that its own warnings for code that is never executed are left out. -/
def PassM.withheld {A : Type} (step : PassM A) : PassM A := fun pass =>
  match step pass with
  | .ok value after =>
    let added := after.report.diagnostics.drop pass.report.diagnostics.length
    .ok value { after with
      report := ⟨pass.report.diagnostics ++ added.filter (!·.isUnreachable)⟩ }
  | .error abort after => .error abort after

theorem Report.unreachable_add (report : Report) (finding : Finding) :
    (report.add finding.diagnostic).unreachable =
      report.unreachable ++ if finding.diagnostic.isError then [] else [finding.diagnostic] := by
  have kind := finding.isUnreachable_eq
  cases error : finding.diagnostic.isError <;> simp_all [unreachable, add]

/-- A pass keeps to itself as long as no warning for code that is never executed is given. -/
def unwarned (warnings : List Diagnostic) : Coupling Pass where
  Relates pass peer := peer = pass ∧ pass.report.unreachable = warnings
  Excused _ := False
  Strict := True
  firm _ _ free := free

namespace unwarned

variable {warnings : List Diagnostic}

/-- A step is coupled to itself if it gives no such warning. -/
theorem couples {A : Type} {step : PassM A}
    (silent : ∀ before value after, step before = .ok value after →
      after.report.unreachable = before.report.unreachable) :
    Couples (unwarned warnings) step step where
  excused _ _ _ free _ := free
  answers before peer related := by
    obtain ⟨rfl, told⟩ := related
    cases ran : step peer with
    | ok value after => exact Or.inr ⟨value, after, rfl, rfl, rfl, (silent _ _ _ ran).trans told⟩
    | error abort after => exact fun _ => ⟨after, rfl⟩

theorem builds {A : Type} (step : BuildM A) : (unwarned warnings).Builds step :=
  couples fun _ _ _ done => by
    obtain ⟨_, _, rfl⟩ := (lift_build _ _ _ _).mp done
    rfl

theorem withheld {A : Type} (step : PassM A) : Couples (unwarned warnings) step.withheld step.withheld := by
  refine couples fun before value after done => ?_
  unfold PassM.withheld at done
  split at done
  · cases done
    simp [Report.unreachable, List.filter_filter]
  · cases done

theorem report {finding : Finding} (error : finding.diagnostic.isError = true) :
    Couples (unwarned warnings) (PassM.report finding) (PassM.report finding) :=
  couples fun _ _ _ done => by
    obtain rfl := (run_modify _ _ _ _).mp done
    simp [Report.unreachable_add, error]

/-- A step of a body that is coupled to itself gives no such warning. -/
theorem of_accompanies {A : Type} {step : BodyM A} {before after : Activation} {value : A}
    (coupled : Accompanies (unwarned before.pass.report.unreachable) step step)
    (done : step before = .ok value after) :
    after.pass.report.unreachable = before.pass.report.unreachable := by
  have answered := coupled.answers before before ⟨⟨rfl, rfl⟩, rfl⟩
  rw [done] at answered
  obtain free | ⟨_, _, _, _, ⟨_, told⟩, _⟩ := answered
  · exact free.elim
  · exact told

end unwarned

/-- Where no warnings are asked for, none are given. -/
def muted (job : Job) (mute : job.options.warnsUnreachable = false) (warnings : List Diagnostic) :
    Tandem job job where
  toCoupling := unwarned warnings
  programs := .refl job.program
  terminated related := related.1 ▸ rfl
  define _ _ := unwarned.builds _
  append _ := unwarned.builds _
  report _ error := unwarned.report error
  declare id := by
    refine .bind (unwarned.couples fun _ _ _ done => ?_) fun name =>
      .check_bind _ fun signature _ => unwarned.builds _
    obtain ⟨_, _, rfl⟩ := (lift_names _ _ _ _).mp done
    rfl
  Sited _ := True
  warn owner stmt _ := by
    rw [Frame.warnUnreachable_of_mute mute]
    exact .pure ()

namespace Frame

variable {frame : Frame}

/-- The same function under options that ask for no warnings. -/
def hushed (frame : Frame) : Frame :=
  { frame with options := { frame.options with warnsUnreachable := false } }

/-- Warnings are given between statements only. -/
theorem emitStmt_hushed {nested : DeclId → PassM Unit} {stmt : Stmt} (simple : stmt.isBlock = false) :
    frame.hushed.emitStmt nested stmt = frame.emitStmt nested stmt := by
  have kindred : frame.program.Kindred frame.hushed.program := .refl frame.program
  have same : frame.hushed.owner = frame.owner := rfl
  cases stmt with
  | decl id => simp only [emitStmt, emitLocalDecl_of_kindred kindred same]
  | returned value span => simp only [emitStmt, emitReturn_of_kindred kindred same]
  | expr value => simp only [emitStmt, emitValue_of_kindred kindred same]
  | block => cases simple

variable {nested : DeclId → PassM Unit} {warnings : List Diagnostic}

theorem unwarned_emitEach (stmts : List Stmt) :
    Accompanies (unwarned warnings) (frame.emitEach (fun id => (nested id).withheld) stmts)
      (frame.emitEach (fun id => (nested id).withheld) stmts) := by
  refine Couples.forM _ fun stmt inside => Accompanies.discard ?_
  have simple : stmt.isBlock = false := by simpa using (List.mem_filter.mp inside).2
  rw [← emitStmt_hushed simple]
  exact (muted frame.hushed.toJob rfl warnings).emitStmt (fun id => unwarned.withheld _) stmt
    fun _ _ => trivial

theorem unwarned_emitEnd (body : Body) :
    Accompanies (unwarned warnings) (frame.emitEnd body) (frame.emitEnd body) := by
  have kindred : frame.program.Kindred frame.hushed.program := .refl frame.program
  have same : frame.hushed.emitEnd body = frame.emitEnd body := emitEnd_of_kindred kindred rfl rfl
  rw [← same]
  exact (muted frame.hushed.toJob rfl warnings).emitEnd body

/--
A body is lowered statement by statement in source order, as far as its first return. Then the first
statement after that is reported, if there is one. Apart from what is nested in it, a body gives no other
warnings for code that is never executed.
-/
theorem emitBody_inOrder (asked : frame.options.warnsUnreachable = true) {routine : Routine}
    {body : Body} (given : routine.body = some body) (nested : DeclId → PassM Unit) :
    (frame.emitBody nested routine = do
      (Stmt.executed body.stmts).forM fun stmt => discard (frame.emitStmt nested stmt)
      frame.reportFirst (Stmt.dead body.stmts)
      frame.emitEnd body) ∧
    ∀ before after value,
      frame.emitBody (fun id => (nested id).withheld) routine before = .ok value after →
      match (Stmt.dead body.stmts).head? with
      | none => after.pass.report.unreachable = before.pass.report.unreachable
      | some next => ∃ span, stmtSpan frame.program next = .ok span ∧
          after.pass.report.unreachable =
            before.pass.report.unreachable ++ [(Finding.unreachable span).diagnostic] := by
  have equal (nested : DeclId → PassM Unit) : frame.emitBody nested routine = (do
      frame.emitEach nested (Stmt.untilReturn (Stmt.inOrderAll body.stmts))
      frame.reportFirst (Stmt.dead body.stmts)
      frame.emitEnd body) := by
    rw [emitBody, given]
    dsimp only
    rw [emitStmts_inOrder, discard_bind, emitAcross, warnFirst_of_asked asked]
    simp [Stmt.dead]
  refine ⟨equal nested, fun before after value done => ?_⟩
  rw [equal] at done
  obtain ⟨_, between, lowered, done⟩ := (run_bind _ _ _ _ _).mp done
  obtain ⟨_, last, warned, ended⟩ := (run_bind _ _ _ _ _).mp done
  rw [unwarned.of_accompanies (unwarned_emitEnd body) ended,
    ← unwarned.of_accompanies (unwarned_emitEach _) lowered]
  cases follows : Stmt.dead body.stmts with
  | nil =>
    rw [follows] at warned
    rw [((run_pure _ _ _ _).mp warned).2]
    rfl
  | cons next others =>
    rw [follows, reportFirst] at warned
    obtain ⟨span, seen, warned⟩ := (run_ask_bind _ _ _ _ _).mp warned
    obtain ⟨pass, told, rfl⟩ := (lift_pass _ _ _ _).mp warned
    obtain rfl := (run_modify _ _ _ _).mp told
    exact ⟨span, (lift_answer _ _).mp seen, Report.unreachable_add _ _⟩

end Frame

/-- Two blocks end between the return and what is never executed. -/
def skipping : Assembly Unit := do
  let main ← Assembly.addModule "main"
  let f ← Assembly.addFunction main "f" [] .unit
  let inner := Stmt.block [.returned none Span.unknown] Span.unknown
  let dead := Expr.int ⟨.int, Span.unknown⟩ 1
  Assembly.setBody f
    ⟨[.block [inner] Span.unknown, .expr dead, .returned none Span.unknown], Span.unknown⟩

theorem emitBody_inOrder_skipping :
    ∃ routine body after, (skipping.built.find? ⟨1⟩).bind (·.routine?) = some routine ∧
      routine.body = some body ∧ Options.standard.warnsUnreachable = true ∧
      Frame.emitBody ⟨⟨skipping.built, Options.standard⟩, ⟨1⟩⟩ (fun _ => PassM.withheld (pure ()))
        routine Activation.fresh = .ok () after ∧
      after.pass.report.unreachable = [(Finding.unreachable Span.unknown).diagnostic] := by
  let lowered (routine : Routine) :=
    Frame.emitBody ⟨⟨skipping.built, Options.standard⟩, ⟨1⟩⟩ (fun _ => PassM.withheld (pure ()))
      routine Activation.fresh
  have seen : ((skipping.built.find? ⟨1⟩).bind (·.routine?)).bind (fun routine =>
      routine.body.map fun body => ((Stmt.dead body.stmts).head?.map fun next =>
          (Frame.stmtSpan skipping.built next).toOption, match lowered routine with
        | .ok _ _ => true
        | .error _ _ => false)) = some (some (some Span.unknown), true) := by
    decide +kernel
  obtain ⟨routine, found, seen⟩ := Option.bind_eq_some_iff.mp seen
  obtain ⟨body, given, seen⟩ := Option.map_eq_some_iff.mp seen
  obtain ⟨placed, returns⟩ := Prod.mk.inj seen
  obtain ⟨next, follows, placed⟩ := Option.map_eq_some_iff.mp placed
  cases done : lowered routine with
  | error => simp [done] at returns
  | ok value after =>
    have told := (@Frame.emitBody_inOrder ⟨⟨skipping.built, Options.standard⟩, ⟨1⟩⟩ rfl _ _ given
      fun _ => pure ()).2 _ _ _ done
    rw [follows] at told
    obtain ⟨span, standing, told⟩ := told
    rw [standing] at placed
    obtain rfl := Option.some.inj placed
    exact ⟨routine, body, after, found, given, rfl, done, told⟩

end Lowering
