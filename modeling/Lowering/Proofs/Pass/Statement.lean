import Lowering.Pass.Statement
import Lowering.Proofs.Pass.Expression
import Lowering.Proofs.Program.Nesting

/-
This file carries policies through the lowering of statements. A statement leaves its block open,
or it ends the block and nothing else is written there. A constructor never ends its block in a
return.
-/

namespace Lowering

open IR

/-- A variable gets a slot, and one of error type gets none. -/
theorem Frame.run_emitLocalVar {frame : Frame} {id : DeclId} {location : Value}
    {before after : Activation} (done : frame.emitLocalVar id before = .ok location after) :
    ∃ decl, frame.program.find? id = some decl ∧
      (decl.ty.isError = true ∧ location = Value.error (.address .error) ∧
          after = { before with locals := before.locals.insert id location } ∨
        decl.ty.isError = false ∧ decl.kind.isStored = true ∧ ∃ ty builder,
          frame.contextualize decl.ty = .ok ty ∧
          BuildM.allocStack ty before.pass.builder = .ok location builder ∧
          after = ⟨{ before.pass with builder := builder }, before.locals.insert id location⟩) := by
  obtain ⟨decl, found, done⟩ := (run_ask_bind _ _ _ _ _).mp done
  refine ⟨decl, Program.decl_eq_ok.mp ((lift_answer _ _).mp found), ?_⟩
  split at done
  next flawed =>
    obtain ⟨_, between, bound, done⟩ := (run_bind _ _ _ _ _).mp done
    obtain rfl := (run_modify _ _ _ _).mp bound
    obtain ⟨rfl, rfl⟩ := (run_pure _ _ _ _).mp done
    exact Or.inl ⟨flawed, rfl, rfl⟩
  next sound =>
    refine Or.inr ⟨by simpa using sound, ?_⟩
    cases kind : decl.kind with
    | «variable» hasStorage =>
      cases hasStorage with
      | true =>
        rw [kind] at done
        obtain ⟨ty, seen, done⟩ := (run_ask_bind _ _ _ _ _).mp done
        obtain ⟨slot, between, ran, done⟩ := (run_bind _ _ _ _ _).mp done
        obtain ⟨pass, lifted, rfl⟩ := (lift_pass _ _ _ _).mp ran
        obtain ⟨builder, allocated, rfl⟩ := (lift_build _ _ _ _).mp lifted
        obtain ⟨_, last, bound, done⟩ := (run_bind _ _ _ _ _).mp done
        obtain rfl := (run_modify _ _ _ _).mp bound
        obtain ⟨rfl, rfl⟩ := (run_pure _ _ _ _).mp done
        exact ⟨rfl, ty, builder, seen, allocated, rfl⟩
      | false =>
        rw [kind] at done
        obtain ⟨_, aborted, _⟩ := (run_ask_bind _ _ _ _ _).mp done
        exact ((check_abort _ _).mp aborted).elim
    | _ =>
      rw [kind] at done
      obtain ⟨_, aborted, _⟩ := (run_ask_bind _ _ _ _ _).mp done
      exact ((check_abort _ _).mp aborted).elim

/-- After a statement the next one is lowered, or nothing is but a warning. -/
theorem Frame.run_emitStmts_cons {frame : Frame} {nested : DeclId → PassM Unit} {stmt : Stmt}
    {rest : List Stmt} {flow : Flow} {before after : Activation}
    (done : frame.emitStmts nested (stmt :: rest) before = .ok flow after) :
    ∃ left between, frame.emitStmt nested stmt before = .ok left between ∧
      (left = .fallthrough ∧ frame.emitStmts nested rest between = .ok flow after ∨
        left ≠ .fallthrough ∧ left = flow ∧ between = after ∨
        left ≠ .fallthrough ∧ flow = .unreachable ∧
          ∃ next, frame.warnUnreachable next between = .ok () after) := by
  obtain ⟨left, between, ran, done⟩ := (run_bind _ _ _ _ _).mp done
  refine ⟨left, between, ran, ?_⟩
  cases left with
  | fallthrough => exact Or.inl ⟨rfl, done⟩
  | unreachable =>
    obtain ⟨same, rfl⟩ := (run_pure _ _ _ _).mp done
    exact Or.inr (Or.inl ⟨nofun, same, rfl⟩)
  | returned =>
    cases rest with
    | nil =>
      obtain ⟨same, rfl⟩ := (run_pure _ _ _ _).mp done
      exact Or.inr (Or.inl ⟨nofun, same, rfl⟩)
    | cons next others =>
      obtain ⟨_, last, warned, done⟩ := (run_bind _ _ _ _ _).mp done
      obtain ⟨rfl, rfl⟩ := (run_pure _ _ _ _).mp done
      exact Or.inr (Or.inr ⟨nofun, rfl, next, warned⟩)

mutual

/-- A statement is followed by the next one unless it returns. -/
theorem Frame.run_emitStmt_flow {frame : Frame} {nested : DeclId → PassM Unit} (stmt : Stmt)
    {flow : Flow} {before after : Activation}
    (done : frame.emitStmt nested stmt before = .ok flow after) :
    flow = .fallthrough ↔ stmt.returns = false := by
  cases stmt with
  | decl id =>
    obtain ⟨_, _, _, done⟩ := (run_bind _ _ _ _ _).mp done
    obtain ⟨rfl, _⟩ := (run_pure _ _ _ _).mp done
    exact iff_of_true rfl rfl
  | block stmts span => exact run_emitStmts_flow stmts done
  | returned value span =>
    obtain ⟨_, _, _, done⟩ := (run_bind _ _ _ _ _).mp done
    obtain ⟨rfl, _⟩ := (run_pure _ _ _ _).mp done
    exact iff_of_false nofun nofun
  | expr value =>
    obtain ⟨_, _, _, done⟩ := (run_bind _ _ _ _ _).mp done
    obtain ⟨rfl, _⟩ := (run_pure _ _ _ _).mp done
    exact iff_of_true rfl rfl

theorem Frame.run_emitStmts_flow {frame : Frame} {nested : DeclId → PassM Unit}
    (stmts : List Stmt) {flow : Flow} {before after : Activation}
    (done : frame.emitStmts nested stmts before = .ok flow after) :
    flow = .fallthrough ↔ Stmt.returnsAny stmts = false := by
  cases stmts with
  | nil => exact iff_of_true ((run_pure _ _ _ _).mp done).1.symm rfl
  | cons stmt rest =>
    obtain ⟨left, between, ran, continues⟩ := run_emitStmts_cons done
    have first := run_emitStmt_flow stmt ran
    rw [Stmt.returnsAny, Bool.or_eq_false_iff, ← first]
    rcases continues with ⟨rfl, done⟩ | ⟨left_early, rfl, _⟩ | ⟨left_early, rfl, _⟩
    · simpa using run_emitStmts_flow rest done
    · exact iff_of_false left_early fun falls => left_early falls.1
    · exact iff_of_false nofun fun falls => left_early falls.1

end

namespace Policy

section Ends

variable {job : Job} (policy : Policy job) {A B : Type}

/-- The block that was open is accounted for. -/
structure Finished (before after : Activation) : Prop where
  formed : after.pass.builder.module.WellFormed
  holds : policy.Holds after.pass
  closes : before.pass.Closes after.pass

/-- A step of a body that writes to the open block and is done with it. -/
def Finishes (step : BodyM A) (before : Activation) (post : A → Activation → Prop) : Prop :=
  policy.Ready before → ∀ value after, step before = .ok value after →
    policy.Finished before after ∧ post value after

/-- How a statement leaves its block, where only a constructor may go on after a return. -/
def Left (constructs : Bool) (before : Activation) (flow : Flow) (after : Activation) : Prop :=
  if constructs = true ∨ flow = .fallthrough then
    policy.Ready after ∧ before.pass.Steady after.pass
  else policy.Finished before after ∧ after.pass.builder.isTerminated = true

/-- A statement that keeps the policy. -/
def Flows (constructs : Bool) (step : BodyM Flow) (before : Activation) : Prop :=
  policy.Ready before → ∀ flow after, step before = .ok flow after →
    policy.Left constructs before flow after

variable {policy} {before : Activation}

theorem Keeps.finishes {step : BodyM A} {post : A → Activation → Prop} {next : A → BodyM B}
    {last : B → Activation → Prop} (first : policy.Keeps step before post)
    (rest : ∀ value between, before.pass.Steady between.pass → post value between →
      policy.Finishes (next value) between last) :
    policy.Finishes (step >>= next) before last := by
  intro ready value after done
  obtain ⟨middle, between, ran, done⟩ := (run_bind _ _ _ _ _).mp done
  obtain ⟨ready, steady, met⟩ := first ready middle between ran
  obtain ⟨finished, met⟩ := rest middle between steady met ready value after done
  exact ⟨⟨finished.formed, finished.holds, steady.closes finished.closes⟩, met⟩

theorem Finishes.check_bind {question : CheckM A} {next : A → BodyM B}
    {last : B → Activation → Prop}
    (rest : ∀ value, question = .ok value → policy.Finishes (next value) before last) :
    policy.Finishes (liftM question >>= next) before last := by
  intro ready value after done
  obtain ⟨answer, given, done⟩ := (run_ask_bind _ _ _ _ _).mp done
  exact rest answer given ready value after done

theorem Finishes.ask_bind {question : Answer A} {next : A → BodyM B}
    {last : B → Activation → Prop}
    (rest : ∀ value, question = .ok value → policy.Finishes (next value) before last) :
    policy.Finishes (liftM question >>= next) before last :=
  check_bind fun value given => rest value ((lift_answer _ _).mp given)

theorem Finishes.abort_bind (violation : Violation) (next : A → BodyM B)
    {last : B → Activation → Prop} :
    policy.Finishes (liftM (Lowering.abort violation : CheckM A) >>= next) before last :=
  check_bind fun _ given => ((check_abort _ _).mp given).elim

theorem Finishes.mono {step : BodyM A} {post weaker : A → Activation → Prop}
    (kept : policy.Finishes step before post)
    (weaken : ∀ value after, post value after → weaker value after) :
    policy.Finishes step before weaker := by
  intro ready value after done
  obtain ⟨finished, met⟩ := kept ready value after done
  exact ⟨finished, weaken value after met⟩

theorem Finishes.abort (violation : Violation) {post : A → Activation → Prop} :
    policy.Finishes (liftM (Lowering.abort violation : CheckM A)) before post := by
  intro _ value after done
  exact ((run_ask_abort _ _ _ _).mp done).elim

theorem Finishes.terminate {instruction : Instruction} (ends : instruction.isTerminator = true)
    (usable : ∀ operand ∈ instruction.operands, policy.Usable before.pass operand) :
    policy.Finishes (liftM (BuildM.append instruction)) before
      fun _ after => after.pass.builder.isTerminated = true := by
  intro ready value after done
  obtain ⟨pass, ran, rfl⟩ := (lift_pass (liftM (BuildM.append instruction)) _ _ _).mp done
  obtain ⟨formed, holds, closes⟩ :=
    Concludes.terminate ends usable ready.working ready.holds value pass ran
  obtain ⟨builder, appended, rfl⟩ := (lift_build _ _ _ _).mp ran
  exact ⟨⟨formed, holds, closes⟩, (ready.working.terminate ends appended).2.1⟩

theorem Finishes.ret {value : Value} (usable : policy.Usable before.pass value) :
    policy.Finishes (liftM (BuildM.ret value)) before
      fun _ after => after.pass.builder.isTerminated = true :=
  .terminate rfl (by simpa [Instruction.operands] using usable)

theorem Keeps.flows {step : BodyM A} {post : A → Activation → Prop} (constructs : Bool)
    (kept : policy.Keeps step before post) :
    policy.Flows constructs (step >>= fun _ => return .fallthrough) before := by
  intro ready flow after done
  obtain ⟨value, between, ran, done⟩ := (run_bind _ _ _ _ _).mp done
  obtain ⟨rfl, rfl⟩ := (run_pure _ _ _ _).mp done
  obtain ⟨ready, steady, _⟩ := kept ready value between ran
  simpa [Left] using ⟨ready, steady⟩

end Ends

variable {frame : Frame} {policy : Policy frame.toJob}

theorem Keeps.emitLocalVar (id : DeclId) (before : Activation) :
    policy.Keeps (frame.emitLocalVar id) before
      fun value after => policy.Bindable after.pass value := by
  refine .ask_bind ?_
  intro decl found
  split
  next flawed =>
    have bindable : policy.Bindable before.pass (Value.error (.address .error)) :=
      ⟨policy.usable_error _ (Or.inr (Or.inl ⟨id, decl, Program.decl_eq_ok.mp found, flawed⟩)),
        isLocal_error _⟩
    refine .bind (.bindLocal id bindable) ?_
    intro _ between steady _
    exact .pure (bindable.of_steady steady)
  next =>
    have located : policy.Keeps (do
        let location ← BuildM.allocStack (← frame.contextualize decl.ty)
        BodyM.bindLocal id location
        return location) before fun value after => policy.Bindable after.pass value := by
      refine .check_bind ?_
      intro ty _
      refine .bind (.lift (.allocStack ty)) ?_
      intro location between _ temporary
      refine .bind (.bindLocal id temporary.bindable) ?_
      intro _ last steady _
      exact .pure (temporary.bindable.of_steady steady)
    simp only
    split
    · exact located
    · exact .abort_bind _ _
    · exact .abort_bind _ _

theorem Keeps.emitBinding {id : DeclId} {decl : Decl} {binding : Binding}
    (found : frame.program.decl id = .ok decl) (kind : decl.kind = .binding binding)
    (before : Activation) : policy.Keeps (frame.emitBinding binding) before fun _ _ => True := by
  have occurs {initializer : Expr} (given : binding.initializer = some initializer) :=
    Program.occurs_initializer found kind given
  refine .bind (.mapM (fun value pass => policy.Bindable pass value)
    (fun _ _ _ steady bindable => bindable.of_steady steady) binding.pattern.names before
    fun name _ => .emitLocalVar name) ?_
  intro locations between _ ⟨_, bindable⟩
  cases given : binding.initializer with
  | none => exact .pure trivial
  | some initializer =>
    simp only
    split
    · exact .emitAssign initializer (occurs given) between
        (bindable _ (List.mem_cons_self ..)).1
    · exact .discard (.emitValue initializer (occurs given) between)
    · exact .abort _

/-- A constructor evaluates what it returns and goes on. -/
theorem Keeps.emitReturn (value : Option Expr) {routine : Routine}
    (occurs : ∀ expr ∈ value, frame.program.Occurs expr) (owned : frame.routine = .ok routine)
    (constructs : routine.isConstructor = true) (before : Activation) :
    policy.Keeps (frame.emitReturn value) before fun _ _ => True := by
  refine .check_bind ?_
  intro again owned_again
  obtain rfl : routine = again := by simpa [owned] using owned_again
  simp only [constructs, if_true]
  cases value with
  | none => exact .pure trivial
  | some expr => exact .discard (.emitValue expr (occurs expr rfl) before)

/-- Any other function returns what it is given and ends its block. -/
theorem Finishes.emitReturn (value : Option Expr) {routine : Routine}
    (occurs : ∀ expr ∈ value, frame.program.Occurs expr) (owned : frame.routine = .ok routine)
    (ordinary : routine.isConstructor = false) (before : Activation) :
    policy.Finishes (frame.emitReturn value) before
      fun _ after => after.pass.builder.isTerminated = true := by
  refine .check_bind ?_
  intro again owned_again
  obtain rfl : routine = again := by simpa [owned] using owned_again
  simp only [ordinary, Bool.false_eq_true, if_false]
  refine .check_bind ?_
  intro result _
  cases value with
  | none =>
    have literal : Value.unit.IsLiteral := ⟨rfl, rfl, fun name => by simp [Value.unit]⟩
    simp only [pure_bind]
    exact .ret (policy.usable_literal before.pass literal)
  | some expr =>
    simp only
    refine .check_bind ?_
    intro coerced _
    split
    · exact (Keeps.emitCoerced expr (occurs expr rfl) result before).finishes
        fun _ _ _ temporary => .ret temporary.1
    · exact (Keeps.emitValue expr (occurs expr rfl) before).finishes
        fun _ _ _ yields => .ret yields.1

theorem Keeps.bindClosure (id : DeclId) (before : Activation) :
    policy.Keeps (frame.bindClosure id) before fun _ _ => True := by
  refine .ask_bind ?_
  intro captures _
  split
  · refine .ask_bind ?_
    intro decl _
    refine .bind (.mapM (fun value pass => policy.Usable pass value)
      (fun _ _ _ steady usable => policy.usable_of_steady steady usable) captures before
      fun capture _ => .emitReference capture decl.span) ?_
    intro args first _ ⟨_, usable⟩
    refine .bind (.lift (Visits.declare id).maintains) ?_
    intro function second declared_steady declared
    refine .check_bind ?_
    intro ty _
    refine .bind (.lift (.allocStack ty)) ?_
    intro location third room_steady room
    have function_usable := policy.usable_of_steady room_steady (policy.usable_declared declared)
    refine .bind (.lift (.partialApply function_usable
      (all_usable (declared_steady.trans room_steady) usable) ty)) ?_
    intro closure fourth closure_steady temporary
    have room_usable := policy.usable_of_steady closure_steady room.1
    refine .bind (.lift (.store temporary.1 room_usable)) ?_
    intro _ last store_steady _
    exact .mono (.bindLocal id (room.bindable.of_steady (closure_steady.trans store_steady)))
      fun _ _ _ => trivial
  · exact .pure trivial

theorem Keeps.emitLocalFunction {nested : DeclId → PassM Unit}
    (below : policy.VisitsAll nested) (id : DeclId)
    (before : Activation) :
    policy.Keeps (frame.emitLocalFunction nested id) before fun _ _ => True := by
  refine .bind (.lift (below id before.pass).maintains) ?_
  intro _ between _ _
  exact .bindClosure id between

theorem Keeps.emitLocalDecl {nested : DeclId → PassM Unit}
    (below : policy.VisitsAll nested) (id : DeclId)
    (before : Activation) :
    policy.Keeps (frame.emitLocalDecl nested id) before fun _ _ => True := by
  refine .ask_bind ?_
  intro decl found
  split
  next binding kind => exact .emitBinding found kind before
  next routine kind =>
    split
    · exact .emitLocalFunction below id before
    · exact .pure trivial
  · exact .mono (.lift (below id before.pass).maintains) fun _ _ _ => trivial
  · exact .mono (.lift (below id before.pass).maintains) fun _ _ _ => trivial
  · exact .mono (.lift (below id before.pass).maintains) fun _ _ _ => trivial
  · exact .mono (.lift (below id before.pass).maintains) fun _ _ _ => trivial
  · exact .mono (.lift (below id before.pass).maintains) fun _ _ _ => trivial
  all_goals exact .abort _

/-- A warning adds to the report and changes nothing else. -/
theorem run_warnUnreachable {stmt : Stmt} {before after : Activation} {value : Unit}
    (done : frame.warnUnreachable stmt before = .ok value after) :
    after = before ∨ ∃ span, after = { before with pass := { before.pass with
      report := before.pass.report.add (Finding.unreachable span).diagnostic } } := by
  unfold Frame.warnUnreachable at done
  split at done
  · obtain ⟨span, _, done⟩ := (run_ask_bind _ _ _ _ _).mp done
    obtain ⟨pass, reported, rfl⟩ := (lift_pass (PassM.report _) _ _ _).mp done
    obtain rfl := (run_modify _ _ _ _).mp reported
    exact Or.inr ⟨span, rfl⟩
  · obtain ⟨_, rfl⟩ := (run_pure _ _ _ _).mp done
    exact Or.inl rfl

theorem message_of_unreachable (span : Span) :
    (Finding.unreachable span).diagnostic.message ≠
      "missing return value in non-unit function" := by
  intro same
  have heads := congrArg (fun text : String => text.toList.head?) same
  simp [Finding.diagnostic] at heads

/-- What comes before in the same block does not count. -/
theorem Left.trans {constructs : Bool} {flow : Flow} {before middle after : Activation}
    (left : policy.Left constructs middle flow after) (steady : before.pass.Steady middle.pass) :
    policy.Left constructs before flow after := by
  unfold Left at left ⊢
  split at left
  next goes =>
    rw [if_pos goes]
    exact ⟨left.1, steady.trans left.2⟩
  next ends =>
    rw [if_neg ends]
    exact ⟨⟨left.1.formed, left.1.holds, steady.closes left.1.closes⟩, left.2⟩

theorem Left.cursor {constructs : Bool} {flow : Flow} {before after : Activation}
    (left : policy.Left constructs before flow after) :
    after.pass.builder.cursor = before.pass.builder.cursor := by
  unfold Left at left
  split at left
  · exact left.2.cursor
  · exact left.1.closes.cursor

theorem Left.grows {constructs : Bool} {flow : Flow} {before after : Activation}
    (left : policy.Left constructs before flow after) :
    before.pass.Grows before.pass.builder.cursor after.pass := by
  unfold Left at left
  split at left
  · exact left.2.grows
  · exact left.1.closes.grows

theorem grows_of_warn {stmt : Stmt} {before after : Activation} {value : Unit}
    (done : frame.warnUnreachable stmt before = .ok value after) :
    before.pass.Grows none after.pass := by
  rcases run_warnUnreachable done with rfl | ⟨span, rfl⟩
  · exact .refl none _
  · exact (before.pass.settles_report (message_of_unreachable span)).grows

/-- What was left stays as it is when a warning is added. -/
theorem Left.warn {constructs : Bool} {flow : Flow} {before middle after : Activation}
    {stmt : Stmt} {value : Unit} (left : policy.Left constructs before flow middle)
    (returned : flow ≠ .fallthrough)
    (done : frame.warnUnreachable stmt middle = .ok value after) :
    policy.Left constructs before .unreachable after := by
  rcases run_warnUnreachable done with rfl | ⟨span, rfl⟩
  · simpa [Left, returned] using left
  · have settled := middle.pass.settles_report (message_of_unreachable span)
    by_cases constructs : constructs = true
    · simp only [Left, constructs, true_or, if_true] at left ⊢
      obtain ⟨ready, steady⟩ := left
      exact ⟨⟨settled.working ready.working ready.working.formed, policy.report (.unreachable span) ready.holds,
        ready.locals.of_steady settled.steady⟩, steady.trans settled.steady⟩
    · simp only [Left, constructs, returned] at left
      obtain ⟨⟨formed, holds, closes⟩, terminated⟩ := left
      simp only [Left, constructs, reduceCtorEq, or_self, if_false]
      exact ⟨⟨formed, policy.report (.unreachable span) holds, closes.steady settled.steady⟩, terminated⟩

mutual

theorem Flows.emitStmt {nested : DeclId → PassM Unit}
    (below : policy.VisitsAll nested) {routine : Routine}
    (owned : frame.routine = .ok routine) (stmt : Stmt)
    (occurs : ∀ expr ∈ stmt.exprs, frame.program.Occurs expr) (before : Activation) :
    policy.Flows routine.isConstructor (frame.emitStmt nested stmt) before := by
  cases stmt with
  | decl id => exact (Keeps.emitLocalDecl below id before).flows _
  | block stmts span => exact Flows.emitStmts below owned stmts occurs before
  | returned value span =>
    have value_occurs : ∀ expr ∈ value, frame.program.Occurs expr := by
      intro expr given
      exact occurs expr (by simpa [Stmt.exprs] using given)
    intro ready flow after done
    obtain ⟨_, between, ran, done⟩ := (run_bind _ _ _ _ _).mp done
    obtain ⟨rfl, rfl⟩ := (run_pure _ _ _ _).mp done
    cases constructs : routine.isConstructor with
    | true =>
      obtain ⟨ready, steady, _⟩ :=
        Keeps.emitReturn value value_occurs owned constructs before ready _ _ ran
      simpa [Left] using ⟨ready, steady⟩
    | false =>
      simpa [Left] using Finishes.emitReturn value value_occurs owned constructs before ready _ _ ran
  | expr value =>
    exact (Keeps.emitValue value (occurs value (List.mem_singleton_self _)) before).discard.flows _

theorem Flows.emitStmts {nested : DeclId → PassM Unit}
    (below : policy.VisitsAll nested) {routine : Routine}
    (owned : frame.routine = .ok routine) (stmts : List Stmt)
    (occurs : ∀ expr ∈ Stmt.exprsAll stmts, frame.program.Occurs expr) (before : Activation) :
    policy.Flows routine.isConstructor (frame.emitStmts nested stmts) before := by
  cases stmts with
  | nil =>
    intro ready flow after done
    obtain ⟨rfl, rfl⟩ := (run_pure _ _ _ _).mp done
    simpa [Left] using ⟨ready, Pass.Steady.refl before.pass⟩
  | cons stmt rest =>
    have first := Flows.emitStmt below owned stmt
      (fun expr listed => occurs expr (List.mem_append.mpr (Or.inl listed))) before
    have later := Flows.emitStmts below owned rest
      (fun expr listed => occurs expr (List.mem_append.mpr (Or.inr listed)))
    intro ready flow after done
    obtain ⟨left, between, ran, ⟨rfl, done⟩ | ⟨_, rfl, rfl⟩ | ⟨returned, rfl, next, warned⟩⟩ :=
      Frame.run_emitStmts_cons done
    · have left_first := first ready .fallthrough between ran
      simp only [Left, or_true, if_true] at left_first
      exact (later between left_first.1 flow after done).trans left_first.2
    · exact first ready _ _ ran
    · exact (first ready left between ran).warn returned warned

end

end Policy

end Lowering
