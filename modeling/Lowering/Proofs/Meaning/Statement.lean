import Lowering.Proofs.Meaning.Expression
import Lowering.Proofs.Pass.Statement

/-
This file shows that the lowering of statements does what the statements do. A return ends the
block, unless a constructor goes on to return its receiver.
-/

namespace Lowering

open IR

namespace Job.Live

variable {job : Job} {start machine : Machine} {before : Activation} {store : Store}

/-- What is reported does not matter. -/
theorem withReport (live : job.Live start before store machine) (report : Report) :
    job.Live start { before with pass := { before.pass with report := report } } store machine :=
  ⟨⟨⟨live.ready.working.formed, live.ready.working.opened⟩, live.ready.holds, live.ready.locals⟩,
    live.executes, live.mirrors⟩

end Job.Live

namespace Frame

variable {frame : Frame} {start machine : Machine} {before after : Activation} {store : Store}
  {expr : Expr} {location : Value}

theorem follows_emitValue (free : frame.program.isCallFree expr = true)
    (occurs : frame.program.Occurs expr) :
    frame.Follows start expr (frame.emitValue expr) :=
  follows_emitWith (Program.isPlain_of_isCallFree free) (evaluates_value expr free occurs)

/-- A new variable has a cell of its own, and is undefined. -/
theorem emitLocalVar_live {id : DeclId} {decl : Decl}
    (live : frame.toJob.Live start before store machine)
    (found : frame.program.decl id = .ok decl) (plain : decl.ty.isPlain = true)
    (done : frame.emitLocalVar id before = .ok location after) :
    ∃ later, frame.toJob.Live start after (store.put id .undefined) later ∧
      later.Leads after.locals location id [] := by
  obtain ⟨ready, _, _⟩ :=
    @Policy.Keeps.emitLocalVar _ (naming frame.toJob) id before live.ready location after done
  obtain ⟨again, given, ⟨flawed, _⟩ | ⟨_, _, ty, builder, contextual, allocated, rfl⟩⟩ :=
    run_emitLocalVar done
  · obtain rfl := Option.some.inj ((Program.decl_eq_ok.mp found).symm.trans given)
    rw [Ty.isError_of_isPlain plain] at flawed
    cases flawed
  · obtain rfl := Option.some.inj ((Program.decl_eq_ok.mp found).symm.trans given)
    obtain rfl := contextualize_of_isPlain plain contextual
    obtain ⟨later, cell, roomy, _, points, concrete, mirrors⟩ :=
      live.bind_room (Ty.isExistential_of_isPlain plain) id
        ((lift_body _ _ _ _).mpr ⟨builder, allocated, rfl⟩)
    exact ⟨later, ⟨ready, roomy.executes, mirrors⟩, location, cell, by simp, points, points,
      concrete⟩

/-- A local binding does what the statement does. -/
theorem emitBinding_exec {id : DeclId} {decl : Decl} {binding : Binding}
    (live : frame.toJob.Live start before store machine)
    (elementary : frame.program.isLocalBinding id = true)
    (found : frame.program.decl id = .ok decl) (kind : decl.kind = .binding binding) {given : Unit}
    (done : frame.emitBinding binding before = .ok given after)
    (accepted : after.pass.report.containsError = false) :
    ∃ left later, frame.program.exec store (.decl id) = some ⟨left, none⟩ ∧
      frame.toJob.Live start after left later := by
  obtain ⟨own, same, var, variable_, declared, own_kind, single, names, typed, plain, free⟩ :=
    Program.exists_of_isLocalBinding elementary
  obtain rfl := Except.ok.inj (declared.symm.trans found)
  obtain rfl : same = binding := by simpa [own_kind] using kind
  unfold emitBinding at done
  rw [Pattern.names_of_single? single, single] at done
  simp only [List.mapM_cons, List.mapM_nil] at done
  obtain ⟨locations, between, ran, done⟩ := (run_bind _ _ _ _ _).mp done
  obtain ⟨location, first, placed, ran⟩ := (run_bind _ _ _ _ _).mp ran
  obtain ⟨_, second, nothing, ran⟩ := (run_bind _ _ _ _ _).mp ran
  obtain ⟨rfl, rfl⟩ := (run_pure _ _ _ _).mp nothing
  obtain ⟨rfl, rfl⟩ := (run_pure _ _ _ _).mp ran
  obtain ⟨next, live, leads⟩ := emitLocalVar_live live typed plain placed
  cases initial : same.initializer with
  | none =>
    simp only [initial] at done
    obtain ⟨_, rfl⟩ := (run_pure _ _ _ _).mp done
    exact ⟨store.put var .undefined, next, by simp [Program.exec, names, initial], live⟩
  | some initializer =>
    simp only [initial] at done
    have occurs := Program.occurs_initializer found own_kind initial
    have free := free initializer initial
    obtain ⟨tree, left, old, later, means, _, live, _, _⟩ :=
      assignWith_eval free (follows_emitValue free occurs) live leads done accepted
    exact ⟨left.put var tree, later, by simp [Program.exec, names, initial, means], live⟩

/-- Where a body stands once its statements were carried out as far as the progress says. -/
inductive Meets (frame : Frame) (constructs : Bool) (start : Machine) (progress : Progress) :
    Flow → Activation → Prop
  | falls {after : Activation} {machine : Machine} (open_ : progress.returned = none)
      (live : frame.toJob.Live start after progress.store machine) :
      Meets frame constructs start progress .fallthrough after
  /-- A constructor goes on to return its receiver. -/
  | goes {flow : Flow} {after : Activation} {tree : Tree} {machine : Machine}
      (left : flow ≠ .fallthrough) (ended : progress.returned = some tree)
      (constructor_ : constructs = true)
      (live : frame.toJob.Live start after progress.store machine) :
      Meets frame constructs start progress flow after
  | ends {flow : Flow} {after : Activation} {tree : Tree} (left : flow ≠ .fallthrough)
      (ended : progress.returned = some tree) (ordinary : constructs = false)
      (ends : after.pass.Ends start (.returned tree)) :
      Meets frame constructs start progress flow after

namespace Meets

variable {constructs : Bool} {progress : Progress} {flow : Flow}

/-- A flow other than the fall through tells of a return. -/
theorem exists_returned (meets : frame.Meets constructs start progress flow after)
    (left : flow ≠ .fallthrough) : ∃ tree, progress.returned = some tree := by
  cases meets with
  | falls => exact (left rfl).elim
  | goes _ ended _ _ => exact ⟨_, ended⟩
  | ends _ ended _ _ => exact ⟨_, ended⟩

/-- Code that is never executed is warned of, and nothing else happens. -/
theorem warn {stmt : Stmt} {given : Unit} (meets : frame.Meets constructs start progress flow before)
    (left : flow ≠ .fallthrough) (done : frame.warnUnreachable stmt before = .ok given after) :
    frame.Meets constructs start progress .unreachable after := by
  have warned : ∃ report, after = { before with pass := { before.pass with report := report } } := by
    rcases Policy.run_warnUnreachable done with rfl | ⟨span, rfl⟩
    · exact ⟨after.pass.report, rfl⟩
    · exact ⟨_, rfl⟩
  obtain ⟨report, rfl⟩ := warned
  cases meets with
  | falls => exact (left rfl).elim
  | goes _ ended constructor_ live =>
    exact .goes (by decide) ended constructor_ (live.withReport report)
  | ends _ ended ordinary ends => exact .ends (by decide) ended ordinary ends

end Meets

/-- A return evaluates its operand, and ends the block unless a constructor does it. -/
theorem emitReturn_exec {value : Option Expr} {routine : Routine} {given : Unit} {span : Span}
    (live : frame.toJob.Live start before store machine) (owned : frame.routine = .ok routine)
    (typed : ∀ result, frame.returnType = .ok result → result.isPlain = true)
    (free : ∀ expr ∈ value, frame.program.isCallFree expr = true)
    (occurs : ∀ expr ∈ value, frame.program.Occurs expr)
    (done : frame.emitReturn value before = .ok given after)
    (accepted : after.pass.report.containsError = false) :
    ∃ progress, frame.program.exec store (.returned value span) = some progress ∧
      frame.Meets routine.isConstructor start progress .returned after := by
  obtain ⟨again, owned_again, done⟩ := (run_ask_bind _ _ _ _ _).mp done
  obtain rfl := Except.ok.inj (owned.symm.trans owned_again)
  cases constructs : routine.isConstructor with
  | true =>
    simp only [constructs, if_true] at done
    cases value with
    | none =>
      obtain ⟨_, rfl⟩ := (run_pure _ _ _ _).mp done
      exact ⟨_, rfl, .goes (by decide) rfl rfl live⟩
    | some expr =>
      obtain ⟨result, ran, _⟩ := (run_map _ _ _ _ _).mp done
      obtain ⟨tree, left, later, means, live, _⟩ :=
        follows_emitValue (free expr rfl) (occurs expr rfl) before store machine result after live
          ran accepted
      exact ⟨⟨left, some tree⟩, by simp [Program.exec, means], .goes (by decide) rfl rfl live⟩
  | false =>
    simp only [constructs, Bool.false_eq_true, if_false] at done
    obtain ⟨result, returns, done⟩ := (run_ask_bind _ _ _ _ _).mp done
    cases value with
    | none =>
      simp only [pure_bind] at done
      exact ⟨_, rfl, .ends (by decide) rfl rfl (live.ret rfl done)⟩
    | some expr =>
      have plain := typed result returns
      have direct : frame.needsCoercion expr result = .ok false := by
        unfold needsCoercion
        rw [Ty.isExistential_of_isPlain plain]
        rfl
      obtain ⟨coerced, needed, done⟩ := (run_ask_bind _ _ _ _ _).mp done
      obtain rfl := Except.ok.inj (direct.symm.trans needed)
      simp only [Bool.false_eq_true, if_false] at done
      obtain ⟨returned, between, ran, done⟩ := (run_bind _ _ _ _ _).mp done
      rw [(builds_of_lift done).report] at accepted
      obtain ⟨tree, left, later, means, live, _, _, word⟩ :=
        follows_emitValue (free expr rfl) (occurs expr rfl) before store machine returned between
          live ran accepted
      exact ⟨⟨left, some tree⟩, by simp [Program.exec, means],
        .ends (by decide) rfl rfl (live.ret word done)⟩

mutual

/-- A statement is lowered to what it does. -/
theorem emitStmt_exec {nested : DeclId → PassM Unit}
    (below : (naming frame.toJob).VisitsAll nested)
    {routine : Routine} (owned : frame.routine = .ok routine)
    (typed : ∀ result, frame.returnType = .ok result → result.isPlain = true) (stmt : Stmt)
    (elementary : frame.program.isElementary stmt = true)
    (occurs : ∀ expr ∈ stmt.exprs, frame.program.Occurs expr) {before after : Activation}
    {store : Store} {machine : Machine} {flow : Flow}
    (live : frame.toJob.Live start before store machine)
    (done : frame.emitStmt nested stmt before = .ok flow after)
    (accepted : after.pass.report.containsError = false) :
    ∃ progress, frame.program.exec store stmt = some progress ∧
      frame.Meets routine.isConstructor start progress flow after := by
  cases stmt with
  | decl id =>
    obtain ⟨_, between, ran, done⟩ := (run_bind _ _ _ _ _).mp done
    obtain ⟨rfl, rfl⟩ := (run_pure _ _ _ _).mp done
    obtain ⟨decl, found, ran⟩ := (run_ask_bind _ _ _ _ _).mp ran
    have found := (lift_answer _ _).mp found
    have elementary : frame.program.isLocalBinding id = true := elementary
    obtain ⟨own, binding, _, _, declared, kind, _⟩ := Program.exists_of_isLocalBinding elementary
    obtain rfl := Except.ok.inj (declared.symm.trans found)
    simp only [kind] at ran
    obtain ⟨left, later, means, live⟩ := emitBinding_exec live elementary found kind ran accepted
    exact ⟨⟨left, none⟩, means, .falls rfl live⟩
  | block stmts span => exact emitStmts_exec below owned typed stmts elementary occurs live done accepted
  | returned value span =>
    obtain ⟨_, between, ran, done⟩ := (run_bind _ _ _ _ _).mp done
    obtain ⟨rfl, rfl⟩ := (run_pure _ _ _ _).mp done
    have free : ∀ expr ∈ value, frame.program.isCallFree expr = true := by
      simpa [Program.isElementary, Option.all_eq_true] using elementary
    refine emitReturn_exec live owned typed free ?_ ran accepted
    intro expr given
    exact occurs expr (by simpa [Stmt.exprs] using given)
  | expr value =>
    obtain ⟨_, between, ran, done⟩ := (run_bind _ _ _ _ _).mp done
    obtain ⟨rfl, rfl⟩ := (run_pure _ _ _ _).mp done
    obtain ⟨result, ran, _⟩ := (run_map _ _ _ _ _).mp ran
    obtain ⟨tree, left, later, means, live, _⟩ :=
      follows_emitValue elementary (occurs value (List.mem_singleton_self _)) before store machine
        result between live ran accepted
    exact ⟨⟨left, none⟩, by simp [Program.exec, means], .falls rfl live⟩

theorem emitStmts_exec {nested : DeclId → PassM Unit}
    (below : (naming frame.toJob).VisitsAll nested)
    {routine : Routine} (owned : frame.routine = .ok routine)
    (typed : ∀ result, frame.returnType = .ok result → result.isPlain = true) (stmts : List Stmt)
    (elementary : frame.program.areElementary stmts = true)
    (occurs : ∀ expr ∈ Stmt.exprsAll stmts, frame.program.Occurs expr) {before after : Activation}
    {store : Store} {machine : Machine} {flow : Flow}
    (live : frame.toJob.Live start before store machine)
    (done : frame.emitStmts nested stmts before = .ok flow after)
    (accepted : after.pass.report.containsError = false) :
    ∃ progress, frame.program.execAll store stmts = some progress ∧
      frame.Meets routine.isConstructor start progress flow after := by
  cases stmts with
  | nil =>
    obtain ⟨rfl, rfl⟩ := (run_pure _ _ _ _).mp done
    exact ⟨⟨store, none⟩, rfl, .falls rfl live⟩
  | cons stmt rest =>
    simp only [Program.areElementary, Bool.and_eq_true] at elementary
    have first_occurs : ∀ expr ∈ stmt.exprs, frame.program.Occurs expr :=
      fun expr listed => occurs expr (List.mem_append.mpr (Or.inl listed))
    have rest_occurs : ∀ expr ∈ Stmt.exprsAll rest, frame.program.Occurs expr :=
      fun expr listed => occurs expr (List.mem_append.mpr (Or.inr listed))
    have statement (left : Flow) (between : Activation)
        (ran : frame.emitStmt nested stmt before = .ok left between)
        (accepted : between.pass.report.containsError = false) :=
      emitStmt_exec below owned typed stmt elementary.1 first_occurs live ran accepted
    obtain ⟨left, between, ran, ⟨rfl, done⟩ | ⟨returned, rfl, rfl⟩ | ⟨returned, rfl, next, warned⟩⟩ :=
      run_emitStmts_cons done
    · have first := Policy.Flows.emitStmt below owned stmt first_occurs before live.ready
        .fallthrough between ran
      simp only [Policy.Left, or_true, if_true] at first
      have rest_left :=
        Policy.Flows.emitStmts below owned rest rest_occurs between first.1 flow after done
      obtain ⟨progress, means, meets⟩ :=
        statement .fallthrough between ran (rest_left.grows.accepted accepted)
      cases meets with
      | falls open_ live =>
        rw [Program.execAll_of_none rest means open_]
        exact emitStmts_exec below owned typed rest elementary.2 rest_occurs live done accepted
      | goes left => exact (left rfl).elim
      | ends left => exact (left rfl).elim
    -- The code after a return is dead in both, so at most a warning follows.
    · obtain ⟨progress, means, meets⟩ := statement left between ran accepted
      obtain ⟨tree, ended⟩ := meets.exists_returned returned
      exact ⟨progress, Program.execAll_of_some rest means ended, meets⟩
    · obtain ⟨progress, means, meets⟩ :=
        statement left between ran ((Policy.grows_of_warn warned).accepted accepted)
      obtain ⟨tree, ended⟩ := meets.exists_returned returned
      exact ⟨progress, Program.execAll_of_some rest means ended, meets.warn returned warned⟩

end

end Frame

end Lowering
