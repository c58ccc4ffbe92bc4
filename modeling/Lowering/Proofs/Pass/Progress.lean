import Lowering.Proofs.Pass.Opening
import Lowering.Proofs.Program.Nesting
import Lowering.Proofs.TypePreservation

/-
This file follows a function body up to one of its declarations. What is bound stays bound, so the
locals there hold the arguments of the function and whatever was declared on the way.
-/

namespace Lowering

open IR

/--
What is bound once a declaration of a body is lowered: the variables of a pattern, and a function
that captures something.
-/
inductive Program.Supplies (program : Program) (id : DeclId) : DeclId → Prop
  | variable {decl : Decl} {name : DeclId} (found : program.find? id = some decl)
    (named : name ∈ decl.introduced) : Supplies program id name
  | function {decl : Decl} {routine : Routine} {captures : List DeclId}
    (found : program.find? id = some decl) (holds : decl.routine? = some routine)
    (ordinary : routine.isBuiltin = false) (captured : program.captures id = .ok captures)
    (nonempty : captures ≠ []) : Supplies program id id

/-- Something is bound to the declaration. -/
def Locals.Has (locals : Locals) (id : DeclId) : Prop := (locals.get? id).isSome = true

theorem Locals.Has.insert {locals : Locals} {id : DeclId} (has : locals.Has id) (other : DeclId)
    (value : Value) : Locals.Has (locals.insert other value) id := by
  unfold Locals.Has at *
  by_cases same : id = other
  · rw [same, Table.get?_insert_self]
    rfl
  · rwa [Table.get?_insert_of_ne _ _ _ _ same]

theorem Locals.Has.self (locals : Locals) (id : DeclId) (value : Value) :
    Locals.Has (locals.insert id value) id := by
  unfold Locals.Has
  rw [Table.get?_insert_self]
  rfl

namespace Frame

variable {frame : Frame} {nested : DeclId → PassM Unit}

/-- Lowering the statements comes to the declaration, after it has lowered others. -/
inductive ComesTo (frame : Frame) (nested : DeclId → PassM Unit) (id : DeclId) :
    List Stmt → Activation → List DeclId → Activation → Prop
  | here {rest : List Stmt} {start : Activation} :
    ComesTo frame nested id (.decl id :: rest) start [] start
  | block {stmts rest : List Stmt} {span : Span} {start reached : Activation}
    {lowered : List DeclId} (inside : ComesTo frame nested id stmts start lowered reached) :
    ComesTo frame nested id (.block stmts span :: rest) start lowered reached
  | later {stmt : Stmt} {rest : List Stmt} {start between reached : Activation}
    {lowered : List DeclId} (done : frame.emitStmt nested stmt start = .ok .fallthrough between)
    (comes : ComesTo frame nested id rest between lowered reached) :
    ComesTo frame nested id (stmt :: rest) start (stmt.declared ++ lowered) reached

mutual

/-- A body that is lowered comes to everything that it declares, as far as it is lowered. -/
theorem emitStmt_comes {stmt : Stmt} {id : DeclId} (inside : id ∈ stmt.declared)
    {start after : Activation} {flow : Flow} (done : frame.emitStmt nested stmt start = .ok flow after)
    (rest : List Stmt) : ∃ lowered reached next,
      frame.ComesTo nested id (stmt :: rest) start lowered reached ∧
        frame.emitLocalDecl nested id reached = .ok () next := by
  cases stmt with
  | decl own =>
    obtain rfl := List.mem_singleton.mp inside
    obtain ⟨_, next, ran, _⟩ := (run_bind _ _ _ _ _).mp done
    exact ⟨[], start, next, .here, ran⟩
  | block stmts span =>
    obtain ⟨lowered, reached, next, comes, ran⟩ := emitStmts_comes inside done
    exact ⟨lowered, reached, next, .block comes, ran⟩
  | returned | expr => cases inside

theorem emitStmts_comes {stmts : List Stmt} {id : DeclId} (inside : id ∈ Stmt.declaredAll stmts)
    {start after : Activation} {flow : Flow}
    (done : frame.emitStmts nested stmts start = .ok flow after) : ∃ lowered reached next,
      frame.ComesTo nested id stmts start lowered reached ∧
        frame.emitLocalDecl nested id reached = .ok () next := by
  cases stmts with
  | nil => cases inside
  | cons stmt rest =>
    obtain ⟨left, between, ran, continues⟩ := run_emitStmts_cons done
    rcases List.mem_append.mp inside with first | later
    · exact emitStmt_comes first ran rest
    · have flows := run_emitStmt_flow stmt ran
      split at later
      · cases later
      next falls =>
        obtain rfl := flows.mpr (by simpa using falls)
        rcases continues with ⟨_, done⟩ | ⟨impossible, _⟩ | ⟨impossible, _⟩
        · obtain ⟨lowered, reached, next, comes, found⟩ := emitStmts_comes later done
          exact ⟨_, reached, next, .later ran comes, found⟩
        · exact (impossible rfl).elim
        · exact (impossible rfl).elim

end

/-- What is bound stays bound throughout a step that keeps every invariant. -/
theorem has_of_continues {A : Type} {step : BodyM A} {value : A} {before after : Activation}
    {id : DeclId}
    (continues : (Invariant.unconditional frame.toJob).Continues (Locals.Has · id) step)
    (has : before.locals.Has id) (done : step before = .ok value after) : after.locals.Has id :=
  (continues.ok before value after ⟨trivial, has⟩ done).1.2

variable {id : DeclId} {before after : Activation} {flow : Flow}

theorem footing : (Invariant.unconditional frame.toJob).Footing (Locals.Has · id) fun _ => True :=
  .of_free (Invariant.unconditional_free _) fun has _ => has.insert _ _

theorem emitStmt_has (stmt : Stmt) (has : before.locals.Has id)
    (done : frame.emitStmt nested stmt before = .ok flow after) : after.locals.Has id := by
  refine has_of_continues (Invariant.continues_emitStmt _ footing
    (fun _ => ⟨fun _ _ _ _ _ => ⟨trivial, trivial⟩, fun _ _ _ _ _ => trivial⟩) stmt ?_) has done
  exact fun _ _ => trivial

theorem emitStmts_has (stmts : List Stmt) (has : before.locals.Has id)
    (done : frame.emitStmts nested stmts before = .ok flow after) : after.locals.Has id := by
  refine has_of_continues (Invariant.continues_emitStmts _ footing
    (fun _ => ⟨fun _ _ _ _ _ => ⟨trivial, trivial⟩, fun _ _ _ _ _ => trivial⟩) stmts ?_) has done
  exact fun _ _ => trivial

/-- A variable is bound to the location that it gets. -/
theorem locals_emitLocalVar {id : DeclId} {location : Value} {before after : Activation}
    (done : frame.emitLocalVar id before = .ok location after) :
    after.locals = before.locals.insert id location := by
  obtain ⟨_, _, ⟨_, _, rfl⟩ | ⟨_, _, _, _, _, _, rfl⟩⟩ := run_emitLocalVar done
  · rfl
  · rfl

/-- The names of a pattern are bound before its initializer is lowered. -/
theorem mapM_emitLocalVar_has (ids : List DeclId) {locations : List Value}
    {before after : Activation}
    (done : ids.mapM frame.emitLocalVar before = .ok locations after) {id : DeclId}
    (either : before.locals.Has id ∨ id ∈ ids) : after.locals.Has id := by
  induction ids generalizing before locations with
  | nil =>
    obtain ⟨_, rfl⟩ := (run_pure _ _ _ _).mp done
    exact either.resolve_right List.not_mem_nil
  | cons first rest rest_ih =>
    obtain ⟨location, between, others, ran, mapped, rfl⟩ := (run_mapM_cons _ _ _ _ _ _).mp done
    refine rest_ih mapped ?_
    rw [List.mem_cons, ← or_assoc] at either
    refine either.imp_left fun first => ?_
    rw [locals_emitLocalVar ran]
    rcases first with has | rfl
    · exact has.insert _ _
    · exact .self _ _ _

theorem emitBinding_has {binding : Binding} {before after : Activation} {value : Unit}
    (done : frame.emitBinding binding before = .ok value after) {id : DeclId}
    (named : id ∈ binding.pattern.names) : after.locals.Has id := by
  let kept := Invariant.unconditional frame.toJob
  obtain ⟨locations, between, mapped, done⟩ := (run_bind _ _ _ _ _).mp done
  have has := mapM_emitLocalVar_has _ mapped (Or.inr named)
  cases given : binding.initializer with
  | none =>
    rw [given] at done
    obtain ⟨_, rfl⟩ := (run_pure _ _ _ _).mp done
    exact has
  | some initializer =>
    simp only [given] at done
    generalize binding.pattern.single? = single at done
    cases single <;> cases locations
    case none.nil =>
      obtain ⟨_, ran, _⟩ := (run_map _ _ _ _ _).mp done
      have evaluated : kept.Continues (Locals.Has · id) (frame.emitValue initializer) :=
        .evaluate _ fun _ known => kept.emitValue (footing.covers known) initializer
      exact has_of_continues evaluated has ran
    case some.cons location _ =>
      have assigned : kept.Continues (Locals.Has · id) (frame.emitAssign initializer location) :=
        .evaluate _ fun _ known => kept.emitAssign (footing.covers known) initializer location
      exact has_of_continues assigned has done
    all_goals exact ((run_ask_abort _ _ _ _).mp done).elim

/-- A function that a body declares is lowered, and its closure is built after that. -/
theorem run_emitLocalDecl_function {id : DeclId} {decl : Decl} {routine : Routine}
    {before after : Activation} (found : frame.program.find? id = some decl)
    (holds : decl.routine? = some routine) (ordinary : routine.isBuiltin = false)
    (done : frame.emitLocalDecl nested id before = .ok () after) :
    frame.emitLocalFunction nested id before = .ok () after := by
  obtain ⟨again, present, done⟩ := (run_ask_bind _ _ _ _ _).mp done
  obtain rfl := Option.some.inj
    (found.symm.trans (Program.decl_eq_ok.mp ((lift_answer _ _).mp present)))
  cases kind : decl.kind with
  | function own =>
    rw [Decl.routine?, kind] at holds
    obtain rfl := Option.some.inj holds
    simpa only [kind, ordinary, Bool.not_false, if_true] using done
  | _ =>
    rw [Decl.routine?, kind] at holds
    cases holds

/-- A function that captures something is bound to its closure. -/
theorem bindClosure_has {id : DeclId} {captures : List DeclId}
    (captured : frame.program.captures id = .ok captures) (nonempty : captures ≠ [])
    {before after : Activation} {value : Unit}
    (done : frame.bindClosure id before = .ok value after) : after.locals.Has id := by
  obtain ⟨again, given, done⟩ := (run_ask_bind _ _ _ _ _).mp done
  obtain rfl := Except.ok.inj (captured.symm.trans ((lift_answer _ _).mp given))
  rw [if_pos (by simpa using nonempty)] at done
  obtain ⟨decl, _, done⟩ := (run_ask_bind _ _ _ _ _).mp done
  obtain ⟨args, _, _, done⟩ := (run_bind _ _ _ _ _).mp done
  obtain ⟨function, _, _, done⟩ := (run_bind _ _ _ _ _).mp done
  obtain ⟨ty, _, done⟩ := (run_ask_bind _ _ _ _ _).mp done
  obtain ⟨location, _, _, done⟩ := (run_bind _ _ _ _ _).mp done
  obtain ⟨closure, _, _, done⟩ := (run_bind _ _ _ _ _).mp done
  obtain ⟨_, _, _, done⟩ := (run_bind _ _ _ _ _).mp done
  obtain rfl := (run_modify _ _ _ _).mp done
  exact .self _ _ _

theorem emitLocalDecl_has {id other : DeclId} (supplies : frame.program.Supplies id other)
    {before after : Activation} (done : frame.emitLocalDecl nested id before = .ok () after) :
    after.locals.Has other := by
  cases supplies with
  | @«variable» decl _ present named =>
    obtain ⟨again, found, done⟩ := (run_ask_bind _ _ _ _ _).mp done
    obtain rfl := Option.some.inj
      (present.symm.trans (Program.decl_eq_ok.mp ((lift_answer _ _).mp found)))
    cases kind : decl.kind with
    | binding binding =>
      rw [kind] at done
      rw [Decl.introduced, kind] at named
      exact emitBinding_has done named
    | _ =>
      rw [Decl.introduced, kind] at named
      cases named
  | function present holds ordinary captured nonempty =>
    obtain ⟨_, between, _, done⟩ :=
      (run_bind _ _ _ _ _).mp (run_emitLocalDecl_function present holds ordinary done)
    exact bindClosure_has captured nonempty done

mutual

/-- Whatever a statement declares is there after it, unless it returned before. -/
theorem emitStmt_binds {stmt : Stmt} {id other : DeclId} (inside : id ∈ stmt.declared)
    (supplies : frame.program.Supplies id other) {before after : Activation} {flow : Flow}
    (done : frame.emitStmt nested stmt before = .ok flow after) : after.locals.Has other := by
  cases stmt with
  | decl own =>
    obtain rfl := List.mem_singleton.mp inside
    obtain ⟨_, next, ran, same⟩ := (run_bind _ _ _ _ _).mp done
    obtain ⟨_, rfl⟩ := (run_pure _ _ _ _).mp same
    exact emitLocalDecl_has supplies ran
  | block stmts span => exact emitStmts_binds inside supplies done
  | returned | expr => cases inside

theorem emitStmts_binds {stmts : List Stmt} {id other : DeclId}
    (inside : id ∈ Stmt.declaredAll stmts) (supplies : frame.program.Supplies id other)
    {before after : Activation} {flow : Flow}
    (done : frame.emitStmts nested stmts before = .ok flow after) : after.locals.Has other := by
  cases stmts with
  | nil => cases inside
  | cons stmt rest =>
    obtain ⟨left, between, ran, continues⟩ := run_emitStmts_cons done
    rcases List.mem_append.mp inside with first | later
    · have has := emitStmt_binds first supplies ran
      rcases continues with ⟨_, done⟩ | ⟨_, _, rfl⟩ | ⟨_, _, next, warned⟩
      · exact emitStmts_has rest has done
      · exact has
      · exact has_of_continues (Invariant.continues_warnUnreachable _ next) has warned
    · have flows := run_emitStmt_flow stmt ran
      split at later
      · cases later
      next falls =>
        obtain rfl := flows.mpr (by simpa using falls)
        rcases continues with ⟨_, done⟩ | ⟨impossible, _⟩ | ⟨impossible, _⟩
        · exact emitStmts_binds later supplies done
        · exact (impossible rfl).elim
        · exact (impossible rfl).elim

end

theorem ComesTo.has {stmts : List Stmt} {start reached : Activation} {lowered : List DeclId}
    {target : DeclId} (comes : frame.ComesTo nested id stmts start lowered reached)
    (has : start.locals.Has target) : reached.locals.Has target := by
  induction comes with
  | here => exact has
  | block _ inside_ih => exact inside_ih has
  | later done _ comes_ih => exact comes_ih (emitStmt_has _ has done)

/-- What was lowered on the way has been bound. -/
theorem ComesTo.supplies {stmts : List Stmt} {start reached : Activation} {lowered : List DeclId}
    {other target : DeclId} (comes : frame.ComesTo nested id stmts start lowered reached)
    (inside : other ∈ lowered) (supplies : frame.program.Supplies other target) :
    reached.locals.Has target := by
  induction comes with
  | here => cases inside
  | block _ inside_ih => exact inside_ih inside
  | later done comes comes_ih =>
    rcases List.mem_append.mp inside with first | later
    · exact comes.has (emitStmt_binds first supplies done)
    · exact comes_ih later

end Frame

namespace Job

variable {job : Job} {name : String} {target : DeclId}

theorem bindArguments_has (ids : List DeclId) {locals bound : Locals} {args : List Value}
    (done : job.bindArguments name locals ids args = .ok bound)
    (either : locals.Has target ∨ target ∈ ids) : bound.Has target := by
  induction ids generalizing locals args with
  | nil =>
    obtain rfl := bindArguments_nil.mp done
    exact either.resolve_right List.not_mem_nil
  | cons first rest rest_ih =>
    obtain ⟨arg, others, rfl, done⟩ := bindArguments_cons.mp done
    refine rest_ih done ?_
    rw [List.mem_cons, ← or_assoc] at either
    refine either.imp_left fun first => ?_
    rcases first with has | rfl
    · exact has.insert _ _
    · exact .self _ _ _

theorem bindReceiver_has {routine : Routine} {args others : List Value} {locals : Locals}
    {before after : Pass}
    (done : job.bindReceiver name routine args before = .ok (locals, others) after)
    (receives : routine.self = some target) : locals.Has target := by
  rcases bindReceiver_cases done with ⟨bare, _⟩ | ⟨self, receiver, own, _, _, rfl, _⟩ |
    ⟨self, decl, location, builder, own, _, _, _, _, rfl, _⟩
  · cases bare.symm.trans receives
  all_goals
    obtain rfl := Option.some.inj (own.symm.trans receives)
    exact .self _ _ _

/-- A body starts with its receiver, its captures and its parameters. -/
theorem enter_has {id : DeclId} {routine : Routine} {signature : Signature} {before after : Pass}
    {locals : Locals} {captures : List DeclId} (captured : job.program.captures id = .ok captures)
    (done : job.enter id routine name signature before = .ok locals after)
    (given : routine.self = some target ∨ target ∈ captures ++ routine.params) :
    locals.Has target := by
  obtain ⟨label, args, builder, start, others, again, _, bound, known, arguments⟩ := run_enter done
  obtain rfl := Except.ok.inj (captured.symm.trans known)
  exact bindArguments_has _ arguments (given.imp_left (bindReceiver_has bound))

/-- The body of a function is lowered up to a declaration in it. -/
inductive Interrupts (job : Job) (nested : DeclId → PassM Unit) (id : DeclId) (start : Pass)
    (name : String) (inner : DeclId) (reached : Activation) : Prop
  | intro {decl : Decl} {routine : Routine} {body : Body} {reference : Value} {middle : Pass}
    {function : Function} {locals : Locals} {entered : Pass} {lowered : List DeclId}
    (found : job.program.decl id = .ok decl) (listed : decl.routine? = some routine)
    (given : routine.body = some body) (ordinary : routine.isBuiltin = false)
    (declares : job.declare id start = .ok reference middle)
    (assigned : middle.names.assigned.get? id = some name)
    (present : middle.builder.module.function? name = some function)
    (empty : function.isDeclaration = true)
    (enters : job.enter id routine name function.signature middle = .ok locals entered)
    (comes : Frame.ComesTo ⟨job, id⟩ nested inner body.stmts ⟨entered, locals⟩ lowered reached) :
    Interrupts job nested id start name inner reached

/-- A function that is lowered is interrupted by whatever its body declares, as far as it goes. -/
theorem emitRoutine_interrupts {id inner : DeclId} {decl : Decl} {routine : Routine} {body : Body}
    {nested : DeclId → PassM Unit} {before after : Pass}
    (found : job.program.find? id = some decl) (listed : decl.routine? = some routine)
    (given : routine.body = some body) (ordinary : routine.isBuiltin = false)
    (inside : inner ∈ Stmt.declaredAll body.stmts)
    (done : job.emitRoutine nested id before = .ok () after) :
    ∃ name reached next, job.Interrupts nested id before name inner reached ∧
      Frame.emitLocalDecl ⟨job, id⟩ nested inner reached = .ok () next := by
  obtain ⟨again, own, present, holds, cases⟩ := run_emitRoutine_cases done
  obtain rfl := Option.some.inj (found.symm.trans (Program.decl_eq_ok.mp present))
  obtain rfl := Option.some.inj (listed.symm.trans holds)
  have filled : routine.isFilled = true := by simp [Routine.isFilled, ordinary, given]
  obtain ⟨built, _⟩ | ⟨_, _, start, name, function, declares, assigned, there, bare | fills⟩ := cases
  · cases ordinary.symm.trans built
  · cases filled.symm.trans bare.1
  obtain ⟨_, empty, last, fills, _⟩ := fills
  rw [fill_eq_enter] at fills
  obtain ⟨locals, entered, enters, fills⟩ := (run_bind _ _ _ _ _).mp fills
  obtain ⟨ending, ran, _⟩ := (run_activate _ _ _ _ _).mp fills
  simp only [Frame.emitBody, given] at ran
  obtain ⟨_, between, ran, _⟩ := (run_bind _ _ _ _ _).mp ran
  obtain ⟨flow, ran, _⟩ := (run_map _ _ _ _ _).mp ran
  obtain ⟨lowered, reached, next, comes, ran⟩ := Frame.emitStmts_comes inside ran
  exact ⟨name, reached, next,
    ⟨present, listed, given, ordinary, declares, assigned, there, empty, enters, comes⟩, ran⟩

/-- A function that is lowered comes to whatever its body declares, as far as it is lowered. -/
theorem emitRoutine_comes {id inner : DeclId} {decl : Decl} {routine : Routine} {body : Body}
    {nested : DeclId → PassM Unit} {before after : Pass}
    (found : job.program.find? id = some decl) (listed : decl.routine? = some routine)
    (given : routine.body = some body) (ordinary : routine.isBuiltin = false)
    (inside : inner ∈ Stmt.declaredAll body.stmts)
    (done : job.emitRoutine nested id before = .ok () after) :
    ∃ name signature start locals entered lowered reached next,
      job.enter id routine name signature start = .ok locals entered ∧
      Frame.ComesTo ⟨job, id⟩ nested inner body.stmts ⟨entered, locals⟩ lowered reached ∧
      Frame.emitLocalDecl ⟨job, id⟩ nested inner reached = .ok () next := by
  obtain ⟨name, reached, next, interrupts, ran⟩ :=
    emitRoutine_interrupts found listed given ordinary inside done
  obtain ⟨present, holds, gives, _, _, _, _, _, enters, comes⟩ := interrupts
  obtain rfl := Option.some.inj (found.symm.trans (Program.decl_eq_ok.mp present))
  obtain rfl := Option.some.inj (listed.symm.trans holds)
  obtain rfl := Option.some.inj (given.symm.trans gives)
  exact ⟨name, _, _, _, _, _, reached, next, enters, comes, ran⟩

end Job

end Lowering
