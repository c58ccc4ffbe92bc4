import Lowering.Proofs.Ending
import Lowering.Proofs.Pass.Continuing
import Lowering.Proofs.Pass.Progress
import Lowering.Proofs.Pass.Suspension

/-
This file shows that the lowering of a body resumes where a declaration inside it interrupted it: at
the same insertion point, with the function as it was.
-/

namespace Lowering

open IR

namespace Job

variable (job : Job)

/-- What a declaration leads to: a member of it, or a declaration in its body. -/
inductive Leads (nested : DeclId → PassM Unit) (id : DeclId) (start : Pass) (next : DeclId) :
    Pass → Prop
  | module {decl : Decl} {earlier later : List DeclId} {reached : Pass}
    (found : job.program.decl id = .ok decl) (kind : decl.kind = .module (earlier ++ next :: later))
    (done : earlier.forM nested start = .ok () reached) : Leads nested id start next reached
  | typeExtension {decl : Decl} {extended : DeclId} {earlier later : List DeclId} {reached : Pass}
    (found : job.program.decl id = .ok decl)
    (kind : decl.kind = .typeExtension extended (earlier ++ next :: later))
    (done : earlier.forM (job.emitMember nested) start = .ok () reached) :
    Leads nested id start next reached
  | product {decl : Decl} {earlier later : List DeclId} {conformances : List Conformance}
    {env : GenericEnv} {ty : Ty} {middle reached : Pass} (found : job.program.decl id = .ok decl)
    (kind : decl.kind = .product (earlier ++ next :: later) conformances env)
    (typed : job.program.declaredType id = .ok ty)
    (conforms : conformances.forM (job.emitConformance ty) start = .ok () middle)
    (done : earlier.forM (job.emitMember nested) middle = .ok () reached) :
    Leads nested id start next reached
  | body {name : String} {reached : Activation}
    (interrupts : job.Interrupts nested id start name next reached) :
    Leads nested id start next reached.pass

/-- The lowering of a module comes to a declaration, with so many levels left for it. -/
inductive Calls (root : DeclId) : Nat → DeclId → Pass → Prop
  | member {decl : Decl} {earlier later : List DeclId} {next : DeclId} {reached : Pass}
    (found : job.program.decl root = .ok decl)
    (kind : decl.kind = .module (earlier ++ next :: later))
    (done : earlier.forM job.emitDecl (Pass.start job.options) = .ok () reached) :
    Calls root job.nestingLimit next reached
  | further {levels : Nat} {id next : DeclId} {start reached : Pass}
    (calls : Calls root (levels + 1) id start)
    (leads : job.Leads (job.emitWithin levels) id start next reached) :
    Calls root levels next reached

end Job

namespace Lasting

variable {job : Job} (kept : Lasting job)

/-- When the arguments of a function are bound in its first block, what lasts still holds. -/
theorem holds_enter {id : DeclId} {decl : Decl} {routine : Routine} {name : String}
    {function : Function} {before entered : Pass} {locals : Locals} (holds : kept.Holds before)
    (found : job.program.decl id = .ok decl) (listed : decl.routine? = some routine)
    (filled : routine.isFilled = true) (assigned : before.names.assigned.get? id = some name)
    (present : before.builder.module.function? name = some function)
    (empty : function.isDeclaration = true)
    (enters : job.enter id routine name function.signature before = .ok locals entered) :
    kept.Holds entered := by
  have ends := kept.ends_enter id routine holds fun created =>
    kept.body found listed filled assigned present empty created holds
  rw [enters] at ends
  exact ends.1

section Free

variable (free : kept.Free)

include free

/-- What lasts holds wherever the statements of a body come to. -/
theorem holds_comes {levels : Nat} {id inner : DeclId} {stmts : List Stmt} {lowered : List DeclId}
    {start reached : Activation} (holds : kept.Holds start.pass)
    (comes : Frame.ComesTo ⟨job, id⟩ (job.emitWithin levels) inner stmts start lowered reached) :
    kept.Holds reached.pass := by
  induction comes with
  | here => exact holds
  | block _ inside_ih => exact inside_ih holds
  | @later stmt _ _ _ _ _ done _ comes_ih =>
    let inside : Invariant (Frame.mk job id).toJob := kept.toInvariant
    have footing : inside.Footing (fun _ => True) fun _ => True := .of_free free fun _ _ => trivial
    have continues := inside.continues_emitStmt footing (kept.keeps_emitWithin levels) stmt
      fun _ _ => trivial
    exact comes_ih (continues.ok _ _ _ ⟨holds, trivial⟩ done).1.1

theorem holds_interrupts {levels : Nat} {id inner : DeclId} {start : Pass} {name : String}
    {reached : Activation} (holds : kept.Holds start)
    (interrupts : job.Interrupts (job.emitWithin levels) id start name inner reached) :
    kept.Holds reached.pass := by
  obtain @⟨decl, routine, body, reference, middle, function, locals, entered, lowered, found,
    listed, given, ordinary, declares, assigned, present, empty, enters, comes⟩ := interrupts
  have filled : routine.isFilled = true := by simp [Routine.isFilled, ordinary, given]
  have holds := ((kept.keeps_declare id).ok _ _ _ holds declares).1
  have holds := kept.holds_enter holds found listed filled assigned present empty enters
  exact kept.holds_comes free holds comes

theorem holds_leads {levels : Nat} {id next : DeclId} {start reached : Pass}
    (holds : kept.Holds start)
    (leads : job.Leads (job.emitWithin levels) id start next reached) : kept.Holds reached := by
  have members (ids : List DeclId) := Sustains.forM ids fun member _ =>
    kept.keeps_emitMember (kept.keeps_emitWithin levels) member
  cases leads with
  | @module _ earlier _ _ _ _ done =>
    have nested := Sustains.forM earlier fun member _ => kept.keeps_emitWithin levels member
    exact (nested.ok _ _ _ holds done).1
  | typeExtension _ _ done => exact ((members _).ok _ _ _ holds done).1
  | product found kind typed conforms done =>
    have tables := Sustains.forM _ fun _ stated => kept.conformance found kind typed stated
    exact ((members _).ok _ _ _ (tables.ok _ _ _ holds conforms).1 done).1
  | body interrupts => exact kept.holds_interrupts free holds interrupts

/-- What lasts holds wherever the lowering of a module has come to. -/
theorem holds_calls {root : DeclId} {levels : Nat} {id : DeclId} {reached : Pass}
    (start : kept.Holds (Pass.start job.options)) (calls : job.Calls root levels id reached) :
    kept.Holds reached := by
  induction calls with
  | @member _ earlier _ _ _ _ _ done =>
    have before := Sustains.forM earlier fun member _ =>
      kept.keeps_emitWithin job.nestingLimit member
    exact (before.ok _ _ _ start done).1
  | further _ leads calls_ih => exact kept.holds_leads free calls_ih leads

end Free

end Lasting

namespace Job

variable (job : Job)

/-- The ways to lower a declaration inside a body: by itself, or with some levels left. -/
inductive Lowers (id : DeclId) : PassM Unit → Prop
  | function : Lowers id (job.emitFunction id)
  | declaration : Lowers id (job.emitDecl id)
  | within (levels : Nat) : Lowers id (job.emitWithin levels id)

/-- Names are distinct, and some functions have their names and a block. -/
structure Opened (opens : DeclId → String → Prop) (pass : Pass) : Prop where
  distinct : pass.names.Distinct job.program
  tall : ∀ id name, opens id name →
    pass.names.assigned.get? id = some name ∧ 0 < pass.builder.module.height name

variable {job} {opens : DeclId → String → Prop} {before after : Pass}

theorem Opened.of_continues (opened : job.Opened opens before)
    (continues : before.Continues job.program after) : job.Opened opens after where
  distinct := continues.distinct
  tall id name opens := by
    obtain ⟨assigned, tall⟩ := opened.tall id name opens
    exact ⟨continues.names id name assigned, continues.module.height name ▸ tall⟩

theorem Opened.createBlock (opened : job.Opened opens before) {name : String}
    {params : List OperandType} {entry : LabelId × List Value} {builder : Builder}
    (created : BuildM.createBlock name params before.builder = .ok entry builder) :
    job.Opened opens { before with builder := builder } := by
  obtain ⟨function, found, _, _, rfl⟩ := BuildM.run_createBlock created
  obtain rfl := Module.name_of_function? found
  refine ⟨opened.distinct, fun id name opens => ⟨(opened.tall id name opens).1, ?_⟩⟩
  show 0 < (before.builder.put (function.addBlock params).2).module.height name
  rw [Module.height_addBlock found]
  exact Nat.lt_of_lt_of_le (opened.tall id name opens).2 (Nat.le_add_right _ _)

theorem Opened.withCursor (opened : job.Opened opens before) (cursor : Option Cursor) :
    job.Opened opens (before.withCursor cursor) :=
  opened.of_continues (.withCursor _ opened.distinct cursor)

/-- What was opened stays open inside bodies. -/
def opening (job : Job) (plain : job.program.PlainNames) (opens : DeclId → String → Prop) :
    Invariant job :=
  .ofContinues job plain (job.Opened opens) (fun _ opened => opened.distinct)
    fun _ _ => Opened.of_continues

/-- What was opened stays open from one declaration to the next. -/
def openings (job : Job) (plain : job.program.PlainNames) (opens : DeclId → String → Prop) :
    Lasting job where
  toInvariant := opening job plain opens
  cursor cursor opened := Opened.withCursor opened cursor
  body _ _ _ _ _ _ created opened := Opened.createBlock opened created
  conformance found kind _ stated :=
    (opening job plain opens).keeps_conformance
      (fun cursor opened => Opened.withCursor opened cursor) (fun _ _ => trivial)
      (fun _ _ => .build (fun opened created => ⟨Opened.createBlock opened created, trivial⟩)
        fun _ _ => trivial)
      (fun _ _ (opened : job.Opened opens _) => ⟨opened.distinct, opened.tall⟩) found kind stated _

section Plain

variable (plain : job.program.PlainNames)

include plain

/-- The function that is interrupted is open. -/
theorem Interrupts.opened {levels : Nat} {id inner : DeclId} {start : Pass} {name : String}
    {reached : Activation} (distinct : start.names.Distinct job.program)
    (interrupts : job.Interrupts (job.emitWithin levels) id start name inner reached) :
    job.Opened (fun other own => other = id ∧ own = name) reached.pass := by
  obtain @⟨decl, routine, body, reference, middle, function, locals, entered, lowered, found,
    listed, given, ordinary, declares, assigned, present, empty, enters, comes⟩ := interrupts
  let kept := job.openings plain fun other own => other = id ∧ own = name
  have settled : job.Opened (fun _ _ => False) middle :=
    (((job.opening plain fun _ _ => False).keeps_declare id).ok start reference middle
      ⟨distinct, fun _ _ => False.elim⟩ declares).1
  obtain ⟨⟨label, args⟩, first, lifted, bound⟩ := (run_bind _ _ _ _ _).mp enters
  obtain ⟨builder, created, rfl⟩ := (lift_build _ _ _ _).mp lifted
  have opened : job.Opened (fun other own => other = id ∧ own = name)
      { middle with builder := builder } := by
    refine ⟨settled.distinct, ?_⟩
    rintro _ _ ⟨rfl, rfl⟩
    refine ⟨assigned, ?_⟩
    obtain ⟨own, there, _, _, rfl⟩ := BuildM.run_createBlock created
    obtain rfl := Module.name_of_function? there
    show 0 < (middle.builder.put (own.addBlock _).2).module.height own.name
    rw [Module.height_addBlock there, if_pos rfl]
    exact Nat.succ_pos _
  have opened : job.Opened (fun other own => other = id ∧ own = name) entered :=
    ((kept.keeps_bound id routine name label args).ok _ _ _ opened bound).1
  refine kept.holds_comes (fun _ _ _ => trivial) ?_ comes
  exact opened

/-- Wherever the lowering of a module has come to, the names are distinct. -/
theorem Calls.distinct {root : DeclId} {levels : Nat} {id : DeclId} {reached : Pass}
    (calls : job.Calls root levels id reached) : reached.names.Distinct job.program := by
  let kept := job.openings plain fun _ _ => False
  have start : job.Opened (fun _ _ => False) (Pass.start job.options) :=
    ⟨Names.distinct_empty job.program, fun _ _ => False.elim⟩
  have reached : job.Opened (fun _ _ => False) _ :=
    kept.holds_calls (fun _ _ _ => trivial) start calls
  exact reached.distinct

end Plain

theorem Lowers.waits {name : String} {function : Function} {id : DeclId} {step : PassM Unit}
    (lowers : job.Lowers id step) (opened : function.isDeclaration = false)
    (unmarked : '$' ∉ name.toList) (cursor : Option Cursor) :
    Sustains (waiting name function cursor) step fun _ => True := by
  have within (levels : Nat) (id : DeclId) (cursor : Option Cursor) :
      Sustains (waiting name function cursor) (job.emitWithin levels id) fun _ => True :=
    waiting.emitWithin opened unmarked levels id
  cases lowers with
  | function => exact waiting.emitRoutine opened (within job.nestingLimit) id
  | declaration => exact within job.nestingLimit id cursor
  | within levels => exact within levels id cursor

end Job

/--
Wherever the lowering of a module comes to a declaration in the body of a function, the function is
there, and lowering the declaration leaves it as it is. The insertion point is put back, also where
the lowering stops.
-/
theorem lowering_resumes {job : Job} (plain : job.program.PlainNames) {root id inner : DeclId}
    {levels : Nat} {start : Pass} {name : String} {reached : Activation}
    (calls : job.Calls root (levels + 1) id start)
    (interrupts : job.Interrupts (job.emitWithin levels) id start name inner reached) :
    reached.pass.names.assigned.get? id = some name ∧
      ∃ function, reached.pass.builder.module.function? name = some function ∧
        ∀ step, job.Lowers inner step → ∀ after,
          (step reached.pass = .ok () after ∨ ∃ abort, step reached.pass = .error abort after) →
            after.builder.cursor = reached.pass.builder.cursor ∧
              after.builder.module.function? name = some function := by
  obtain ⟨distinct, tall⟩ := interrupts.opened plain (calls.distinct plain)
  obtain ⟨assigned, tall⟩ := tall id name ⟨rfl, rfl⟩
  obtain ⟨function, present, blocks⟩ := Module.height_pos_iff.mp tall
  refine ⟨assigned, function, present, fun step lowers after ends => ?_⟩
  have opened : function.isDeclaration = false := by simpa [Function.isDeclaration] using blocks
  have unmarked := distinct.unmarked plain assigned
  have waits := lowers.waits opened unmarked reached.pass.builder.cursor
  rcases ends with done | ⟨abort, stops⟩
  · exact (waits.ok _ _ _ ⟨present, rfl⟩ done).1.symm
  · exact (waits.error _ _ _ ⟨present, rfl⟩ stops).symm

/-- A function inside a body is lowered by itself. -/
theorem Frame.run_nested (frame : Frame) {nested : DeclId → PassM Unit} {id : DeclId} {decl : Decl}
    {routine : Routine} {before after : Activation} (found : frame.program.find? id = some decl)
    (holds : decl.routine? = some routine) (ordinary : routine.isBuiltin = false)
    (done : frame.emitLocalDecl nested id before = .ok () after) :
    ∃ between, nested id before.pass = .ok () between := by
  obtain ⟨_, _, lowered, _⟩ :=
    (run_bind _ _ _ _ _).mp (run_emitLocalDecl_function found holds ordinary done)
  obtain ⟨between, lowered, _⟩ := (lift_pass _ _ _ _).mp lowered
  exact ⟨between, lowered⟩

/-- Functions in a function, lowered as usual. -/
def enclosingJob : Job := ⟨enclosing.built, Options.standard⟩

/-- Only a module is described as one. -/
theorem Decl.kind_of_module {decl : Decl} (text : decl.kindText = "module") :
    decl.kind = .module decl.members := by
  cases kind : decl.kind with
  | module members => simp [Decl.members, DeclKind.members, kind]
  | function routine =>
    cases sort : routine.kind <;> simp [Decl.kindText, DeclKind.text, kind, sort] at text
  | _ => simp [Decl.kindText, DeclKind.text, kind] at text

/-- What is seen of a declaration tells that it is a module with these members. -/
theorem Program.module_of_seen {program : Program} {id : DeclId} {members : List DeclId}
    (seen : (program.find? id).map (fun decl => (decl.kindText, decl.members)) =
      some ("module", members)) :
    ∃ decl, program.decl id = .ok decl ∧ decl.kind = .module members := by
  obtain ⟨decl, found, same⟩ := Option.map_eq_some_iff.mp seen
  obtain ⟨text, rfl⟩ := Prod.mk.inj same
  exact ⟨decl, Program.decl_eq_ok.mpr found, Decl.kind_of_module text⟩

theorem enclosing_members : ∃ main, enclosingJob.program.decl ⟨0⟩ = .ok main ∧
    main.kind = .module ([⟨1⟩, ⟨2⟩] ++ [⟨5⟩]) :=
  Program.module_of_seen (by decide +kernel)

/-- The function inside is lowered in the middle of the one around it. -/
theorem lowering_resumes_enclosing :
    enclosingJob.program.PlainNames ∧
    ∃ start name reached after function,
      enclosingJob.Calls ⟨0⟩ 24 ⟨5⟩ start ∧
      enclosingJob.Interrupts (enclosingJob.emitWithin 23) ⟨5⟩ start name ⟨7⟩ reached ∧
      enclosingJob.emitWithin 23 ⟨7⟩ reached.pass = .ok () after ∧
      after.builder.cursor = reached.pass.builder.cursor ∧
      reached.pass.builder.module.function? name = some function ∧
      after.builder.module.function? name = some function := by
  have plain : enclosingJob.program.PlainNames := by decide +kernel
  have limit : enclosingJob.nestingLimit = 24 := by decide +kernel
  have outer : ((enclosingJob.program.find? ⟨5⟩).bind Decl.routine?).map (fun routine =>
      (routine.isBuiltin, routine.body.map fun body => decide (⟨7⟩ ∈ Stmt.declaredAll body.stmts))) =
        some (false, some true) := by decide +kernel
  have inner : ((enclosingJob.program.find? ⟨7⟩).bind Decl.routine?).map Routine.isBuiltin =
      some false := by decide +kernel
  have yields : (EStateM.run' (do
      [⟨1⟩, ⟨2⟩].forM enclosingJob.emitDecl
      enclosingJob.emitRoutine (enclosingJob.emitWithin 23) ⟨5⟩ : PassM Unit)
        (Pass.start Options.standard)).isSome = true := by decide +kernel
  obtain ⟨main, located, kind⟩ := enclosing_members
  obtain ⟨routine, routed, seen⟩ := Option.map_eq_some_iff.mp outer
  obtain ⟨decl, found, listed⟩ := Option.bind_eq_some_iff.mp routed
  obtain ⟨ordinary, seen⟩ := Prod.mk.inj seen
  obtain ⟨body, given, inside⟩ := Option.map_eq_some_iff.mp seen
  obtain ⟨own, routed, plain_inner⟩ := Option.map_eq_some_iff.mp inner
  obtain ⟨held, present, holds⟩ := Option.bind_eq_some_iff.mp routed
  obtain ⟨_, last, ran⟩ := ok_of_run' yields
  obtain ⟨_, start, before, done⟩ := (run_bind _ _ _ _ _).mp ran
  have calls : enclosingJob.Calls ⟨0⟩ enclosingJob.nestingLimit ⟨5⟩ start :=
    .member located kind before
  rw [limit] at calls
  obtain ⟨name, reached, next, interrupts, emitted⟩ :=
    Job.emitRoutine_interrupts found listed given ordinary (of_decide_eq_true inside) done
  obtain ⟨after, lowered⟩ := Frame.run_nested ⟨enclosingJob, ⟨5⟩⟩ present holds plain_inner emitted
  obtain ⟨_, function, there, resumes⟩ := lowering_resumes plain calls interrupts
  obtain ⟨cursor, same⟩ := resumes _ (.within 23) after (.inl lowered)
  exact ⟨plain, start, name, reached, after, function, calls, interrupts, lowered, cursor, there,
    same⟩

end Lowering
