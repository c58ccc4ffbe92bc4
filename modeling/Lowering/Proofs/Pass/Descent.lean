import Lowering.Proofs.Naming
import Lowering.Proofs.Pass.Declaration
import Lowering.Proofs.Pass.Opening
import Lowering.Proofs.Program.Nesting

/-
This file goes down from a module to a function inside it: through members, through the bodies of
other functions, and through the types that are declared there. What the first block of the function
is like when it has been filled, it is like at the end of the pass.
-/

namespace Lowering

open IR

namespace Job

section Fill

variable {job : Job} {nested : DeclId → PassM Unit} {id : DeclId} {decl : Decl} {routine : Routine}
  {body : Body} {name : String} {signature : Signature} {before after : Pass}

/-- A function is filled by a block of its own, whose parameters are bound before the body. -/
theorem run_fill (formed : before.builder.module.WellFormed) (holds : (naming job).Holds before)
    {given : Unit} (done : job.fill nested id routine name signature before = .ok given after) :
    ∃ old middle third locals rest captures bound last,
      before.builder.module.function? name = some old ∧ before.Opens middle ∧
      (naming job).Holds middle ∧
      middle.builder.At (old.addBlock signature.params).2 (old.addBlock signature.params).1 ∧
      job.bindReceiver name routine (old.addBlock signature.params).1.paramValues middle =
        .ok (locals, rest) third ∧
      job.program.captures id = .ok captures ∧
      job.bindArguments name locals (captures ++ routine.params) rest = .ok bound ∧
      (naming job).Ready ⟨third, bound⟩ ∧ middle.Steady third ∧
      Frame.emitBody ⟨job, id⟩ nested routine ⟨third, bound⟩ = .ok () last ∧ last.pass = after := by
  obtain ⟨⟨label, args⟩, first, ran, done⟩ := (run_bind _ _ _ _ _).mp done
  obtain ⟨builder, created, rfl⟩ := (lift_build _ _ _ _).mp ran
  obtain ⟨_, second, positioned, done⟩ := (run_bind _ _ _ _ _).mp done
  obtain ⟨moved, set, rfl⟩ := (lift_build _ _ _ _).mp positioned
  obtain rfl := (BuildM.run_setCursor _ _ _ _).mp set
  obtain ⟨old, found, same, _, args_same, place⟩ := Builder.At.of_createBlock formed created
  subst args_same
  have opened := Pass.opens_block formed created
  have holds := ((naming job).block formed holds created).1
  have bindable : ∀ arg ∈ (old.addBlock signature.params).1.paramValues, (naming job).Bindable
      { before with builder := { builder with cursor := some ⟨name, label⟩ } } arg := by
    intro arg inside
    obtain ⟨param, _, rfl⟩ := List.mem_map.mp inside
    exact ⟨trivial, Or.inr rfl⟩
  obtain ⟨bound, third, entered, done⟩ := (run_bind _ _ _ _ _).mp done
  obtain ⟨working, third_holds, steady, all_bound⟩ :=
    Policy.Maintains.bindEntry id routine name bindable opened.working holds bound third entered
  obtain ⟨locals, rest, captures, received, captured, arguments⟩ := run_bindEntry entered
  obtain ⟨last, ran, rfl⟩ := (run_activate _ _ _ _ _).mp done
  exact ⟨old, _, third, locals, rest, captures, bound, last, found, opened, holds, place,
    received, captured, arguments, ⟨working, third_holds, all_bound⟩, steady, ran, rfl⟩

end Fill

section Routine

variable {job : Job} {nested : DeclId → PassM Unit} {id : DeclId} {decl : Decl} {routine : Routine}
  {body : Body} {before after : Pass} (found : job.program.decl id = .ok decl)
  (listed : decl.routine? = some routine)

include found listed

/-- A function with something to fill it is declared and then filled, as long as it is empty. -/
theorem run_emitRoutine_filled (filled : routine.isFilled = true)
    (formed : before.builder.module.WellFormed) (holds : (naming job).Holds before) {value : Unit}
    (done : job.emitRoutine nested id before = .ok value after) :
    ∃ name function middle last, before.Settles middle ∧ middle.builder.module.WellFormed ∧
      (naming job).Holds middle ∧ middle.names.assigned.get? id = some name ∧
      job.signature id = .ok function.signature ∧
      middle.builder.module.function? name = some function ∧ function.blocks = [] ∧
      job.fill nested id routine name function.signature middle = .ok () last ∧
      after = last.withCursor middle.builder.cursor := by
  obtain ⟨again, own, found_again, given, cases_⟩ := run_emitRoutine_cases done
  obtain rfl := Except.ok.inj (found.symm.trans found_again)
  obtain rfl := Option.some.inj (listed.symm.trans given)
  rcases cases_ with ⟨builtin, _⟩ | ⟨_, reference, middle, name, function, declares, assigned,
    present, ⟨bare, _⟩ | ⟨_, empty, last, fills, rfl⟩⟩
  · simp [Routine.isFilled, builtin] at filled
  · exact absurd filled (by simp [bare])
  · obtain ⟨formed, holds, settled, declared⟩ :=
      @Policy.Visits.declare _ (naming job) _ id formed holds reference middle declares
    obtain ⟨known, signature, other, assigned_known, signed, _, present_known, typed⟩ := declared
    obtain rfl := Option.some.inj (assigned.symm.trans assigned_known)
    obtain rfl := Option.some.inj (present.symm.trans present_known)
    exact ⟨name, function, middle, last, settled, formed, holds, assigned, typed ▸ signed, present,
      List.isEmpty_iff.mp empty, fills, rfl⟩

theorem run_emitRoutine (given : routine.body = some body) (written : routine.isBuiltin = false)
    (formed : before.builder.module.WellFormed) (holds : (naming job).Holds before) {value : Unit}
    (done : job.emitRoutine nested id before = .ok value after) :
    ∃ name function middle last, before.Settles middle ∧ middle.builder.module.WellFormed ∧
      (naming job).Holds middle ∧ middle.names.assigned.get? id = some name ∧
      job.signature id = .ok function.signature ∧
      middle.builder.module.function? name = some function ∧ function.blocks = [] ∧
      job.fill nested id routine name function.signature middle = .ok () last ∧
      after = last.withCursor middle.builder.cursor :=
  run_emitRoutine_filled found listed (by simp [Routine.isFilled, written, given]) formed holds done

end Routine

/--
What the first block of a function is to be like, in a pass with a report of some kind. A report
that will do has done so all along.
-/
structure Aim where
  target : DeclId
  shape : Signature → Block → Prop
  admits : Report → Prop
  earlier : ∀ {before after : Report}, before.diagnostics <+: after.diagnostics → admits after →
    admits before

namespace Aim

variable (aim : Aim) {first second third : Pass} {opened : Option Cursor}

/-- The function goes by the name, and its first block is as it is to be. -/
def Hits (pass : Pass) (name : String) : Prop :=
  pass.names.assigned.get? aim.target = some name ∧ ∃ function block,
    pass.builder.module.function? name = some function ∧ function.block? 0 = some block ∧
    aim.shape function.signature block

/-- The function was filled between two passes. -/
def Realized (before after : Pass) : Prop :=
  aim.admits after.report → ∃ name, aim.Hits after name ∧ ∀ function,
    before.builder.module.function? name = some function → function.block? 0 = none

variable {aim}

/-- A block that is not open stays as it is. -/
theorem Hits.of_grows {name : String} (hits : aim.Hits second name)
    (grown : second.Grows opened third) (closed : opened ≠ some ⟨name, 0⟩) :
    aim.Hits third name := by
  obtain ⟨assigned, function, block, found, inside, shaped⟩ := hits
  obtain ⟨later, found_later, growth⟩ := grown.module.functions name function found
  have named := Module.name_of_function? found
  refine ⟨grown.names _ _ assigned, later, block, found_later, ?_, ?_⟩
  · exact growth.block?_eq inside (by rw [named]; exact closed)
  · rw [growth.signature]
    exact shaped

namespace Realized

/-- What was not there before a step was not there earlier either. -/
theorem after_grows (grown : first.Grows opened second) (realized : aim.Realized second third) :
    aim.Realized first third := by
  intro admitted
  obtain ⟨name, hits, fresh⟩ := realized admitted
  refine ⟨name, hits, fun function found => ?_⟩
  cases inside : function.block? 0 with
  | none => rfl
  | some block =>
    obtain ⟨later, found_later, growth⟩ := grown.module.functions name function found
    obtain ⟨kept, inside_later, _⟩ := growth.blocks 0 block inside
    have missing := fresh later found_later
    rw [inside_later] at missing
    cases missing

theorem before_settled (realized : aim.Realized first second) (grown : second.Grows none third) :
    aim.Realized first third := by
  intro admitted
  obtain ⟨name, hits, fresh⟩ := realized (aim.earlier grown.report admitted)
  exact ⟨name, hits.of_grows grown nofun, fresh⟩

/-- The block that was open all along is not that of the function. -/
theorem before_grown (realized : aim.Realized first second) (working : first.Working)
    (grown : second.Grows first.builder.cursor third) : aim.Realized first third := by
  intro admitted
  obtain ⟨name, hits, fresh⟩ := realized (aim.earlier grown.report admitted)
  obtain ⟨function, block, place⟩ := working.opened
  refine ⟨name, hits.of_grows grown ?_, fresh⟩
  intro here
  obtain same := Option.some.inj (place.cursor.symm.trans here)
  obtain ⟨rfl, start⟩ := Cursor.mk.inj same
  have missing := fresh function place.present
  rw [← start, place.inside] at missing
  cases missing

end Realized

variable {A B : Type}

/-- A step of a pass that fills the function. -/
def Delivers (aim : Aim) (job : Job) (step : PassM A) (before : Pass) : Prop :=
  before.builder.module.WellFormed → (naming job).Holds before → ∀ value after,
    step before = .ok value after → aim.Realized before after

/-- A step of a body that fills the function. -/
def Supplies (aim : Aim) (job : Job) (step : BodyM A) (before : Activation) : Prop :=
  (naming job).Ready before → ∀ value after, step before = .ok value after →
    aim.Realized before.pass after.pass

variable {aim : Aim} {job : Job}

namespace Delivers

variable {before : Pass} {step : PassM A} {next : A → PassM B}

theorem ask_bind {question : Answer A}
    (rest : ∀ value, question = .ok value → aim.Delivers job (next value) before) :
    aim.Delivers job (liftM question >>= next) before := by
  intro formed holds value after done
  obtain ⟨answer, given, done⟩ := (run_check_bind _ _ _ _ _).mp done
  exact rest answer ((lift_answer _ _).mp given) formed holds value after done

/-- The function was not there before the first step either. -/
theorem after_visits (first : (naming job).Visits step before fun _ _ => True)
    (rest : ∀ value between, aim.Delivers job (next value) between) :
    aim.Delivers job (step >>= next) before := by
  intro formed holds value after done
  obtain ⟨middle, between, ran, done⟩ := (run_bind _ _ _ _ _).mp done
  obtain ⟨formed, holds, settled, _⟩ := first formed holds middle between ran
  exact (rest middle between formed holds value after done).after_grows settled.grows

/-- The function stays as it is in the later steps. -/
theorem before_visits (first : aim.Delivers job step before)
    (kept : (naming job).Visits step before fun _ _ => True)
    (rest : ∀ value between, (naming job).Visits (next value) between fun _ _ => True) :
    aim.Delivers job (step >>= next) before := by
  intro formed holds value after done
  obtain ⟨middle, between, ran, done⟩ := (run_bind _ _ _ _ _).mp done
  obtain ⟨formed_between, holds_between, _⟩ := kept formed holds middle between ran
  obtain ⟨_, _, settled, _⟩ := rest middle between formed_between holds_between value after done
  exact (first formed holds middle between ran).before_settled settled.grows

theorem forM {each : DeclId → PassM Unit} {items : List DeclId} {child : DeclId}
    (inside : child ∈ items)
    (visits : ∀ item before, (naming job).Visits (each item) before fun _ _ => True)
    (delivers : ∀ before, aim.Delivers job (each child) before) (before : Pass) :
    aim.Delivers job (items.forM each) before := by
  induction items generalizing before with
  | nil => cases inside
  | cons item rest rest_ih =>
    rcases List.mem_cons.mp inside with rfl | later
    · exact (delivers before).before_visits (visits child before)
        fun _ between => .forM rest between fun other _ => visits other
    · exact .after_visits (visits item before) fun _ between => rest_ih later between

end Delivers

section Fill

variable {nested : DeclId → PassM Unit} (below : (naming job).VisitsAll nested) {decl : Decl}
  {routine : Routine} (found : job.program.decl aim.target = .ok decl)
  (listed : decl.routine? = some routine)

include below found listed

/-- It is enough that the block that is added for the function is as it is to be. -/
theorem delivers_of_filled (filled : routine.isFilled = true)
    (fills : ∀ {name : String} {function : Function} {middle last : Pass},
      middle.builder.module.WellFormed → (naming job).Holds middle →
      middle.builder.module.function? name = some function → function.blocks = [] →
      job.signature aim.target = .ok function.signature →
      job.fill nested aim.target routine name function.signature middle = .ok () last →
      aim.admits last.report → ∃ final block, last.builder.module.function? name = some final ∧
        final.block? function.labels.issued = some block ∧ aim.shape final.signature block)
    (before : Pass) : aim.Delivers job (job.emitRoutine nested aim.target) before := by
  intro formed holds value after done admitted
  obtain ⟨name, function, middle, last, settled, formed, holds, assigned, signed, present, empty,
    filled, rfl⟩ := run_emitRoutine_filled found listed filled formed holds done
  obtain ⟨final, block, found_final, inside, shaped⟩ :=
    fills formed holds present empty signed filled admitted
  have first : function.labels.issued = 0 := by
    have labels := (formed.of_function? present).labels
    rw [empty] at labels
    exact List.range_eq_nil.mp labels.symm
  rw [first] at inside
  have kept := (Policy.Visits.fill below found listed name function.signature formed holds () _
    ((run_restoring _ _ _ _).mpr ⟨_, filled, rfl⟩)).2.2.1.grows
  have fresh (old : Function) (found_old : middle.builder.module.function? name = some old) :
      old.block? 0 = none := by
    obtain rfl := Option.some.inj (present.symm.trans found_old)
    rw [Function.block?, empty]
    rfl
  refine Realized.after_grows settled.grows (fun _ => ?_) admitted
  exact ⟨name, ⟨kept.names _ _ assigned, final, block, found_final, inside, shaped⟩, fresh⟩

theorem delivers_of_fill {body : Body} (given : routine.body = some body)
    (ordinary : routine.isBuiltin = false)
    (fills : ∀ {name : String} {function : Function} {middle last : Pass},
      middle.builder.module.WellFormed → (naming job).Holds middle →
      middle.builder.module.function? name = some function →
      job.signature aim.target = .ok function.signature →
      job.fill nested aim.target routine name function.signature middle = .ok () last →
      aim.admits last.report → ∃ final block, last.builder.module.function? name = some final ∧
        final.block? function.labels.issued = some block ∧ aim.shape final.signature block)
    (before : Pass) : aim.Delivers job (job.emitRoutine nested aim.target) before :=
  delivers_of_filled below found listed (by simp [Routine.isFilled, ordinary, given])
    (fun formed holds present _ signed filled admitted =>
      fills formed holds present signed filled admitted) before

end Fill

end Aim

end Job

namespace Program

/-- What leads to a function with a body is no binding and no function of the runtime. -/
theorem Lowers.leads {program : Program} {id target : DeclId} {decl own : Decl} {owner : Routine}
    (lowers : program.Lowers id target) (reached : program.decl target = .ok own)
    (owned : own.routine? = some owner) (ordinary : owner.isBuiltin = false)
    (found : program.decl id = .ok decl) :
    (∀ binding, decl.kind ≠ .binding binding) ∧
      ∀ other, decl.kind = .function other → other.isBuiltin = false := by
  cases lowers with
  | refl =>
    obtain rfl := Except.ok.inj (found.symm.trans reached)
    have listed : decl.kind.routine? = some owner := owned
    constructor
    · intro binding kind
      rw [kind] at listed
      cases listed
    · intro other kind
      rw [kind] at listed
      obtain rfl := Option.some.inj listed
      exact ordinary
  | step inside =>
    rw [nested, decl_eq_ok.mp found, Option.map_some] at inside
    constructor
    · intro binding kind
      rw [kind] at inside
      cases inside
    · intro other kind
      cases builtin : other.isBuiltin with
      | false => rfl
      | true =>
        simp only [kind, builtin, if_true] at inside
        cases inside

end Program

namespace Frame

variable {frame : Frame} {nested : DeclId → PassM Unit} {aim : Job.Aim} {own : Decl}
  {owner : Routine}

theorem emitLocalDecl_supplies (below : (naming frame.toJob).VisitsAll nested)
    (reached : frame.program.decl aim.target = .ok own) (owned : own.routine? = some owner)
    (ordinary : owner.isBuiltin = false) {child : DeclId}
    (lowers : frame.program.Lowers child aim.target)
    (delivers : ∀ before, aim.Delivers frame.toJob (nested child) before) (before : Activation) :
    aim.Supplies frame.toJob (frame.emitLocalDecl nested child) before := by
  intro ready value after done
  obtain ⟨decl, found, done⟩ := (run_ask_bind _ _ _ _ _).mp done
  obtain ⟨unbound, written⟩ :=
    lowers.leads reached owned ordinary ((lift_answer _ _).mp found)
  have delivered (done : (liftM (nested child) : BodyM Unit) before = .ok value after) :
      aim.Realized before.pass after.pass := by
    obtain ⟨pass, ran, rfl⟩ := (lift_pass _ _ _ _).mp done
    exact delivers before.pass ready.working.formed ready.holds value pass ran
  cases kind : decl.kind with
  | binding binding => exact (unbound binding kind).elim
  | function routine =>
    simp only [kind, written routine kind] at done
    obtain ⟨_, middle, lifted, done⟩ := (run_bind _ _ _ _ _).mp done
    obtain ⟨pass, ran, rfl⟩ := (lift_pass _ _ _ _).mp lifted
    obtain ⟨formed, holds, settled, _⟩ :=
      below child before.pass ready.working.formed ready.holds () pass ran
    have ready_middle : (naming frame.toJob).Ready { before with pass := pass } :=
      ⟨settled.working ready.working formed, holds, ready.locals.of_steady settled.steady⟩
    obtain ⟨_, steady, _⟩ := Policy.Keeps.bindClosure child _ ready_middle value after done
    refine (delivers before.pass ready.working.formed ready.holds () pass ran).before_grown
      ready.working ?_
    rw [← settled.cursor]
    exact steady.grows
  | product | view | abstractType | «alias» | typeExtension =>
    simp only [kind] at done
    exact delivered done
  | module | imported | «variable» | parameter | genericParam =>
    simp only [kind] at done
    exact ((run_ask_abort _ _ _ _).mp done).elim

variable {child : DeclId} {routine : Routine}

mutual

/-- A statement that declares something fills the function that this leads to. -/
theorem emitStmt_supplies (below : (naming frame.toJob).VisitsAll nested)
    (supplies : ∀ before, aim.Supplies frame.toJob (frame.emitLocalDecl nested child) before)
    (owned : frame.routine = .ok routine) (stmt : Stmt)
    (occurs : ∀ expr ∈ stmt.exprs, frame.program.Occurs expr) (inside : child ∈ stmt.declared)
    (before : Activation) : aim.Supplies frame.toJob (frame.emitStmt nested stmt) before := by
  cases stmt with
  | decl id =>
    obtain rfl := List.mem_singleton.mp inside
    intro ready flow after done
    obtain ⟨value, between, ran, done⟩ := (run_bind _ _ _ _ _).mp done
    obtain ⟨_, rfl⟩ := (run_pure _ _ _ _).mp done
    exact supplies before ready value between ran
  | block stmts span => exact emitStmts_supplies below supplies owned stmts occurs inside before
  | returned value span => cases inside
  | expr value => cases inside

theorem emitStmts_supplies (below : (naming frame.toJob).VisitsAll nested)
    (supplies : ∀ before, aim.Supplies frame.toJob (frame.emitLocalDecl nested child) before)
    (owned : frame.routine = .ok routine) (stmts : List Stmt)
    (occurs : ∀ expr ∈ Stmt.exprsAll stmts, frame.program.Occurs expr)
    (inside : child ∈ Stmt.declaredAll stmts) (before : Activation) :
    aim.Supplies frame.toJob (frame.emitStmts nested stmts) before := by
  cases stmts with
  | nil => cases inside
  | cons stmt rest =>
    have first_occurs : ∀ expr ∈ stmt.exprs, frame.program.Occurs expr :=
      fun expr listed => occurs expr (List.mem_append.mpr (Or.inl listed))
    have rest_occurs : ∀ expr ∈ Stmt.exprsAll rest, frame.program.Occurs expr :=
      fun expr listed => occurs expr (List.mem_append.mpr (Or.inr listed))
    intro ready flow after done
    obtain ⟨left, between, ran, continues⟩ := run_emitStmts_cons done
    have first := Policy.Flows.emitStmt below owned stmt first_occurs before ready left between ran
    rcases List.mem_append.mp inside with here | later
    · have grown : between.pass.Grows between.pass.builder.cursor after.pass := by
        rcases continues with ⟨rfl, done⟩ | ⟨_, _, rfl⟩ | ⟨_, _, next, warned⟩
        · simp only [Policy.Left, or_true, if_true] at first
          exact (Policy.Flows.emitStmts below owned rest rest_occurs between first.1 flow after
            done).grows
        · exact .refl _ _
        · exact (Policy.grows_of_warn warned).of_closed
      refine (emitStmt_supplies below supplies owned stmt first_occurs here before ready left
        between ran).before_grown ready.working ?_
      rw [← first.cursor]
      exact grown
    · cases returns : stmt.returns with
      | true => simp [returns] at later
      | false =>
        simp only [returns, Bool.false_eq_true, if_false] at later
        obtain rfl := (run_emitStmt_flow stmt ran).mpr returns
        have first_grown := first.grows
        simp only [Policy.Left, or_true, if_true] at first
        rcases continues with ⟨_, done⟩ | ⟨returned, _⟩ | ⟨returned, _⟩
        · exact (emitStmts_supplies below supplies owned rest rest_occurs later between first.1 flow
            after done).after_grows first_grown
        · exact (returned rfl).elim
        · exact (returned rfl).elim

end

/-- The end of a body changes nothing of what is inside it. -/
theorem emitBody_supplies (below : (naming frame.toJob).VisitsAll nested)
    (supplies : ∀ before, aim.Supplies frame.toJob (frame.emitLocalDecl nested child) before)
    {decl : Decl} {body : Body} (found : frame.program.decl frame.owner = .ok decl)
    (listed : decl.routine? = some routine) (given : routine.body = some body)
    (inside : child ∈ Stmt.declaredAll body.stmts) (before : Activation) :
    aim.Supplies frame.toJob (frame.emitBody nested routine) before := by
  have owned := routine_eq_ok found listed
  have occurs : ∀ expr ∈ Stmt.exprsAll body.stmts, frame.program.Occurs expr :=
    fun _ inside => Program.occurs_body found listed given inside
  intro ready value after done
  obtain ⟨flow, between, ran, done⟩ := run_emitBody given done
  have left := Policy.Flows.emitStmts below owned body.stmts occurs before ready flow between ran
  refine (emitStmts_supplies below supplies owned body.stmts occurs inside before ready flow
    between ran).before_grown ready.working ?_
  rw [← left.cursor]
  exact left.emitEnd_grows owned done

end Frame

namespace Job.Aim

variable {job : Job} {aim : Aim} {child id : DeclId} {own : Decl} {owner : Routine}
  (reached : job.program.decl aim.target = .ok own) (owned : own.routine? = some owner)
  (ordinary : owner.isBuiltin = false)

include reached owned ordinary

section Level

variable {nested : DeclId → PassM Unit}

theorem emitMember_delivers (lowers : job.program.Lowers child aim.target)
    (delivers : ∀ before, aim.Delivers job (nested child) before) (before : Pass) :
    aim.Delivers job (job.emitMember nested child) before := by
  refine .ask_bind ?_
  intro decl found
  split
  next binding kind => exact ((lowers.leads reached owned ordinary found).1 binding kind).elim
  next => exact delivers before

variable (below : (naming job).VisitsAll nested)

include below

/-- A function with a body fills what its body leads to. -/
theorem emitRoutine_delivers {decl : Decl} {routine : Routine} {body : Body}
    (found : job.program.decl id = .ok decl) (listed : decl.routine? = some routine)
    (given : routine.body = some body) (written : routine.isBuiltin = false)
    (inside : child ∈ Stmt.declaredAll body.stmts) (lowers : job.program.Lowers child aim.target)
    (delivers : ∀ before, aim.Delivers job (nested child) before) (before : Pass) :
    aim.Delivers job (job.emitRoutine nested id) before := by
  intro formed holds value after done
  obtain ⟨name, function, middle, last, settled, formed, holds, _, _, _, _, filled, rfl⟩ :=
    run_emitRoutine found listed given written formed holds done
  obtain ⟨old, opening, third, locals, rest, captures, bound, activation, _, opened, _, _, _, _, _,
    ready, steady, ran, rfl⟩ := run_fill formed holds filled
  have supplies := @Frame.emitLocalDecl_supplies ⟨job, id⟩ _ _ _ _ below reached owned ordinary _
    lowers delivers
  have realized := @Frame.emitBody_supplies ⟨job, id⟩ _ _ _ _ below supplies _ _ found listed given
    inside ⟨third, bound⟩ ready () activation ran
  exact ((realized.after_grows steady.grows).after_grows opened.grows).after_grows settled.grows

/-- One level delivers what the next one does. -/
theorem emitLevel_delivers (inside : child ∈ job.program.nested id)
    (lowers : job.program.Lowers child aim.target)
    (delivers : ∀ before, aim.Delivers job (nested child) before) (before : Pass) :
    aim.Delivers job (job.emitLevel nested id) before := by
  have members (items : List DeclId) (listed : child ∈ items) (before : Pass) :
      aim.Delivers job (items.forM (job.emitMember nested)) before :=
    .forM listed (fun item => .emitMember below item)
      (fun before => emitMember_delivers reached owned ordinary lowers delivers before) before
  refine .ask_bind ?_
  intro decl found
  rw [Program.nested, Program.decl_eq_ok.mp found, Option.map_some] at inside
  cases kind : decl.kind with
  | module items =>
    rw [kind] at inside
    exact .forM inside below delivers before
  | function routine =>
    simp only [kind] at inside
    cases written : routine.isBuiltin with
    | true =>
      rw [written] at inside
      cases inside
    | false =>
      cases given : routine.body with
      | none =>
        rw [written, given] at inside
        cases inside
      | some body =>
        simp only [written, given] at inside
        exact emitRoutine_delivers reached owned ordinary below found
          (by rw [Decl.routine?, kind]; rfl) given written inside lowers delivers before
  | product items conformances env =>
    rw [kind] at inside
    refine .ask_bind ?_
    intro ty _
    exact .after_visits (.emitConformances found kind ty before) fun _ between =>
      members items inside between
  | typeExtension extended items =>
    rw [kind] at inside
    exact members items inside before
  | _ =>
    rw [kind] at inside
    cases inside

end Level

variable (realizes : ∀ levels before,
  aim.Delivers job (job.emitRoutine (job.emitWithin levels) aim.target) before)

include realizes

/-- Everything below a declaration is lowered with it. -/
theorem emitWithin_delivers (lowers : job.program.Lowers id aim.target) (levels : Nat)
    (before : Pass) : aim.Delivers job (job.emitWithin levels id) before := by
  generalize leads : aim.target = target at lowers
  induction lowers generalizing levels before with
  | refl target =>
    subst leads
    cases levels with
    | zero =>
      intro _ _ value after done
      exact ((run_throw _ _ _ _).mp done).elim
    | succ levels =>
      refine .ask_bind ?_
      intro decl found
      obtain rfl := Except.ok.inj (reached.symm.trans found)
      have listed : own.kind.routine? = some owner := owned
      cases kind : own.kind with
      | function routine => exact realizes levels before
      | _ =>
        rw [kind] at listed
        cases listed
  | step inside rest rest_ih =>
    cases levels with
    | zero =>
      intro _ _ value after done
      exact ((run_throw _ _ _ _).mp done).elim
    | succ levels =>
      exact emitLevel_delivers reached owned ordinary (Policy.Visits.emitWithin levels) inside
        (leads ▸ rest) (fun before => rest_ih levels before leads) before

/-- A module is lowered with everything in it. -/
theorem emitModule_delivers (lowers : job.program.Lowers id aim.target) (before : Pass) :
    aim.Delivers job (job.emitModule id) before := by
  refine .ask_bind ?_
  intro decl found
  generalize leads : aim.target = target at lowers
  cases lowers with
  | refl =>
    subst leads
    obtain rfl := Except.ok.inj (found.symm.trans reached)
    have listed : decl.kind.routine? = some owner := owned
    cases kind : decl.kind with
    | function routine =>
      intro _ _ value after done
      exact ((run_check_abort _ _ _ _).mp done).elim
    | _ =>
      rw [kind] at listed
      cases listed
  | step inside rest =>
    rw [Program.nested, Program.decl_eq_ok.mp found, Option.map_some] at inside
    split
    next members kind =>
      rw [kind] at inside
      exact .forM inside (Policy.Visits.emitWithin _) (emitWithin_delivers reached owned ordinary
        realizes (leads ▸ rest) job.nestingLimit) before
    next =>
      intro _ _ value after done
      exact ((run_check_abort _ _ _ _).mp done).elim

end Job.Aim

end Lowering
