import Lowering.Proofs.Resumption

/-
This file holds the states that a pass goes through while the body of a function is lowered. What
outlasts the lowering of a module holds in each of them.
-/

namespace Lowering

open IR

namespace Job

variable {job : Job} {root id : DeclId}

/--
The lowering of a module gets to these states while it lowers the body of a function. It enters the
body once the arguments are bound, and goes on by the steps that a body takes.
-/
inductive Inside (job : Job) (root id : DeclId) : Pass → Prop
  | entered {levels : Nat} {start middle entered : Pass} {decl : Decl} {routine : Routine}
    {reference : Value} {name : String} {function : Function} {locals : Locals}
    (calls : job.Calls root (levels + 1) id start) (found : job.program.decl id = .ok decl)
    (listed : decl.routine? = some routine) (filled : routine.isFilled = true)
    (declares : job.declare id start = .ok reference middle)
    (assigned : middle.names.assigned.get? id = some name)
    (present : middle.builder.module.function? name = some function)
    (empty : function.isDeclaration = true)
    (enters : job.enter id routine name function.signature middle = .ok locals entered) :
    Inside job root id entered
  /-- An instruction defines a temporary. -/
  | define {pass : Pass} {type : OperandType} {instruction : TempId → Instruction} {value : Value}
    {builder : Builder} (inside : Inside job root id pass)
    (done : BuildM.define type instruction pass.builder = .ok value builder) :
    Inside job root id { pass with builder := builder }
  | append {pass : Pass} {instruction : Instruction} {value : Unit} {builder : Builder}
    (inside : Inside job root id pass) (plain : instruction.closure? = none)
    (done : BuildM.append instruction pass.builder = .ok value builder) :
    Inside job root id { pass with builder := builder }
  | report {pass : Pass} (inside : Inside job root id pass) (finding : Finding) :
    Inside job root id { pass with report := pass.report.add finding.diagnostic }
  | names {pass : Pass} {names : Names} {other : DeclId} {name : String}
    (inside : Inside job root id pass)
    (given : NamesM.functionName job.program other pass.names = .ok name names) :
    Inside job root id { pass with names := names }
  /-- A function is declared. -/
  | function {pass : Pass} (inside : Inside job root id pass) (name : String)
    (signature : Signature) (allots : job.Allots pass.names name signature)
    (absent : pass.builder.module.function? name = none) :
    Inside job root id { pass with
      builder := pass.builder.modifyModule
        (Module.addFunction · (Function.declared name signature)) }
  /-- A declaration inside the body is lowered. -/
  | nested {pass after : Pass} {levels : Nat} {inner : DeclId} (inside : Inside job root id pass)
    (done : job.emitWithin levels inner pass = .ok () after) : Inside job root id after

/-- What comes before the body of a function is lowered. -/
def begins (job : Job) (id : DeclId) : PassM Locals := do
  discard <| job.declare id
  let name ← NamesM.functionName job.program id
  let routine ← Frame.routine ⟨job, id⟩
  match (← get).builder.module.function? name with
  | none => abort (.undeclared name)
  | some function =>
    if !function.isDeclaration then abort (.loweredTwice name)
    job.enter id routine name function.signature

/-- A body that is begun has its function declared, and nothing is in that function before. -/
theorem run_begins {start entered : Pass} {locals : Locals}
    (filled : (Frame.routine ⟨job, id⟩).toOption.map Routine.isFilled = some true)
    (begins : job.begins id start = .ok locals entered) :
    ∃ decl routine reference middle name function, job.program.decl id = .ok decl ∧
      decl.routine? = some routine ∧ routine.isFilled = true ∧
      job.declare id start = .ok reference middle ∧
      middle.names.assigned.get? id = some name ∧
      middle.builder.module.function? name = some function ∧ function.isDeclaration = true ∧
      job.enter id routine name function.signature middle = .ok locals entered := by
  obtain ⟨_, middle, discarded, begins⟩ := (run_bind _ _ _ _ _).mp begins
  obtain ⟨reference, declares, _⟩ := (run_map _ _ _ _ _).mp discarded
  obtain ⟨name, _, function, assigned, _, _, present, _⟩ := Job.run_declare declares
  obtain ⟨given, _, lifted, begins⟩ := (run_bind _ _ _ _ _).mp begins
  obtain ⟨names, named, rfl⟩ := (lift_names _ _ _ _).mp lifted
  rw [NamesM.functionName_of_assigned assigned] at named
  obtain ⟨rfl, rfl⟩ := EStateM.Result.ok.inj named
  obtain ⟨routine, owned, begins⟩ := (run_check_bind _ _ _ _ _).mp begins
  obtain ⟨_, _, read, begins⟩ := (run_bind _ _ _ _ _).mp begins
  obtain ⟨rfl, rfl⟩ := (run_get _ _ _).mp read
  simp only [present] at begins
  rw [owned] at filled
  obtain ⟨decl, found, listed⟩ := Frame.decl_of_routine owned
  split at begins
  next =>
    obtain ⟨_, _, stops, _⟩ := (run_bind _ _ _ _ _).mp begins
    exact ((run_check_abort _ _ _ _).mp stops).elim
  next empty =>
    exact ⟨decl, routine, reference, _, name, function, found, listed, Option.some.inj filled,
      declares, assigned, present, by simpa using empty, begins⟩

/-- Whoever comes to a function with a body may begin with it. -/
theorem Inside.of_begins {levels : Nat} {start entered : Pass} {locals : Locals}
    (calls : job.Calls root (levels + 1) id start)
    (filled : (Frame.routine ⟨job, id⟩).toOption.map Routine.isFilled = some true)
    (begins : job.begins id start = .ok locals entered) : job.Inside root id entered := by
  obtain ⟨_, _, _, _, _, _, found, listed, filled, declares, assigned, present, empty, enters⟩ :=
    run_begins filled begins
  exact .entered calls found listed filled declares assigned present empty enters

/-- Where a pass gets to if it begins with the body of a function right at the start. -/
def begun (job : Job) (id : DeclId) : Pass :=
  match job.begins id (Pass.start job.options) with
  | .ok _ pass | .error _ pass => pass

/-- The first member of a module is lowered right at the start. -/
theorem Inside.first {later : List DeclId}
    (seen : (job.program.find? root).map (fun decl => (decl.kindText, decl.members)) =
      some ("module", id :: later))
    (filled : (Frame.routine ⟨job, id⟩).toOption.map Routine.isFilled = some true)
    (returns : ((job.begins id).run' (Pass.start job.options)).isSome = true) :
    job.Inside root id (job.begun id) := by
  obtain ⟨main, found, kind⟩ := Program.module_of_seen seen
  obtain ⟨locals, entered, begins⟩ := ok_of_run' returns
  have kind : main.kind = .module ([] ++ id :: later) := kind
  have calls : job.Calls root (2 * job.program.size + 1 + 1) id (Pass.start job.options) :=
    .member found kind rfl
  simp only [begun, begins]
  exact .of_begins calls filled begins

/-- Wherever the lowering of a body gets to, its function is there. -/
theorem Inside.routine {pass : Pass} (inside : job.Inside root id pass) :
    ∃ decl routine, job.program.find? id = some decl ∧ decl.routine? = some routine := by
  induction inside with
  | entered _ found listed => exact ⟨_, _, Program.decl_eq_ok.mp found, listed⟩
  | define _ _ inside_ih | append _ _ _ inside_ih | report _ _ inside_ih | names _ _ inside_ih
  | function _ _ _ _ _ inside_ih | nested _ _ inside_ih => exact inside_ih

/-- The steps that a body takes stay inside it. -/
def staying (job : Job) (root id : DeclId) : Invariant job where
  Holds := job.Inside root id
  define inside _ done := .define inside done
  append inside plain done := .append inside plain done
  report finding inside := .report inside finding
  names inside given := .names inside given
  function name signature inside allots absent := .function inside name signature allots absent

section Steps

variable {levels : Nat} {start reached : Activation}

theorem staying_footing (job : Job) (root id : DeclId) :
    @Invariant.Footing ⟨job, id⟩ (job.staying root id) (fun _ => True) fun _ => True :=
  .of_free (fun _ _ _ => trivial) fun _ _ => trivial

/-- A body that is lowered statement by statement goes through these states. -/
theorem Inside.emitStmt (inside : job.Inside root id start.pass) {stmt : Stmt} {flow : Flow}
    (done : Frame.emitStmt ⟨job, id⟩ (job.emitWithin levels) stmt start = .ok flow reached) :
    job.Inside root id reached.pass := by
  let kept : Invariant (Frame.mk job id).toJob := job.staying root id
  have below (inner : DeclId) : kept.Keeps (job.emitWithin levels inner) fun _ => True :=
    ⟨fun _ _ _ inside done => ⟨.nested inside done, trivial⟩, fun _ _ _ _ _ => trivial⟩
  have continues := kept.continues_emitStmt (staying_footing job root id) below stmt
    fun _ _ => trivial
  exact (continues.ok _ _ _ ⟨inside, trivial⟩ done).1.1

/-- So does the lowering of every expression. -/
theorem Inside.emitValue (inside : job.Inside root id start.pass) {expr : Expr} {value : Value}
    (done : Frame.emitValue ⟨job, id⟩ expr start = .ok value reached) :
    job.Inside root id reached.pass := by
  let kept : Invariant (Frame.mk job id).toJob := job.staying root id
  have footing : kept.Footing (fun _ => True) fun _ => True := staying_footing job root id
  have continues : kept.Continues (fun _ => True) (Frame.emitValue ⟨job, id⟩ expr) :=
    .evaluate _ fun _ known => kept.emitValue (footing.covers known) expr
  exact (continues.ok _ _ _ ⟨inside, trivial⟩ done).1.1

end Steps

end Job

/-- What outlasts the lowering of a module holds inside every body. -/
theorem Lasting.holds_inside {job : Job} (kept : Lasting job) (free : kept.Free)
    (start : kept.Holds (Pass.start job.options)) {root id : DeclId} {pass : Pass}
    (inside : job.Inside root id pass) : kept.Holds pass := by
  induction inside with
  | entered calls found listed filled declares assigned present empty enters =>
    have holds := kept.holds_calls free start calls
    have holds := ((kept.keeps_declare id).ok _ _ _ holds declares).1
    exact kept.holds_enter holds found listed filled assigned present empty enters
  | define _ done inside_ih => exact kept.define inside_ih (fun _ _ _ => free _ _ _) done
  | append _ plain done inside_ih => exact kept.append inside_ih plain done
  | report _ finding inside_ih => exact kept.report finding inside_ih
  | names _ given inside_ih => exact kept.names inside_ih given
  | function _ name signature allots absent inside_ih =>
    exact kept.function name signature inside_ih allots absent
  | nested _ done inside_ih => exact ((kept.keeps_emitWithin _ _).ok _ _ _ inside_ih done).1

end Lowering
