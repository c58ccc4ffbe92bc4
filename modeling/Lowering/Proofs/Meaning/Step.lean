import Lowering.Proofs.Meaning.Simulation

/-
This file carries the relation between a body and a call through the building steps: every
instruction that is emitted is carried out by the machine.
-/

namespace Lowering

open IR

/-- The activation with another builder. -/
def Activation.withBuilder (activation : Activation) (builder : Builder) : Activation :=
  { activation with pass := { activation.pass with builder := builder } }

/-- Nothing but the builder was changed. -/
structure Activation.Builds (before after : Activation) : Prop where
  locals : after.locals = before.locals
  report : after.pass.report = before.pass.report

theorem Activation.Builds.trans {first second third : Activation} (start : first.Builds second)
    (rest : second.Builds third) : first.Builds third :=
  ⟨rest.locals.trans start.locals, rest.report.trans start.report⟩

/-- A building step of a body runs on the builder alone. -/
theorem lift_body {A : Type} (step : BuildM A) (before after : Activation) (value : A) :
    (liftM step : BodyM A) before = .ok value after ↔
      ∃ builder, step before.pass.builder = .ok value builder ∧
        after = before.withBuilder builder := by
  refine (lift_pass (liftM step) before after value).trans ?_
  constructor
  · rintro ⟨pass, lifted, rfl⟩
    obtain ⟨builder, ran, rfl⟩ := (lift_build _ _ _ _).mp lifted
    exact ⟨builder, ran, rfl⟩
  · rintro ⟨builder, ran, rfl⟩
    exact ⟨_, (lift_build _ _ _ _).mpr ⟨builder, ran, rfl⟩, rfl⟩

theorem builds_of_lift {A : Type} {step : BuildM A} {before after : Activation} {value : A}
    (done : (liftM step : BodyM A) before = .ok value after) : before.Builds after := by
  obtain ⟨builder, _, rfl⟩ := (lift_body _ _ _ _).mp done
  exact ⟨rfl, rfl⟩

/-- A body that is lowered as far as the call is carried out. -/
structure Job.Live (job : Job) (start : Machine) (activation : Activation) (store : Store)
    (machine : Machine) : Prop where
  ready : (naming job).Ready activation
  executes : activation.pass.Executes start machine
  mirrors : machine.Mirrors activation.locals store

namespace Job.Live

variable {job : Job} {start machine : Machine} {before after : Activation} {store : Store}
  {value location : Value} {cell : Nat} {path : List DeclId} {tree : Tree}

theorem define {type : OperandType} {instruction : TempId → Instruction} {word : Word}
    {cells : List Tree} {builder : Builder} (live : job.Live start before store machine)
    (defines : ∀ id, (instruction id).value? = some (Value.temp id type))
    (steps : ∀ id, machine.step (instruction id) = some ((machine.withCells cells).define id word))
    (kept : ∀ (cell : Nat) (tree : Tree), machine.cells[cell]? = some tree →
      cells[cell]? = some tree)
    (done : BuildM.define type instruction before.pass.builder = .ok value builder) :
    ∃ later, job.Live start (before.withBuilder builder) store later ∧ machine.Extends later ∧
      later.cells = cells ∧ later.word? value = some word ∧ value.type = type := by
  obtain ⟨working, steady⟩ := live.ready.working.define defines done
  obtain ⟨result, rfl, fresh, executes⟩ := live.executes.define defines steps rfl done
  have grows : machine.Extends ((machine.withCells cells).define result word) :=
    @Machine.extends_define (machine.withCells cells) word result fresh
  exact ⟨_, ⟨⟨working, live.ready.holds, live.ready.locals.of_steady steady⟩, executes,
    live.mirrors.of_extends grows kept⟩, grows, rfl, by simp, rfl⟩

theorem append {instruction : Instruction} {cells : List Tree} {builder : Builder} {given : Unit}
    {later : Store} (live : job.Live start before store machine)
    (silent : instruction.value? = none) (continues : instruction.isTerminator = false)
    (steps : machine.step instruction = some (machine.withCells cells))
    (mirrors : (machine.withCells cells).Mirrors before.locals later)
    (done : BuildM.append instruction before.pass.builder = .ok given builder) :
    job.Live start (before.withBuilder builder) later (machine.withCells cells) := by
  obtain ⟨working, steady⟩ := live.ready.working.append silent continues done
  exact ⟨⟨working, live.ready.holds, live.ready.locals.of_steady steady⟩,
    live.executes.append continues steps rfl done, mirrors⟩

/-- A new cell is undefined. -/
theorem allocStack {ty : Ty} (live : job.Live start before store machine)
    (done : (liftM (BuildM.allocStack ty) : BodyM Value) before = .ok value after) :
    ∃ later, job.Live start after store later ∧ machine.Extends later ∧
      later.cells = machine.cells ++ [.undefined] ∧
      later.word? value = some (.address machine.cells.length []) ∧ value.type = .address ty := by
  obtain ⟨builder, ran, rfl⟩ := (lift_body _ _ _ _).mp done
  have kept (cell : Nat) (tree : Tree) (stored : machine.cells[cell]? = some tree) :
      (machine.cells ++ [Tree.undefined])[cell]? = some tree := by
    rw [List.getElem?_append_left (List.getElem?_eq_some_iff.mp stored).1, stored]
  obtain ⟨later, live, grows, cells, word, type⟩ :=
    live.define (fun _ => rfl) (fun _ => rfl) kept ran
  exact ⟨later, live, grows, cells, word, type⟩

theorem recordMemberAddr {record : Value} {member : DeclId} {name : String} {ty : Ty}
    (live : job.Live start before store machine)
    (leads : machine.word? record = some (.address cell path))
    (done : (liftM (BuildM.recordMemberAddr record member name ty) : BodyM Value) before =
      .ok value after) :
    ∃ later, job.Live start after store later ∧ machine.Extends later ∧
      later.cells = machine.cells ∧
      later.word? value = some (.address cell (path ++ [member])) ∧ value.type = .address ty := by
  obtain ⟨builder, ran, rfl⟩ := (lift_body _ _ _ _).mp done
  obtain ⟨_, _, checked, ran⟩ := (run_bind _ _ _ _ _).mp ran
  obtain ⟨_, rfl⟩ := BuildM.run_requireAddress checked
  have steps (id : TempId) :
      machine.step (.recordMemberAddr id record member name (.address ty)) =
        some ((machine.withCells machine.cells).define id (.address cell (path ++ [member]))) := by
    simp [Machine.step, Machine.address?_of_word? leads, Machine.withCells]
  obtain ⟨later, live, grows, cells, word, type⟩ :=
    live.define (fun _ => rfl) steps (fun _ _ stored => stored) ran
  exact ⟨later, live, grows, cells, word, type⟩

theorem load (live : job.Live start before store machine)
    (leads : machine.word? location = some (.address cell path))
    (stored : machine.cells[cell]? = some tree)
    (done : (liftM (BuildM.load location) : BodyM Value) before = .ok value after) :
    ∃ later, job.Live start after store later ∧ machine.Extends later ∧
      later.word? value = some (.tree (tree.get path)) := by
  obtain ⟨builder, ran, rfl⟩ := (lift_body _ _ _ _).mp done
  obtain ⟨_, _, checked, ran⟩ := (run_bind _ _ _ _ _).mp ran
  obtain ⟨_, rfl⟩ := BuildM.run_requireAddress checked
  have steps (id : TempId) :
      machine.step (.load id location location.type.asObject) =
        some ((machine.withCells machine.cells).define id (.tree (tree.get path))) := by
    simp [Machine.step, Machine.address?_of_word? leads, stored, Machine.withCells]
  obtain ⟨later, live, grows, _, word, _⟩ :=
    live.define (fun _ => rfl) steps (fun _ _ stored => stored) ran
  exact ⟨later, live, grows, word⟩

section Store

variable {given : Unit}

theorem step_store (leads : machine.word? location = some (.address cell path))
    (word : machine.word? value = some (.tree tree)) {old : Tree}
    (stored : machine.cells[cell]? = some old) :
    machine.step (.store value location) =
      some (machine.withCells (machine.cells.set cell (Tree.set tree path old))) := by
  simp [Machine.step, Machine.address?_of_word? leads, Machine.tree?_of_word? word, stored]

/-- A value is stored as it is in a location that is no container. -/
theorem assignValue_eq_store (sound : location.isError = false)
    (concrete : location.type.ty.isExistential = false) (ty : Ty) :
    BuildM.assignValue value ty location = BuildM.store value location := by
  simp [BuildM.assignValue, sound, concrete]

/-- A store to a member of a local changes that local. -/
theorem store_bound {id : DeclId} {bound : Value} (live : job.Live start before store machine)
    (found : before.locals.get? id = some bound)
    (points : machine.word? bound = some (.address cell []))
    (leads : machine.word? location = some (.address cell path))
    (word : machine.word? value = some (.tree tree))
    (done : (liftM (BuildM.store value location) : BodyM Unit) before = .ok given after) :
    ∃ old later, store id = some old ∧ machine.Extends later ∧
      job.Live start after (store.put id (Tree.set tree path old)) later := by
  obtain ⟨builder, ran, rfl⟩ := (lift_body _ _ _ _).mp done
  obtain ⟨_, _, checked, ran⟩ := (run_bind _ _ _ _ _).mp ran
  obtain ⟨_, rfl⟩ := BuildM.run_requireAddress checked
  obtain ⟨old, known, stored⟩ := live.mirrors.exists_cell found points
  exact ⟨old, machine.withCells (machine.cells.set cell (Tree.set tree path old)), known,
    fun _ _ holds => holds, live.append rfl rfl
      (step_store leads word stored) (live.mirrors.store_bound found points _) ran⟩

/-- A store to a place that is not bound leaves every local as it is. -/
theorem store_unbound {old : Tree} (live : job.Live start before store machine)
    (unbound : ∀ id value, before.locals.get? id = some value →
      machine.word? value ≠ some (.address cell []))
    (leads : machine.word? location = some (.address cell []))
    (stored : machine.cells[cell]? = some old)
    (word : machine.word? value = some (.tree tree))
    (done : (liftM (BuildM.store value location) : BodyM Unit) before = .ok given after) :
    ∃ later, job.Live start after store later ∧ machine.Extends later ∧
      later.cells[cell]? = some tree := by
  obtain ⟨builder, ran, rfl⟩ := (lift_body _ _ _ _).mp done
  obtain ⟨_, _, checked, ran⟩ := (run_bind _ _ _ _ _).mp ran
  obtain ⟨_, rfl⟩ := BuildM.run_requireAddress checked
  refine ⟨_, live.append rfl rfl (step_store leads word stored)
    (live.mirrors.store_unbound unbound _) ran, fun _ _ holds => holds, ?_⟩
  have inside := (List.getElem?_eq_some_iff.mp stored).1
  simp [Tree.set, inside]

end Store

/-- A cell beyond the stack that a body had was never bound. -/
theorem unbound_of_extends (live : job.Live start before store machine) {later : Machine}
    (grows : machine.Extends later) {id : DeclId} {bound : Value}
    (found : before.locals.get? id = some bound) :
    later.word? bound ≠ some (.address machine.cells.length []) := by
  intro points
  exact Nat.lt_irrefl _ (live.mirrors.lt_length found
    (live.mirrors.word?_of_extends grows found points))

/-- A new cell may be bound to a variable, which is then undefined. -/
theorem bind_room {ty : Ty} {room : Value} (live : job.Live start before store machine)
    (concrete : ty.isExistential = false) (id : DeclId)
    (done : (liftM (BuildM.allocStack ty) : BodyM Value) before = .ok room after) :
    ∃ later cell, job.Live start after store later ∧ machine.Extends later ∧
      later.word? room = some (.address cell []) ∧ room.type.ty.isExistential = false ∧
      later.Mirrors (before.locals.insert id room) (store.put id .undefined) := by
  obtain ⟨later, roomy, grows, cells, points, type⟩ := live.allocStack done
  have typed : room.type.ty.isExistential = false := by rw [type]; exact concrete
  have holds : later.Holds room .undefined :=
    .cell machine.cells.length (by rw [Value.isAddress, type]; rfl) typed points (by simp [cells])
  have fresh (other : DeclId) (another : Value) (known : before.locals.get? other = some another)
      (cell : Nat) (same : later.word? room = some (.address cell [])) :
      later.word? another ≠ some (.address cell []) := by
    obtain rfl : machine.cells.length = cell := by
      rw [points] at same
      cases same
      rfl
    exact live.unbound_of_extends grows known
  have mirrors := roomy.mirrors
  rw [(builds_of_lift done).locals] at mirrors
  exact ⟨later, machine.cells.length, roomy, grows, points, typed, mirrors.bind holds fresh id⟩

/-- The block ends as the call does. -/
theorem terminate {instruction : Instruction} {outcome : Outcome} {given : Unit}
    (live : job.Live start before store machine)
    (ends : machine.run [instruction] = some outcome)
    (done : (liftM (BuildM.append instruction) : BodyM Unit) before = .ok given after) :
    after.pass.Ends start outcome := by
  obtain ⟨builder, ran, rfl⟩ := (lift_body _ _ _ _).mp done
  exact live.executes.terminate ends ran

theorem ret (live : job.Live start before store machine) {given : Unit}
    (word : machine.word? value = some (.tree tree))
    (done : (liftM (BuildM.ret value) : BodyM Unit) before = .ok given after) :
    after.pass.Ends start (.returned tree) :=
  live.terminate (by simp [Machine.run, Machine.tree?_of_word? word]) done

end Job.Live

end Lowering
