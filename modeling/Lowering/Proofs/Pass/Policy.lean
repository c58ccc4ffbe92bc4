import Lowering.Proofs.Pass.Origin

/-
This file says what it takes for a property of a pass to hold along a whole lowering. A policy
names the property and the values that may be operands, and it answers for the primitive steps. The
rules below carry it through every composition of them.
-/

namespace Lowering

open IR

/-- A property of a pass, the operands that it admits, and why every primitive step keeps both. -/
structure Policy (job : Job) where
  Holds : Pass → Prop
  /-- The values that may be operands at the insertion point. -/
  Usable : Pass → Value → Prop
  usable_of_steady : ∀ {before after : Pass} {value : Value}, before.Steady after →
    Usable before value → Usable after value
  usable_literal : ∀ (pass : Pass) {value : Value}, value.IsLiteral → Usable pass value
  usable_error : ∀ {pass : Pass} (type : OperandType),
    pass.report.containsError = true ∨ job.program.Flawed → Usable pass (Value.error type)
  usable_error_again : ∀ {pass : Pass} {value : Value} (type : OperandType),
    Usable pass value → value.isError = true → Usable pass (Value.error type)
  usable_declared : ∀ {pass : Pass} {id : DeclId} {value : Value}, job.Declared pass id value →
    Usable pass value
  define : ∀ {pass : Pass} {type : OperandType} {instruction : TempId → Instruction}
    {value : Value} {builder : Builder}, pass.Working → Holds pass →
    (∀ id, (instruction id).value? = some (Value.temp id type)) →
    (∀ id, ∀ operand ∈ (instruction id).operands, Usable pass operand) →
    (∀ id, job.Sanctioned pass (instruction id)) →
    BuildM.define type instruction pass.builder = .ok value builder →
    Holds { pass with builder := builder } ∧ Usable { pass with builder := builder } value
  append : ∀ {pass : Pass} {instruction : Instruction} {value : Unit} {builder : Builder},
    pass.Working → Holds pass → instruction.value? = none →
    (∀ operand ∈ instruction.operands, Usable pass operand) →
    BuildM.append instruction pass.builder = .ok value builder →
    Holds { pass with builder := builder }
  report : ∀ {pass : Pass} (finding : Finding), Holds pass →
    Holds { pass with report := pass.report.add finding.diagnostic }
  names : ∀ {pass : Pass} {names : Names}, Holds pass →
    (∀ id name, pass.names.assigned.get? id = some name → names.assigned.get? id = some name) →
    (∀ id name, names.assigned.get? id = some name →
      pass.names.assigned.get? id = some name ∨ job.program.HasName id name) →
    Holds { pass with names := names }
  function : ∀ {pass : Pass} {name : String} {signature : Signature},
    pass.builder.module.WellFormed → Holds pass → pass.builder.module.function? name = none →
    Holds { pass with
      builder := pass.builder.modifyModule
        (Module.addFunction · (Function.declared name signature)) }
  block : ∀ {pass : Pass} {name : String} {params : List OperandType} {label : LabelId}
    {args : List Value} {builder : Builder}, pass.builder.module.WellFormed → Holds pass →
    BuildM.createBlock name params pass.builder = .ok (label, args) builder →
    Holds { pass with builder := { builder with cursor := some ⟨name, label⟩ } } ∧
      ∀ arg ∈ args, Usable { pass with builder := { builder with cursor := some ⟨name, label⟩ } } arg
  table : ∀ {pass : Pass} (table : WitnessTable), Holds pass →
    Holds { pass with builder := pass.builder.modifyModule (Module.addWitnessTable · table) }
  cursor : ∀ {pass : Pass} (cursor : Option Cursor), Holds pass → Holds (pass.withCursor cursor)

namespace Policy

variable {job : Job} (policy : Policy job) {A B : Type}

/-- A step of a pass that writes to the open block and keeps the policy. -/
def Maintains (step : PassM A) (before : Pass) (post : A → Pass → Prop) : Prop :=
  before.Working → policy.Holds before → ∀ value after, step before = .ok value after →
    after.Working ∧ policy.Holds after ∧ before.Steady after ∧ post value after

/-- A step of a pass that writes other functions, whether or not a block is open. -/
def Visits (step : PassM A) (before : Pass) (post : A → Pass → Prop) : Prop :=
  before.builder.module.WellFormed → policy.Holds before → ∀ value after,
    step before = .ok value after → after.builder.module.WellFormed ∧ policy.Holds after ∧
      before.Settles after ∧ post value after

/-- An action that writes other functions for every declaration. -/
def VisitsAll (nested : DeclId → PassM Unit) : Prop :=
  ∀ id before, policy.Visits (nested id) before fun _ _ => True

/-- A step of a pass that writes to the open block and is done with it. -/
def Concludes (step : PassM A) (before : Pass) : Prop :=
  before.Working → policy.Holds before → ∀ value after, step before = .ok value after →
    after.builder.module.WellFormed ∧ policy.Holds after ∧ before.Closes after

/-- A temporary that may be an operand. -/
def Temporary (pass : Pass) (value : Value) : Prop :=
  policy.Usable pass value ∧ value.temp?.isSome = true

/-- A value that may be bound to a local. -/
def Bindable (pass : Pass) (value : Value) : Prop :=
  policy.Usable pass value ∧ value.IsLocal

/-- Every value that is bound may be used. -/
def Bound (pass : Pass) (locals : Locals) : Prop :=
  ∀ id value, locals.get? id = some value → policy.Bindable pass value

/-- An activation that can go on: its block is open and its locals are usable. -/
structure Ready (activation : Activation) : Prop where
  working : activation.pass.Working
  holds : policy.Holds activation.pass
  locals : policy.Bound activation.pass activation.locals

/-- A step of a body that writes to the open block and keeps the policy. -/
def Keeps (step : BodyM A) (before : Activation) (post : A → Activation → Prop) : Prop :=
  policy.Ready before → ∀ value after, step before = .ok value after →
    policy.Ready after ∧ before.pass.Steady after.pass ∧ post value after

/-- An attempt keeps the policy also when it fails. -/
def Tries (attempt : Attempt A) (before : Activation) (post : A → Activation → Prop) : Prop :=
  policy.Keeps attempt.run before fun result after => ∀ value, result = .ok value → post value after

variable {policy}

theorem Temporary.bindable {pass : Pass} {value : Value} (temporary : policy.Temporary pass value) :
    policy.Bindable pass value :=
  ⟨temporary.1, Or.inr temporary.2⟩

theorem Bindable.of_steady {before after : Pass} {value : Value} (steady : before.Steady after)
    (bindable : policy.Bindable before value) : policy.Bindable after value :=
  ⟨policy.usable_of_steady steady bindable.1, bindable.2⟩

theorem Bound.of_steady {before after : Pass} {locals : Locals} (steady : before.Steady after)
    (bound : policy.Bound before locals) : policy.Bound after locals :=
  fun id value found => (bound id value found).of_steady steady

theorem bound_empty (pass : Pass) : policy.Bound pass Table.empty := by
  intro id value found
  simp [Table.get?_empty] at found

theorem Bound.insert {pass : Pass} {locals : Locals} {value : Value}
    (bound : policy.Bound pass locals) (id : DeclId) (bindable : policy.Bindable pass value) :
    policy.Bound pass (locals.insert id value) := by
  intro other kept found
  by_cases same : other = id
  · subst same
    obtain rfl : value = kept := by simpa using found
    exact bindable
  · rw [Table.get?_insert_of_ne _ _ _ _ same] at found
    exact bound other kept found

namespace Maintains

variable {before : Pass} {step : PassM A} {post : A → Pass → Prop}

theorem pure {value : A} (met : post value before) :
    policy.Maintains (Pure.pure value) before post := by
  intro working holds other after done
  obtain ⟨rfl, rfl⟩ := (run_pure _ _ _ _).mp done
  exact ⟨working, holds, .refl before, met⟩

theorem bind {next : A → PassM B} {last : B → Pass → Prop}
    (first : policy.Maintains step before post)
    (rest : ∀ value between, before.Steady between → post value between →
      policy.Maintains (next value) between last) :
    policy.Maintains (step >>= next) before last := by
  intro working holds value after done
  obtain ⟨middle, between, ran, done⟩ := (run_bind _ _ _ _ _).mp done
  obtain ⟨working, holds, steady, met⟩ := first working holds middle between ran
  obtain ⟨working, holds, later, met⟩ :=
    rest middle between steady met working holds value after done
  exact ⟨working, holds, steady.trans later, met⟩

theorem mono {weaker : A → Pass → Prop} (kept : policy.Maintains step before post)
    (weaken : ∀ value after, post value after → weaker value after) :
    policy.Maintains step before weaker := by
  intro working holds value after done
  obtain ⟨working, holds, steady, met⟩ := kept working holds value after done
  exact ⟨working, holds, steady, weaken value after met⟩

theorem abort (violation : Violation) :
    policy.Maintains (liftM (Lowering.abort violation : CheckM A)) before post := by
  intro _ _ value after done
  exact ((run_check_abort _ _ _ _).mp done).elim

theorem check_bind {question : CheckM A} {next : A → PassM B} {last : B → Pass → Prop}
    (rest : ∀ value, question = .ok value → policy.Maintains (next value) before last) :
    policy.Maintains (liftM question >>= next) before last := by
  intro working holds value after done
  obtain ⟨answer, given, done⟩ := (run_check_bind _ _ _ _ _).mp done
  exact rest answer given working holds value after done

theorem abort_bind (violation : Violation) (next : A → PassM B) {last : B → Pass → Prop} :
    policy.Maintains (liftM (Lowering.abort violation : CheckM A) >>= next) before last :=
  check_bind fun _ given => ((check_abort _ _).mp given).elim

theorem ask_bind {question : Answer A} {next : A → PassM B} {last : B → Pass → Prop}
    (rest : ∀ value, question = .ok value → policy.Maintains (next value) before last) :
    policy.Maintains (liftM question >>= next) before last :=
  check_bind fun value given => rest value ((lift_answer _ _).mp given)

/-- Building steps are lifted one by one. -/
theorem build_bind {step : BuildM A} {next : A → BuildM B} {last : B → Pass → Prop}
    (first : policy.Maintains (liftM step) before post)
    (rest : ∀ value between, before.Steady between → post value between →
      policy.Maintains (liftM (next value)) between last) :
    policy.Maintains (liftM (step >>= next)) before last := by
  refine fun working holds value after done => bind first rest working holds value after ?_
  obtain ⟨builder, ran, rfl⟩ := (lift_build _ _ _ _).mp done
  obtain ⟨middle, between, ran, rest⟩ := (run_bind _ _ _ _ _).mp ran
  refine (run_bind _ _ _ _ _).mpr ⟨middle, { before with builder := between }, ?_, ?_⟩
  · exact (lift_build _ _ _ _).mpr ⟨between, ran, rfl⟩
  · exact (lift_build _ _ _ _).mpr ⟨builder, rest, rfl⟩

end Maintains

namespace Visits

variable {before : Pass} {step : PassM A} {post : A → Pass → Prop}

theorem maintains (kept : policy.Visits step before post) :
    policy.Maintains step before post := by
  intro working holds value after done
  obtain ⟨formed, holds, settled, met⟩ := kept working.formed holds value after done
  exact ⟨settled.working working formed, holds, settled.steady, met⟩

theorem pure {value : A} (met : post value before) :
    policy.Visits (Pure.pure value) before post := by
  intro formed holds other after done
  obtain ⟨rfl, rfl⟩ := (run_pure _ _ _ _).mp done
  exact ⟨formed, holds, .refl before, met⟩

theorem bind {next : A → PassM B} {last : B → Pass → Prop}
    (first : policy.Visits step before post)
    (rest : ∀ value between, before.Settles between → post value between →
      policy.Visits (next value) between last) :
    policy.Visits (step >>= next) before last := by
  intro formed holds value after done
  obtain ⟨middle, between, ran, done⟩ := (run_bind _ _ _ _ _).mp done
  obtain ⟨formed, holds, settled, met⟩ := first formed holds middle between ran
  obtain ⟨formed, holds, later, met⟩ :=
    rest middle between settled met formed holds value after done
  exact ⟨formed, holds, settled.trans later, met⟩

theorem abort (violation : Violation) :
    policy.Visits (liftM (Lowering.abort violation : CheckM A)) before post := by
  intro _ _ value after done
  exact ((run_check_abort _ _ _ _).mp done).elim

theorem check (question : CheckM A) :
    policy.Visits (liftM question) before fun _ _ => True := by
  intro formed holds value after done
  obtain ⟨_, rfl⟩ := (lift_check _ _ _ _).mp done
  exact ⟨formed, holds, .refl before, trivial⟩

theorem check_bind {question : CheckM A} {next : A → PassM B} {last : B → Pass → Prop}
    (rest : ∀ value, question = .ok value → policy.Visits (next value) before last) :
    policy.Visits (liftM question >>= next) before last := by
  intro formed holds value after done
  obtain ⟨answer, given, done⟩ := (run_check_bind _ _ _ _ _).mp done
  exact rest answer given formed holds value after done

theorem abort_bind (violation : Violation) (next : A → PassM B) {last : B → Pass → Prop} :
    policy.Visits (liftM (Lowering.abort violation : CheckM A) >>= next) before last :=
  check_bind fun _ given => ((check_abort _ _).mp given).elim

theorem ask_bind {question : Answer A} {next : A → PassM B} {last : B → Pass → Prop}
    (rest : ∀ value, question = .ok value → policy.Visits (next value) before last) :
    policy.Visits (liftM question >>= next) before last :=
  check_bind fun value given => rest value ((lift_answer _ _).mp given)

theorem discard (kept : policy.Visits step before post) :
    policy.Visits (discard step) before fun _ _ => True := by
  intro formed holds value after done
  obtain ⟨first, ran, _⟩ := (run_map _ _ _ _ _).mp done
  obtain ⟨formed, holds, settled, _⟩ := kept formed holds first after ran
  exact ⟨formed, holds, settled, trivial⟩

theorem get_bind {next : Pass → PassM B} {last : B → Pass → Prop}
    (rest : policy.Visits (next before) before last) :
    policy.Visits (get >>= next) before last := by
  intro formed holds value after done
  obtain ⟨_, _, read, done⟩ := (run_bind _ _ _ _ _).mp done
  obtain ⟨rfl, rfl⟩ := (run_get _ _ _).mp read
  exact rest formed holds value after done

/-- The items are dealt with one after another. -/
theorem forM {each : B → PassM PUnit} (items : List B) (before : Pass)
    (visits : ∀ item ∈ items, ∀ before, policy.Visits (each item) before fun _ _ => True) :
    policy.Visits (items.forM each) before fun _ _ => True := by
  induction items generalizing before with
  | nil => exact .pure trivial
  | cons item rest rest_ih =>
    refine .bind (visits item (List.mem_cons_self ..) before) ?_
    intro _ between _ _
    exact rest_ih between fun later inside => visits later (List.mem_cons_of_mem _ inside)

/-- The insertion point is taken back to where it was. -/
theorem restoring
    (filled : before.builder.module.WellFormed → policy.Holds before → ∀ value after,
      step before = .ok value after → after.builder.module.WellFormed ∧ policy.Holds after ∧
        before.Settles (after.withCursor before.builder.cursor)) :
    policy.Visits (PassM.restoring step) before fun _ _ => True := by
  intro formed holds value after done
  obtain ⟨middle, ran, rfl⟩ := (run_restoring _ _ _ _).mp done
  obtain ⟨formed, holds, settled⟩ := filled formed holds value middle ran
  exact ⟨formed, policy.cursor _ holds, settled, trivial⟩

end Visits

namespace Concludes

variable {before : Pass}

theorem check_bind {question : CheckM A} {next : A → PassM B}
    (rest : ∀ value, question = .ok value → policy.Concludes (next value) before) :
    policy.Concludes (liftM question >>= next) before := by
  intro working holds value after done
  obtain ⟨answer, given, done⟩ := (run_check_bind _ _ _ _ _).mp done
  exact rest answer given working holds value after done

theorem abort_bind (violation : Violation) (next : A → PassM B) :
    policy.Concludes (liftM (Lowering.abort violation : CheckM A) >>= next) before :=
  check_bind fun _ given => ((check_abort _ _).mp given).elim

theorem bind {step : PassM A} {next : A → PassM B} {post : A → Pass → Prop}
    (first : policy.Maintains step before post)
    (rest : ∀ value between, before.Steady between → post value between →
      policy.Concludes (next value) between) :
    policy.Concludes (step >>= next) before := by
  intro working holds value after done
  obtain ⟨middle, between, ran, done⟩ := (run_bind _ _ _ _ _).mp done
  obtain ⟨working, holds, steady, met⟩ := first working holds middle between ran
  obtain ⟨formed, holds, closes⟩ :=
    rest middle between steady met working holds value after done
  exact ⟨formed, holds, steady.closes closes⟩

end Concludes

namespace Keeps

variable {before : Activation} {step : BodyM A} {post : A → Activation → Prop}

theorem pure {value : A} (met : post value before) : policy.Keeps (Pure.pure value) before post := by
  intro ready other after done
  obtain ⟨rfl, rfl⟩ := (run_pure _ _ _ _).mp done
  exact ⟨ready, .refl before.pass, met⟩

theorem bind {next : A → BodyM B} {last : B → Activation → Prop}
    (first : policy.Keeps step before post)
    (rest : ∀ value between, before.pass.Steady between.pass → post value between →
      policy.Keeps (next value) between last) :
    policy.Keeps (step >>= next) before last := by
  intro ready value after done
  obtain ⟨middle, between, ran, done⟩ := (run_bind _ _ _ _ _).mp done
  obtain ⟨ready, steady, met⟩ := first ready middle between ran
  obtain ⟨ready, later, met⟩ := rest middle between steady met ready value after done
  exact ⟨ready, steady.trans later, met⟩

theorem mono {weaker : A → Activation → Prop} (kept : policy.Keeps step before post)
    (weaken : ∀ value after, post value after → weaker value after) :
    policy.Keeps step before weaker := by
  intro ready value after done
  obtain ⟨ready, steady, met⟩ := kept ready value after done
  exact ⟨ready, steady, weaken value after met⟩

theorem check_bind {question : CheckM A} {next : A → BodyM B} {last : B → Activation → Prop}
    (rest : ∀ value, question = .ok value → policy.Keeps (next value) before last) :
    policy.Keeps (liftM question >>= next) before last := by
  intro ready value after done
  obtain ⟨answer, given, done⟩ := (run_ask_bind _ _ _ _ _).mp done
  exact rest answer given ready value after done

theorem ask_bind {question : Answer A} {next : A → BodyM B} {last : B → Activation → Prop}
    (rest : ∀ value, question = .ok value → policy.Keeps (next value) before last) :
    policy.Keeps (liftM question >>= next) before last :=
  check_bind fun value given => rest value ((lift_answer _ _).mp given)

/-- Nothing follows an abort. -/
theorem abort_bind (violation : Violation) (next : A → BodyM B) {last : B → Activation → Prop} :
    policy.Keeps (liftM (Lowering.abort violation : CheckM A) >>= next) before last :=
  check_bind fun _ given => ((check_abort _ _).mp given).elim

theorem abort (violation : Violation) :
    policy.Keeps (liftM (Lowering.abort violation : CheckM A)) before post := by
  intro _ value after done
  exact ((run_ask_abort _ _ _ _).mp done).elim

/-- A step of the pass leaves the locals as they are. -/
theorem lift {step : PassM A} {post : A → Pass → Prop}
    (kept : policy.Maintains step before.pass post) :
    policy.Keeps (liftM step) before fun value after => post value after.pass := by
  intro ready value after done
  obtain ⟨pass, ran, rfl⟩ := (lift_pass step _ _ _).mp done
  obtain ⟨working, holds, steady, met⟩ := kept ready.working ready.holds value pass ran
  exact ⟨⟨working, holds, ready.locals.of_steady steady⟩, steady, met⟩

theorem discard (kept : policy.Keeps step before post) :
    policy.Keeps (discard step) before fun _ _ => True := by
  intro ready value after done
  obtain ⟨first, ran, _⟩ := (run_map _ _ _ _ _).mp done
  obtain ⟨ready, steady, _⟩ := kept ready first after ran
  exact ⟨ready, steady, trivial⟩

/-- What every item gives stays true while the later items are dealt with. -/
theorem mapM {each : A → BodyM B} (given : B → Pass → Prop)
    (stays : ∀ value earlier later, Pass.Steady earlier later → given value earlier →
      given value later)
    (items : List A) (before : Activation)
    (keeps : ∀ item ∈ items, ∀ before, policy.Keeps (each item) before
      fun value after => given value after.pass) :
    policy.Keeps (items.mapM each) before fun values after => values.length = items.length ∧
      ∀ value ∈ values, given value after.pass := by
  induction items generalizing before with
  | nil => exact .pure ⟨rfl, fun _ inside => nomatch inside⟩
  | cons item rest rest_ih =>
    rw [List.mapM_cons]
    refine .bind (keeps item (List.mem_cons_self ..) before) ?_
    intro first middle _ good
    refine .bind (rest_ih middle fun later inside => keeps later (List.mem_cons_of_mem _ inside)) ?_
    intro others last steady ⟨count, all⟩
    refine .pure ⟨by simp [count], ?_⟩
    intro value inside
    rcases List.mem_cons.mp inside with rfl | later
    · exact stays _ _ _ steady good
    · exact all value later

end Keeps

namespace Tries

variable {before : Activation} {attempt : Attempt A} {post : A → Activation → Prop}

theorem pure {value : A} (met : post value before) :
    policy.Tries (Pure.pure value) before post :=
  Keeps.pure fun _ same => Except.ok.inj same ▸ met

theorem fail (failure : Unlowerable) : policy.Tries (Frame.fail failure) before post :=
  Keeps.pure fun _ same => nomatch same

theorem bind {next : A → Attempt B} {last : B → Activation → Prop}
    (first : policy.Tries attempt before post)
    (rest : ∀ value between, before.pass.Steady between.pass → post value between →
      policy.Tries (next value) between last) :
    policy.Tries (attempt >>= next) before last := by
  refine Keeps.bind first ?_
  intro result between steady met
  cases result with
  | ok value => exact rest value between steady (met value rfl)
  | error failure => exact Keeps.pure fun _ same => nomatch same

/-- Nothing follows a failure. -/
theorem fail_bind (failure : Unlowerable) (next : A → Attempt B) {last : B → Activation → Prop} :
    policy.Tries (Frame.fail failure >>= next) before last := by
  have failed : policy.Tries (Frame.fail failure) before fun (_ : A) _ => False := fail failure
  refine bind failed ?_
  intro _ _ _ impossible
  exact impossible.elim

theorem mono {weaker : A → Activation → Prop} (kept : policy.Tries attempt before post)
    (weaken : ∀ value after, post value after → weaker value after) :
    policy.Tries attempt before weaker :=
  Keeps.mono kept fun _ after met value same => weaken value after (met value same)

theorem lift {step : BodyM A} (kept : policy.Keeps step before post) :
    policy.Tries (liftM step) before post := by
  refine Keeps.bind kept ?_
  intro value between _ met
  exact Keeps.pure fun _ same => Except.ok.inj same ▸ met

theorem check_bind {question : CheckM A} {next : A → Attempt B} {last : B → Activation → Prop}
    (rest : ∀ value, question = .ok value → policy.Tries (next value) before last) :
    policy.Tries (liftM question >>= next) before last := by
  intro ready result after done
  obtain ⟨answer, between, ran, done⟩ := (run_bind _ _ _ _ _).mp done
  obtain ⟨value, asked, rfl⟩ := (run_map _ _ _ _ _).mp ran
  obtain ⟨given, rfl⟩ := (run_ask _ _ _ _).mp asked
  exact rest value given ready result after done

theorem ask_bind {question : Answer A} {next : A → Attempt B} {last : B → Activation → Prop}
    (rest : ∀ value, question = .ok value → policy.Tries (next value) before last) :
    policy.Tries (liftM question >>= next) before last :=
  check_bind fun value given => rest value ((lift_answer _ _).mp given)

theorem recover {other : Unlowerable → BodyM A} (kept : policy.Tries attempt before post)
    (otherwise : ∀ failure between, before.pass.Steady between.pass →
      policy.Keeps (other failure) between post) :
    policy.Keeps (attempt.recover other) before post := by
  refine Keeps.bind kept ?_
  intro result between steady met
  cases result with
  | ok value => exact .pure (met value rfl)
  | error failure => exact otherwise failure between steady

end Tries

end Policy

end Lowering
