import Lowering.Proofs.IR.Prolonging
import Lowering.Proofs.Program.Grounding
import Lowering.Proofs.Program.Relying
import Lowering.Proofs.Thunks

/-
This file shows that every function of a program can be declared wherever functions are allotted: it
has a name and a signature, and nothing of its name was declared with another one.
-/

namespace Lowering

open IR

section Checks

variable {E A B : Type}

/-- Where a check is answered and what follows it is, both are. -/
theorem check_bind_ok {check : Except E A} {next : A → Except E B} {first : A}
    (given : check = .ok first) (rest : ∃ value, next first = .ok value) :
    ∃ value, (check >>= next) = .ok value :=
  rest.imp fun _ done => (check_bind _ _ _).mpr ⟨first, given, done⟩

/-- Where every item has an answer, so do all of them. -/
theorem check_mapM_ok {check : A → Except E B} (items : List A)
    (each : ∀ item ∈ items, ∃ value, check item = .ok value) :
    ∃ values, items.mapM check = .ok values := by
  induction items with
  | nil => exact ⟨[], rfl⟩
  | cons item rest rest_ih =>
    obtain ⟨value, given⟩ := each item (List.mem_cons_self ..)
    obtain ⟨values, others⟩ := rest_ih fun later inside => each later (List.mem_cons_of_mem _ inside)
    rw [List.mapM_cons]
    exact check_bind_ok given (check_bind_ok others ⟨_, rfl⟩)

end Checks

/-- What the declarations of a program rely on is there, and their names tell them apart. -/
structure Program.Complete (program : Program) : Prop where
  plain : program.PlainNames
  founded : program.Founded
  sited : program.Sited
  grounded : program.Grounded
  relies : program.Relies

namespace Program.Complete

variable {program : Program} (complete : program.Complete)

include complete

theorem segment {id : DeclId} {decl : Decl} (found : program.find? id = some decl) :
    ∃ segment, program.segment decl = .ok segment := by
  have relied := complete.relies id decl found
  obtain ⟨name, kind, ty, parent, span⟩ := decl
  cases kind with
  | typeExtension extended members =>
    obtain ⟨base, there⟩ := find?_of_lt (relied extended (List.mem_singleton_self _))
    exact check_bind_ok (decl_eq_ok.mpr there) ⟨_, rfl⟩
  | _ => exact ⟨_, rfl⟩

/-- By induction on the steps: every declaration stands behind the space around it. -/
theorem pathFrom {steps : Nat} {scope : Option DeclId} (ends : program.Ends steps scope) :
    ∃ path, program.pathFrom steps scope = .ok path := by
  induction steps generalizing scope with
  | zero =>
    cases scope with
    | none => exact ⟨[], rfl⟩
    | some id => exact absurd (ends id rfl).2 (Nat.not_lt_zero _)
  | succ steps steps_ih =>
    cases scope with
    | none => exact ⟨[], rfl⟩
    | some id =>
      obtain ⟨inside, below⟩ := ends id rfl
      obtain ⟨decl, found⟩ := find?_of_lt inside
      obtain ⟨outer, walked⟩ :=
        steps_ih (complete.founded.ends_parent found (Nat.le_of_lt_succ below))
      obtain ⟨name, named⟩ := complete.segment found
      refine check_bind_ok (decl_eq_ok.mpr found) ?_
      cases decl.kind with
      | module => exact ⟨[], rfl⟩
      | _ => exact check_bind_ok named (check_bind_ok walked ⟨_, rfl⟩)

theorem qualifiedName {id : DeclId} (there : id.index < program.size) :
    ∃ name, program.qualifiedName id = .ok name := by
  have ends : program.Ends program.walkLimit (some id) := by
    rintro _ ⟨⟩
    exact ⟨there, Nat.lt_succ_of_lt there⟩
  obtain ⟨path, walked⟩ := complete.pathFrom ends
  exact check_bind_ok walked ⟨_, rfl⟩

/-- Every declaration can be named, whatever names were given before. -/
theorem functionName {id : DeclId} (there : id.index < program.size) (names : Names) :
    ∃ name after, NamesM.functionName program id names = .ok name after := by
  obtain ⟨path, qualifies⟩ := complete.qualifiedName there
  rw [NamesM.functionName_eq]
  cases names.assigned.get? id with
  | some name => exact ⟨name, names, rfl⟩
  | none =>
    simp only [qualifies]
    exact ⟨_, _, rfl⟩

variable {id : DeclId} {decl : Decl} {routine : Routine} (found : program.find? id = some decl)
  (listed : decl.routine? = some routine)

include found listed

theorem unappliedType : ∃ funType, program.unappliedType id = .ok funType := by
  refine check_bind_ok (decl_eq_ok.mpr found) ?_
  rw [listed]
  dsimp only
  split
  · have relied := complete.relies id decl found
    have received : ∃ ty, program.receiverType routine = .ok ty := by
      unfold receiverType
      cases given : routine.self with
      | none => exact ⟨_, rfl⟩
      | some self =>
        obtain ⟨own, there⟩ := find?_of_lt (relied self (by simp [Decl.relied, listed, given]))
        exact check_bind_ok (decl_eq_ok.mpr there) ⟨_, rfl⟩
    obtain ⟨ty, received⟩ := received
    exact check_bind_ok received ⟨_, rfl⟩
  · exact ⟨_, rfl⟩

theorem captures : ∃ captures, program.captures id = .ok captures ∧
    ∀ capture ∈ captures, ∃ own, program.find? capture = some own :=
  complete.grounded.captures complete.sited complete.founded found listed

/-- Every function has a signature. -/
theorem signature (options : Options) :
    ∃ signature, Job.signature ⟨program, options⟩ id = .ok signature := by
  obtain ⟨unapplied, typed⟩ := complete.unappliedType found listed
  obtain ⟨captures, captured, there⟩ := complete.captures found listed
  have bound : ∃ types, captures.mapM (fun capture => do
      let decl ← (liftM (program.decl capture) : CheckM Decl)
      return OperandType.object (decl.ty.base.contextualized routine.env)) = .ok types := by
    refine check_mapM_ok captures fun capture inside => ?_
    obtain ⟨own, there⟩ := there capture inside
    exact check_bind_ok ((lift_answer _ _).mpr (decl_eq_ok.mpr there)) ⟨_, rfl⟩
  obtain ⟨types, bound⟩ := bound
  refine check_bind_ok ((lift_answer _ _).mpr (decl_eq_ok.mpr found)) ?_
  rw [listed]
  refine check_bind_ok ((lift_answer _ _).mpr typed) ?_
  refine check_bind_ok ((lift_answer _ _).mpr captured) ?_
  exact check_bind_ok bound ⟨_, rfl⟩

end Program.Complete

namespace Job

/-- What is declared under the name of a function has the signature of the function. -/
theorem Allots.signature {job : Job} (plain : job.program.PlainNames) {names : Names}
    (distinct : names.Distinct job.program) {id : DeclId} {name : String} {signature : Signature}
    (allots : job.Allots names name signature) (assigned : names.assigned.get? id = some name) :
    job.signature id = .ok signature := by
  cases allots with
  | routine other also signed => exact distinct.injective other id name also assigned ▸ signed
  | thunk entry unapplied listed named => exact (named.not_assigned plain distinct id assigned).elim

variable {job : Job} {id : DeclId} {decl : Decl} {routine : Routine} {before : Pass}

/-- A function is declared wherever functions are allotted, and a block that is open stays open. -/
theorem declare_returns (complete : job.program.Complete) (allotted : job.Allotted before)
    (found : job.program.find? id = some decl) (listed : decl.routine? = some routine) :
    ∃ value after, job.declare id before = .ok value after ∧ job.Allotted after ∧
      after.report = before.report ∧ before.builder.StaysOpen after.builder := by
  obtain ⟨name, names, named⟩ :=
    complete.functionName (Program.lt_of_find? found) before.names
  obtain ⟨signature, signed⟩ := complete.signature found listed job.options
  have assigned := (NamesM.run_functionName named).2.1
  have settled := allotted.functionName complete.plain named
  have declares {value : Value} {builder : Builder}
      (created : BuildM.getOrCreateFunction name signature before.builder = .ok value builder) :
      job.declare id before = .ok value { before with names := names, builder := builder } :=
    (run_bind _ _ _ _ _).mpr ⟨name, _, (lift_names _ _ _ _).mpr ⟨names, named, rfl⟩,
      (run_check_bind _ _ _ _ _).mpr ⟨signature, signed, (lift_build _ _ _ _).mpr
        ⟨builder, created, rfl⟩⟩⟩
  cases created : BuildM.getOrCreateFunction name signature before.builder with
  | ok value builder =>
    refine ⟨value, _, declares created, ?_⟩
    obtain ⟨_, ⟨_, _, _, rfl⟩ | ⟨absent, rfl⟩⟩ := BuildM.run_getOrCreateFunction created
    · exact ⟨settled, rfl, .refl _⟩
    · exact ⟨settled.addFunction (.routine id assigned signed), rfl, .addFunction _ name signature⟩
  | error error builder =>
    obtain ⟨existing, present, differs, _⟩ := BuildM.run_getOrCreateFunction_error created
    have allots := settled.functions name existing.signature (by simp [Module.signature?, present])
    have own := allots.signature complete.plain settled.distinct assigned
    exact (differs (Except.ok.inj (own.symm.trans signed))).elim

end Job

end Lowering
