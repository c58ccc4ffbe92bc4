import Lowering.Proofs.Pass.Function

/-
This file carries policies through the lowering of whole modules: witness thunks, declarations at
any depth, and the run of a pass from its start.
-/

namespace Lowering

open IR

namespace Policy

variable {job : Job} {policy : Policy job} {before : Pass}

theorem Maintains.openReceiver (name : String) (requirement implementation : Routine)
    {container : Value} (usable : policy.Usable before container) :
    policy.Maintains (job.openReceiver name requirement implementation container) before
      fun value after => policy.Usable after value := by
  unfold Job.openReceiver
  cases implementation.self with
  | none => exact .abort_bind _ _
  | some self =>
    refine .ask_bind ?_
    intro decl _
    simp only [pure_bind]
    split
    · refine .bind (.openExistentialAddr usable _) ?_
      intro opened between _ temporary
      split
      · exact .pure temporary.1
      · exact .mono (.load temporary.1) fun _ _ loaded => loaded.1
    · split
      · exact .abort_bind _ _
      · exact .mono (.openExistential usable _) fun _ _ temporary => temporary.1

theorem Maintains.packResult {result : Value} (usable : policy.Usable before result)
    (resultType required : OperandType) :
    policy.Maintains (Job.packResult result resultType required) before
      fun value after => policy.Usable after value := by
  unfold Job.packResult
  split
  · refine .bind (.allocStack _) ?_
    intro slot between steady temporary
    refine .bind (.assignValue (policy.usable_of_steady steady usable) temporary.1 _) ?_
    intro _ last later _
    exact .mono (.load (policy.usable_of_steady later temporary.1)) fun _ _ loaded => loaded.1
  · exact .pure usable

theorem Concludes.relay {id : DeclId} {args : List Value} (usable : ∀ arg ∈ args, policy.Usable before arg)
    (origin : ∀ pass function, job.Declared pass id function →
      job.CallsImplementation pass function args) (required : OperandType) :
    policy.Concludes (job.relay id args required) before := by
  refine .bind (Visits.declare id).maintains ?_
  intro function first steady declared
  refine .check_bind ?_
  intro own _
  refine .bind (.apply (policy.usable_declared declared) (all_usable steady usable)
    (Or.inr (Or.inr (origin first function declared))) own.result) ?_
  intro result second _ temporary
  refine .bind (.packResult temporary.1 own.result required) ?_
  intro packed last _ usable
  exact .ret usable

/-- A thunk forwards as many arguments as its requirement takes. -/
theorem Visits.fillThunk (name : String) (signature : Signature)
    (requirement implementation : Routine) {id : DeclId}
    (origin : ∀ pass function (args : List Value), job.Declared pass id function →
      args.length = signature.params.length → job.CallsImplementation pass function args) :
    policy.Visits
      (PassM.restoring (job.fillThunk name signature requirement implementation id)) before
      fun _ _ => True := by
  refine .writing (fun _ _ => rfl) ?_
  intro args middle length bindable
  unfold Job.forward
  split
  · exact .relay (fun arg inside => (bindable arg inside).1)
      (fun pass function declared => origin pass function args declared length) _
  · cases args with
    | nil => exact .abort_bind _ _
    | cons container rest =>
      refine .bind (.openReceiver name requirement implementation
        (bindable container (List.mem_cons_self ..)).1) ?_
      intro receiver between steady usable
      simp only [pure_bind]
      refine .relay ?_ (fun pass function declared =>
        origin pass function (receiver :: rest) declared (by simpa using length)) _
      intro arg inside
      rcases List.mem_cons.mp inside with rfl | later
      · exact usable
      · exact policy.usable_of_steady steady (bindable arg (List.mem_cons_of_mem _ later)).1

theorem Visits.thunkName (implementation requirement : DeclId) :
    policy.Visits (liftM (NamesM.thunkName job.program implementation requirement)) before
      fun _ _ => True := by
  intro formed holds value after done
  obtain ⟨names, given, rfl⟩ := (lift_names _ _ _ _).mp done
  obtain ⟨path, between, named, rest⟩ := (run_bind _ _ _ _ _).mp given
  obtain ⟨kept, _, listed⟩ := NamesM.run_functionName named
  obtain ⟨suffix, last, asked, finished⟩ := (run_bind _ _ _ _ _).mp rest
  obtain ⟨_, rfl⟩ := NamesM.run_qualified asked
  obtain ⟨_, rfl⟩ := (run_pure _ _ _ _).mp finished
  exact ⟨formed, policy.names holds kept listed, .of_module rfl (.refl _ _) rfl rfl kept, trivial⟩

theorem Visits.emitWitness {implementation requirement : DeclId}
    (origin : ∀ pass function (args : List Value) required routine unapplied,
      job.program.decl requirement = .ok required → required.routine? = some routine →
      job.program.unappliedType requirement = .ok unapplied →
      job.Declared pass implementation function → args.length = unapplied.params.length →
      job.CallsImplementation pass function args) (before : Pass) :
    policy.Visits (job.emitWitness implementation requirement) before fun _ _ => True := by
  refine .ask_bind ?_
  intro required found
  cases listed : required.routine? with
  | none => exact .abort _
  | some requiredRoutine =>
    refine .ask_bind ?_
    intro implementing _
    cases implementing.routine? with
    | none => exact .abort _
    | some routine =>
      refine .bind (.thunkName implementation requirement) ?_
      intro name first _ _
      refine .ask_bind ?_
      intro unapplied typed
      refine .bind (.discard (.getOrCreateFunction name _)) ?_
      intro _ second _ _
      refine .bind (.fillThunk name _ requiredRoutine routine ?_) ?_
      · intro pass function args declared length
        exact origin pass function args required requiredRoutine unapplied found listed typed
          declared (by simpa [Signature.lower] using length)
      · intro _ last _ _
        exact .pure trivial

theorem Visits.emitEntries {id : DeclId} {decl : Decl} {members : List DeclId}
    {conformances : List Conformance} {env : GenericEnv} (found : job.program.decl id = .ok decl)
    (kind : decl.kind = .product members conformances env) {conformance : Conformance}
    (listed : conformance ∈ conformances) (entries : List ConformanceEntry)
    (inside : ∀ entry ∈ entries, entry ∈ conformance.entries) (before : Pass) :
    policy.Visits (job.emitEntries entries) before fun _ _ => True := by
  induction entries generalizing before with
  | nil => exact .pure trivial
  | cons entry rest rest_ih =>
    have rest_inside : ∀ entry ∈ rest, entry ∈ conformance.entries :=
      fun later stays => inside later (List.mem_cons_of_mem _ stays)
    refine .ask_bind ?_
    intro requirement _
    split
    · exact rest_ih rest_inside before
    · refine .bind (.emitWitness ?_ before) ?_
      · intro pass function args required routine unapplied requires named typed declared length
        exact ⟨id, decl, members, conformances, env, conformance, entry, required, routine,
          unapplied, found, kind, listed, inside entry (List.mem_cons_self ..), requires, named,
          declared, typed, length⟩
      · intro thunk between _ _
        refine .bind (rest_ih rest_inside between) ?_
        intro others last _ _
        exact .pure trivial

theorem Visits.addWitnessTable (table : WitnessTable) :
    policy.Visits (liftM (BuildM.addWitnessTable table)) before fun _ _ => True := by
  intro formed holds value after done
  obtain ⟨builder, added, rfl⟩ := (lift_build _ _ _ _).mp done
  obtain rfl := (BuildM.run_addWitnessTable _ _ _ _).mp added
  exact ⟨formed.addWitnessTable table, policy.table table holds,
    .of_module rfl (.addWitnessTable _ _ _) rfl rfl fun _ _ given => given, trivial⟩

theorem Visits.emitConformances {id : DeclId} {decl : Decl} {members : List DeclId}
    {conformances : List Conformance} {env : GenericEnv} (found : job.program.decl id = .ok decl)
    (kind : decl.kind = .product members conformances env) (ty : Ty) (before : Pass) :
    policy.Visits (conformances.forM (job.emitConformance ty)) before fun _ _ => True := by
  refine .forM conformances before ?_
  intro conformance listed between
  refine .ask_bind ?_
  intro view _
  refine .bind (.emitEntries found kind listed conformance.entries (fun _ inside => inside)
    between) ?_
  intro entries last _ _
  exact .addWitnessTable _

section Nested

variable {nested : DeclId → PassM Unit}
  (below : policy.VisitsAll nested)

include below

theorem Visits.emitMember (id : DeclId) (before : Pass) :
    policy.Visits (job.emitMember nested id) before fun _ _ => True := by
  refine .ask_bind ?_
  intro decl _
  split
  · exact .check _
  · exact below id before

theorem Visits.emitProduct {id : DeclId} {decl : Decl} {members : List DeclId}
    {conformances : List Conformance} {env : GenericEnv} (found : job.program.decl id = .ok decl)
    (kind : decl.kind = .product members conformances env) (before : Pass) :
    policy.Visits (job.emitProduct nested id members conformances) before fun _ _ => True := by
  refine .ask_bind ?_
  intro ty _
  refine .bind (.emitConformances found kind ty before) ?_
  intro _ between _ _
  exact .forM members between fun member _ => .emitMember below member

theorem Visits.emitLevel (id : DeclId) (before : Pass) :
    policy.Visits (job.emitLevel nested id) before fun _ _ => True := by
  refine .ask_bind ?_
  intro decl found
  split
  next members _ => exact .forM members before fun member _ => below member
  · exact .abort _
  · exact .abort _
  · exact .emitRoutine below id before
  next members conformances env kind => exact .emitProduct below found kind before
  next members _ => exact .forM members before fun member _ => .emitMember below member
  · exact .pure trivial
  · exact .pure trivial
  · split
    · exact .abort _
    · exact .pure trivial
  all_goals exact .abort _

end Nested

theorem Visits.emitWithin (levels : Nat) (id : DeclId) (before : Pass) :
    policy.Visits (job.emitWithin levels id) before fun _ _ => True := by
  induction levels generalizing id before with
  | zero =>
    intro _ _ value after done
    exact ((run_throw _ _ _ _).mp done).elim
  | succ levels levels_ih => exact .emitLevel levels_ih id before

theorem Visits.emitModule (id : DeclId) (before : Pass) :
    policy.Visits (job.emitModule id) before fun _ _ => True := by
  refine .ask_bind ?_
  intro decl _
  split
  next members _ =>
    exact .forM members before fun member _ => .emitWithin job.nestingLimit member
  · exact .abort _

end Policy

/-- A lowering is a pass from its start. -/
theorem run_lower {program : Program} {options : Options} {id : DeclId} {lowered : Lowered}
    (done : lower program id options = .ok lowered) :
    ∃ pass, Job.emitModule ⟨program, options⟩ id (Pass.start options) = .ok () pass ∧
      pass.builder.module = lowered.module ∧ pass.report = lowered.report := by
  unfold Lowering.lower at done
  cases ran : Job.emitModule ⟨program, options⟩ id (Pass.start options) with
  | ok value pass =>
    simp only [ran, Except.ok.injEq] at done
    subst done
    exact ⟨pass, rfl, rfl, rfl⟩
  | error abort pass =>
    simp only [ran] at done
    cases done

/-- What holds at the start of a pass and is kept holds at its end, and every block that was left
open is reported. -/
theorem Policy.lower {program : Program} {options : Options} {id : DeclId} {lowered : Lowered}
    (policy : Policy ⟨program, options⟩) (holds : policy.Holds (Pass.start options))
    (done : lower program id options = .ok lowered) :
    ∃ pass, policy.Holds pass ∧ pass.builder.module = lowered.module ∧
      pass.report = lowered.report ∧ pass.builder.module.WellFormed ∧ pass.unreported = 0 := by
  obtain ⟨pass, ran, module, report⟩ := run_lower done
  obtain ⟨formed, holds, settled, _⟩ := Visits.emitModule id (Pass.start options)
    (Module.wellFormed_empty options.moduleName) holds () pass ran
  exact ⟨pass, holds, module, report, formed, settled.unreported⟩

end Lowering
