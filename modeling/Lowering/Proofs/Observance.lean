import Lowering.Proofs.Pass.Declaration
import Lowering.Proofs.Resumption

/-
This file follows a policy through the lowering of a module. It is observed wherever a declaration
is lowered, and a body finds the values that it may use bound at its start.
-/

namespace Lowering

open IR

/-- The arguments of a block are temporaries that follow one another. -/
theorem IR.BuildM.temps_of_createBlock {name : String} {params : List OperandType}
    {label : LabelId} {args : List Value} {before after : Builder}
    (created : createBlock name params before = .ok (label, args) after) :
    ∃ first, args.map Value.temp? = (List.range' first params.length).map some := by
  obtain ⟨function, _, _, rfl, _⟩ := run_createBlock created
  refine ⟨function.temps.issued, ?_⟩
  have ids : ((List.range' function.temps.issued params.length).zip params).map Prod.fst =
      List.range' function.temps.issued params.length := List.map_fst_zip (by simp)
  conv_rhs => rw [← ids]
  simp [Function.addBlock, Block.paramValues, Counter.take, Value.temp, Value.temp?]

namespace Policy

variable {job : Job} {policy : Policy job}

/-- A body starts in a block of its own, with the arguments of that block bound. -/
theorem ready_enter {id : DeclId} {routine : Routine} {name : String} {signature : Signature}
    {before after : Pass} {locals : Locals} (formed : before.builder.module.WellFormed)
    (holds : policy.Holds before)
    (enters : job.enter id routine name signature before = .ok locals after) :
    policy.Ready ⟨after, locals⟩ := by
  obtain ⟨label, args, builder, created, enters⟩ := Job.run_createBlock_bind enters
  have enters := Job.run_positionAtEnd_bind enters
  obtain ⟨holds, usable⟩ := policy.block formed holds created
  have working := (Pass.opens_block formed created).working
  have temporary (arg : Value) (inside : arg ∈ args) : arg.temp?.isSome = true := by
    obtain ⟨_, temps⟩ := BuildM.temps_of_createBlock created
    obtain ⟨temp, _, given⟩ := List.mem_map.mp (temps ▸ List.mem_map_of_mem inside)
    rw [← given]
    rfl
  obtain ⟨working, holds, _, bound⟩ := Maintains.bindEntry id routine name
    (fun arg inside => ⟨usable arg inside, Or.inr (temporary arg inside)⟩) working holds _ _ enters
  exact ⟨working, holds, bound⟩

/-- A body that goes on past some statements stays ready. -/
theorem ready_comes {levels : Nat} {id inner : DeclId} {routine : Routine} {stmts : List Stmt}
    {lowered : List DeclId} {start reached : Activation}
    (owned : Frame.routine ⟨job, id⟩ = .ok routine)
    (occurs : ∀ expr ∈ Stmt.exprsAll stmts, job.program.Occurs expr) (ready : policy.Ready start)
    (comes : Frame.ComesTo ⟨job, id⟩ (job.emitWithin levels) inner stmts start lowered reached) :
    policy.Ready reached := by
  induction comes with
  | here => exact ready
  | block _ inside_ih =>
    exact inside_ih (fun expr listed => occurs expr (List.mem_append_left _ listed)) ready
  | @later stmt _ start _ _ _ done _ comes_ih =>
    let own : Policy (Frame.mk job id).toJob := policy
    have below : own.VisitsAll (job.emitWithin levels) := Visits.emitWithin levels
    have left := Flows.emitStmt below owned stmt
      (fun expr listed => occurs expr (List.mem_append_left _ listed)) start ready _ _ done
    simp only [Left, or_true, if_true] at left
    exact comes_ih (fun expr listed => occurs expr (List.mem_append_right _ listed)) left.1

theorem ready_interrupts {levels : Nat} {id inner : DeclId} {start : Pass} {name : String}
    {reached : Activation} (formed : start.builder.module.WellFormed) (holds : policy.Holds start)
    (interrupts : job.Interrupts (job.emitWithin levels) id start name inner reached) :
    policy.Ready reached := by
  obtain ⟨found, listed, given, _, declares, _, _, _, enters, comes⟩ := interrupts
  obtain ⟨formed, holds, _⟩ := Visits.declare id formed holds _ _ declares
  have owned : Frame.routine ⟨job, id⟩ = .ok _ := Frame.routine_eq_ok found listed
  exact ready_comes owned (fun _ => Program.occurs_body found listed given)
    (ready_enter formed holds enters) comes

/-- A policy is observed on the way from a declaration to what it leads to. -/
theorem holds_leads {levels : Nat} {id next : DeclId} {start reached : Pass}
    (formed : start.builder.module.WellFormed) (holds : policy.Holds start)
    (leads : job.Leads (job.emitWithin levels) id start next reached) :
    reached.builder.module.WellFormed ∧ policy.Holds reached := by
  have below : policy.VisitsAll (job.emitWithin levels) := Visits.emitWithin levels
  have members (ids : List DeclId) (before : Pass) :=
    Visits.forM ids before fun member _ => Visits.emitMember below member
  cases leads with
  | @module _ earlier _ _ _ _ done =>
    obtain ⟨formed, holds, _⟩ :=
      Visits.forM earlier start (fun member _ => below member) formed holds _ _ done
    exact ⟨formed, holds⟩
  | typeExtension _ _ done =>
    obtain ⟨formed, holds, _⟩ := members _ start formed holds _ _ done
    exact ⟨formed, holds⟩
  | product found kind _ conforms done =>
    obtain ⟨formed, holds, _⟩ :=
      Visits.emitConformances found kind _ start formed holds _ _ conforms
    obtain ⟨formed, holds, _⟩ := members _ _ formed holds _ _ done
    exact ⟨formed, holds⟩
  | body interrupts =>
    have ready := ready_interrupts formed holds interrupts
    exact ⟨ready.working.formed, ready.holds⟩

/-- A policy is observed wherever the lowering of a module has come to. -/
theorem holds_calls {root : DeclId} {levels : Nat} {id : DeclId} {reached : Pass}
    (start : policy.Holds (Pass.start job.options)) (calls : job.Calls root levels id reached) :
    reached.builder.module.WellFormed ∧ policy.Holds reached := by
  induction calls with
  | @member _ earlier _ _ _ _ _ done =>
    obtain ⟨formed, holds, _⟩ := Visits.forM earlier _
      (fun member _ => Visits.emitWithin job.nestingLimit member)
      (Module.wellFormed_empty job.options.moduleName) start _ _ done
    exact ⟨formed, holds⟩
  | further _ leads calls_ih => exact holds_leads calls_ih.1 calls_ih.2 leads

end Policy

end Lowering
