import Lowering.Proofs.Meaning.Call

/-
This file follows a declaration of the fragment from the module around it to the end of the pass.
Once the function is filled, no later step changes what it does.
-/

namespace Lowering

open IR

/-- The block with the first label is the one that is run. -/
theorem IR.Function.run_of_block {function : Function} {block : Block}
    (formed : function.WellFormed) (inside : function.block? 0 = some block) (args : List Tree) :
    function.run args = (block.enter args).run block.instructions := by
  simp [run, formed.entry_eq, inside]

namespace Job

/-- The function of a declaration ends as the calls of the declaration do. -/
def Implements (job : Job) (pass : Pass) (target : DeclId) (name : String) : Prop :=
  pass.names.assigned.get? target = some name ∧ ∃ function block,
    job.signature target = .ok function.signature ∧
    pass.builder.module.function? name = some function ∧ function.block? 0 = some block ∧
    ∀ args, args.length = function.signature.params.length → ∃ outcome,
      job.program.call target args = some outcome ∧
      (block.enter args).run block.instructions = some outcome

/-- The function of a declaration was filled between two passes. -/
def Realizes (job : Job) (before after : Pass) (target : DeclId) : Prop :=
  ∃ name, job.Implements after target name ∧ ∀ function,
    before.builder.module.function? name = some function → function.block? 0 = none

/-- The shape of a first block that ends as the calls of the declaration do. -/
def answering (job : Job) (target : DeclId) : Aim where
  target := target
  shape signature block := job.signature target = .ok signature ∧
    ∀ args, args.length = signature.params.length → ∃ outcome,
      job.program.call target args = some outcome ∧
      (block.enter args).run block.instructions = some outcome
  admits report := report.containsError = false
  earlier := Report.accepted_of_extended

variable {job : Job} {target : DeclId}

/-- In an accepted pass, the first block has that shape just if the function ends as the calls do. -/
theorem answering_realized {before after : Pass} : (job.answering target).Realized before after ↔
    (after.report.containsError = false → job.Realizes before after target) := by
  refine forall_congr' fun _ => exists_congr fun name => and_congr_left fun _ => ?_
  refine and_congr_right fun _ => exists_congr fun function => exists_congr fun block => ?_
  constructor
  · rintro ⟨found, inside, signed, runs⟩
    exact ⟨signed, found, inside, runs⟩
  · rintro ⟨signed, found, inside, runs⟩
    exact ⟨found, inside, signed, runs⟩

section Elementary

variable {nested : DeclId → PassM Unit} {id : DeclId} {decl : Decl} {routine : Routine}
  {body : Body} {before after : Pass} (elementary : job.program.Elementary id decl routine body)

include elementary

/-- Whatever a function of the fragment takes, it takes by value. -/
theorem isAddress_of_elementary {signature : Signature} (signed : job.signature id = .ok signature) :
    ∀ type ∈ signature.params, type.isAddress = false := by
  obtain ⟨unapplied, typed, params⟩ :=
    params_of_captures_nil elementary.found elementary.listed signed elementary.captures
  obtain ⟨again, typed_again, plain, _⟩ := elementary.typed
  obtain rfl := Except.ok.inj (typed.symm.trans typed_again)
  intro type inside
  rw [params] at inside
  obtain ⟨ty, listed, rfl⟩ := List.mem_map.mp inside
  rw [Ty.contextualized_of_isPlain (plain ty listed), Ty.lower_of_isPlain (plain ty listed)]
  rfl

/-- The function of a declaration of the fragment does what its calls do. -/
theorem emitRoutine_realizes (below : (naming job).VisitsAll nested) (before : Pass) :
    (job.answering id).Delivers job (job.emitRoutine nested id) before := by
  refine Aim.delivers_of_fill below elementary.found elementary.listed elementary.given
    elementary.written ?_ before
  intro name function middle last formed holds present signed filled accepted
  obtain ⟨old, final, block, found, found_final, typed, inside, runs⟩ := fill_ends below elementary
    formed holds (isAddress_of_elementary elementary signed) filled accepted
  obtain rfl := Option.some.inj (present.symm.trans found)
  rw [← typed] at signed runs
  exact ⟨final, block, found_final, inside, signed, runs⟩

end Elementary

/-- A module is lowered with the functions of the fragment in it. -/
theorem emitModule_delivers {id target : DeclId} {own : Decl} {owner : Routine} {body : Body}
    (elementary : job.program.Elementary target own owner body)
    (lowers : job.program.Lowers id target) (before : Pass)
    (formed : before.builder.module.WellFormed) (holds : (naming job).Holds before) (value : Unit)
    (after : Pass) (done : job.emitModule id before = .ok value after)
    (accepted : after.report.containsError = false) : job.Realizes before after target := by
  have delivers : (job.answering target).Delivers job (job.emitModule id) before :=
    Aim.emitModule_delivers elementary.found elementary.listed elementary.written
      (fun levels => emitRoutine_realizes elementary (Policy.Visits.emitWithin levels)) lowers before
  exact answering_realized.mp (delivers formed holds value after done) accepted

end Job

end Lowering
