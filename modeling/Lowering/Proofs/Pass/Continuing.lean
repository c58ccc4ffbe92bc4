import Lowering.Proofs.IR.Carrying
import Lowering.Proofs.Pass.Invariant
import Lowering.Proofs.Session

/-
This file follows a pass from one state to a later one. The steps of a body and of a thunk go on
inside the blocks that are there, and never change a name that was given.
-/

namespace Lowering

open IR

/-- Names that were given stay, and so does what the module carries. -/
structure Pass.Carries (before after : Pass) : Prop where
  names : before.names.Extends after.names
  module : before.builder.module.Carries after.builder.module

/-- The pass goes on inside the blocks that are there, and names stay distinct. -/
structure Pass.Continues (program : Program) (before after : Pass) : Prop where
  distinct : after.names.Distinct program
  names : before.names.Extends after.names
  module : before.builder.module.Continues after.builder.module

variable {program : Program} {before between after : Pass}

namespace Pass.Carries

theorem refl (pass : Pass) : pass.Carries pass := ⟨fun _ _ kept => kept, .refl _⟩

theorem trans (first : before.Carries between) (rest : between.Carries after) :
    before.Carries after :=
  ⟨fun id name assigned => rest.names id name (first.names id name assigned),
    first.module.trans rest.module⟩

/-- A block is added to one function. -/
theorem addBlock {function : Function}
    (found : before.builder.module.function? function.name = some function)
    (params : List OperandType) :
    before.Carries
      { before with builder := before.builder.put (function.addBlock params).2 } :=
  ⟨fun _ _ kept => kept, .addBlock found params⟩

end Pass.Carries

namespace Pass.Continues

theorem refl (distinct : before.names.Distinct program) : before.Continues program before :=
  ⟨distinct, fun _ _ kept => kept, .refl _⟩

/-- The insertion point is of no account. -/
theorem withCursor (pass : Pass) (distinct : pass.names.Distinct program)
    (cursor : Option Cursor) : pass.Continues program (pass.withCursor cursor) :=
  ⟨distinct, fun _ _ kept => kept, .refl _⟩

theorem carries (continues : before.Continues program after) : before.Carries after :=
  ⟨continues.names, continues.module.carries⟩

theorem trans (first : before.Continues program between)
    (rest : between.Continues program after) : before.Continues program after :=
  ⟨rest.distinct, (first.carries.trans rest.carries).names, first.module.trans rest.module⟩

/-- The module is built further. -/
theorem build (continues : before.Continues program between) {builder : Builder}
    (module : between.builder.module.Continues builder.module) :
    before.Continues program { between with builder := builder } :=
  ⟨continues.distinct, continues.names, continues.module.trans module⟩

end Pass.Continues

/-- A declared function is carried along. -/
theorem Job.Declared.of_carries {job : Job} {id : DeclId} {value : Value}
    (declared : job.Declared before id value) (carries : before.Carries after) :
    job.Declared after id value := by
  obtain ⟨name, signature, function, assigned, signed, same, found, typed⟩ := declared
  obtain ⟨later, there, kept, _⟩ := carries.module name function found
  exact ⟨name, signature, later, carries.names id name assigned, signed, same, there,
    kept.trans typed⟩

/-- What outlasts all that goes on inside blocks is an invariant. -/
def Invariant.ofContinues (job : Job) (plain : job.program.PlainNames) (holds : Pass → Prop)
    (distinct : ∀ pass, holds pass → pass.names.Distinct job.program)
    (kept : ∀ before after, holds before → before.Continues job.program after → holds after) :
    Invariant job where
  Holds := holds
  define met _ done := kept _ _ met ((Pass.Continues.refl (distinct _ met)).build (.define done))
  append met _ done := kept _ _ met ((Pass.Continues.refl (distinct _ met)).build (.append done))
  report {pass} _ met := kept pass _ met ⟨distinct pass met, fun _ _ kept => kept, .refl _⟩
  names := by
    intro pass names id name met given
    obtain ⟨distinct, grown, _⟩ := (distinct _ met).functionName plain given
    exact kept _ _ met ⟨distinct, grown, .refl _⟩
  function name signature met _ _ :=
    kept _ _ met ((Pass.Continues.refl (distinct _ met)).build (.addFunction _ name signature))

/-- Steps inside blocks continue from where they start. -/
def continuing (job : Job) (plain : job.program.PlainNames) (start : Pass) : Invariant job :=
  .ofContinues job plain (start.Continues job.program) (fun _ continues => continues.distinct)
    fun _ _ => .trans

end Lowering
