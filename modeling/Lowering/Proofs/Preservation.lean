import Lowering.Proofs.Meaning.Emission
import Lowering.Proofs.Program.Assembled

/-
This file states that lowering preserves meaning. A function without calls is lowered to one that
ends in the same way, wherever in a module it is declared.
-/

namespace Lowering

open IR

/--
In an accepted module each declaration of the fragment has its function under the name that it was
given, which is a use of its qualified name, and run with any arguments the function ends as a call
of the declaration does.
-/
theorem lower_preserves {program : Program} {id target : DeclId} {options : Options}
    {lowered : Lowered} {module : Module} (done : lower program id options = .ok lowered)
    (accepted : lowered.result = .ok module) (lowers : program.Lowers id target)
    (elementary : program.isElementaryRoutine target = true) :
    ∃ pass path uses function,
      Job.emitModule ⟨program, options⟩ id (Pass.start options) = .ok () pass ∧
      pass.builder.module = module ∧ program.qualifiedName target = .ok path ∧
      pass.names.assigned.get? target = some (NamesM.numbered path uses) ∧
      module.function? (NamesM.numbered path uses) = some function ∧
      Job.signature ⟨program, options⟩ target = .ok function.signature ∧
      ∀ args, args.length = function.signature.params.length → ∃ outcome,
        program.call target args = some outcome ∧ function.run args = some outcome := by
  obtain ⟨own, owner, body, elementary⟩ := Program.elementary_of_isElementaryRoutine elementary
  obtain ⟨pass, ran, same, report⟩ := run_lower done
  have start := naming_start program options
  have empty := Module.wellFormed_empty options.moduleName
  unfold Lowered.result at accepted
  split at accepted
  next => cases accepted
  next clean =>
    obtain rfl := Except.ok.inj accepted
    obtain ⟨formed, named, _⟩ := Policy.Visits.emitModule id (Pass.start options) empty start () pass
      ran
    obtain ⟨name, ⟨assigned, function, block, signed, found, inside, runs⟩, _⟩ :=
      @Job.emitModule_delivers ⟨program, options⟩ _ _ _ _ _ elementary lowers (Pass.start options)
        empty start () pass ran (by rw [report]; simpa using clean)
    obtain ⟨path, uses, qualified, rfl⟩ := named target name assigned
    refine ⟨pass, path, uses, function, ran, same, qualified, assigned, same ▸ found, signed, ?_⟩
    intro args length
    obtain ⟨outcome, means, ends⟩ := runs args length
    rw [Function.run_of_block (formed.of_function? found) inside]
    exact ⟨outcome, means, ends⟩

open Assembly in
/-- A constructor that fills its receiver from a parameter, and from a local of an inner block. -/
def filling : Assembly Unit := do
  let main ← addModule "main"
  let pair ← addProduct main "Pair"
  let x ← addStoredProperty pair "x" .int
  let y ← addStoredProperty pair "y" .int
  let constructor_ ← addConstructor pair [⟨none, "a", .int⟩]
  let (binding, var) ← addLocalVar constructor_ "p" (← ask (·.declaredType pair)) none
  let self ← ask (·.refExpr ⟨constructor_.index + 1⟩ Span.unknown)
  let param ← ask (·.refExpr ⟨constructor_.index + 2⟩ Span.unknown)
  let inner ← ask (·.refExpr var Span.unknown)
  let self_x ← ask (·.memberExpr self x Span.unknown)
  let self_y ← ask (·.memberExpr self y Span.unknown)
  let inner_y ← ask (·.memberExpr inner y Span.unknown)
  setBody constructor_ ⟨[.expr (.ofAssign self_x param Span.unknown),
    .block [.decl binding, .expr (.ofAssign inner_y self_x Span.unknown),
      .expr (.ofAssign self_y inner_y Span.unknown)] Span.unknown], Span.unknown⟩

theorem lower_preserves_filling :
    ∃ lowered, lower filling.built ⟨0⟩ Options.standard = .ok lowered ∧
      lowered.result = .ok lowered.module ∧ filling.built.Lowers ⟨0⟩ ⟨6⟩ ∧
      filling.built.isElementaryRoutine ⟨6⟩ = true ∧
      ∃ pass path uses function,
        Job.emitModule ⟨filling.built, Options.standard⟩ ⟨0⟩ (Pass.start Options.standard) =
          .ok () pass ∧
        pass.builder.module = lowered.module ∧ filling.built.qualifiedName ⟨6⟩ = .ok path ∧
        pass.names.assigned.get? ⟨6⟩ = some (NamesM.numbered path uses) ∧
        lowered.module.function? (NamesM.numbered path uses) = some function ∧
        Job.signature ⟨filling.built, Options.standard⟩ ⟨6⟩ = .ok function.signature ∧
        ∀ args, args.length = function.signature.params.length → ∃ outcome,
          filling.built.call ⟨6⟩ args = some outcome ∧ function.run args = some outcome := by
  have lowers : (lower filling.built ⟨0⟩ Options.standard).toOption.map
      (·.report.containsError) = some false := by
    decide +kernel
  obtain ⟨lowered, done, clean⟩ := ok_of_map lowers
  have accepted : lowered.result = .ok lowered.module := by
    rw [Lowered.result, clean]
    rfl
  have reached : filling.built.Lowers ⟨0⟩ ⟨6⟩ :=
    have type : (⟨1⟩ : DeclId) ∈ filling.built.nested ⟨0⟩ := by decide +kernel
    have member : (⟨6⟩ : DeclId) ∈ filling.built.nested ⟨1⟩ := by decide +kernel
    .step type (.step member (.refl _))
  have elementary : filling.built.isElementaryRoutine ⟨6⟩ = true := by decide +kernel
  exact ⟨lowered, done, accepted, reached, elementary,
    lower_preserves done accepted reached elementary⟩

end Lowering
