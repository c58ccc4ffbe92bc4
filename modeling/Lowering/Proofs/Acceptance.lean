import Lowering.Proofs.IR.Operands
import Lowering.Proofs.Scoping

/-
This file shows that no error value is passed on in silence. An operand stands for something that
failed only where the program itself is flawed or where an error was reported.
-/

namespace Lowering

open IR

namespace IR

/-- No instruction takes an error value. -/
def Module.Sound (module : Module) : Prop :=
  ∀ function ∈ module.functions, ∀ instruction ∈ function.instructions,
    ∀ operand ∈ instruction.operands, operand.isError = false

end IR

/-- There is a reason for error values: a reported error, or a flaw that was there before. -/
def Pass.Excused (program : Program) (pass : Pass) : Prop :=
  pass.report.containsError = true ∨ program.Flawed

/-- An error value needs an excuse. -/
def Pass.Admits (program : Program) (pass : Pass) (value : Value) : Prop :=
  value.isError = true → pass.Excused program

namespace Pass

variable {program : Program}

theorem Excused.of_grows {before after : Pass} {opened : Option Cursor}
    (grown : before.Grows opened after) (excused : before.Excused program) :
    after.Excused program :=
  excused.imp_left grown.containsError

theorem admits_of_not_error (pass : Pass) {value : Value} (sound : value.isError = false) :
    pass.Admits program value := by
  intro error
  rw [sound] at error
  cases error

/-- Every operand in the module is admitted. -/
def AdmitsAll (program : Program) (pass : Pass) : Prop :=
  ∀ function ∈ pass.builder.module.functions, ∀ instruction ∈ function.instructions,
    ∀ operand ∈ instruction.operands, pass.Admits program operand

end Pass

/-- An error value may be an operand once there is an excuse for it. -/
def excusing (job : Job) : Policy job where
  Holds pass := pass.AdmitsAll job.program
  Usable pass value := pass.Admits job.program value
  usable_of_steady steady usable error := (usable error).of_grows steady.grows
  usable_literal pass _ literal := pass.admits_of_not_error literal.1
  usable_error _ excused _ := excused
  usable_error_again _ usable error _ := usable error
  usable_declared declared := by
    obtain ⟨name, signature, _, _, _, rfl, _⟩ := declared
    exact Pass.admits_of_not_error _ rfl
  define := by
    intro pass type instruction value builder _ all _ usable _ done
    obtain ⟨function, block, place, rfl, _⟩ := BuildM.run_define done
    exact ⟨Module.EveryOperand.define all usable done, Pass.admits_of_not_error _ rfl⟩
  append _ all _ usable done := Module.EveryOperand.append all usable done
  report := by
    intro pass finding all function inside instruction listed operand given error
    rcases all function inside instruction listed operand given error with reported | flawed
    · exact Or.inl (by simp [Report.containsError_add, reported])
    · exact Or.inr flawed
  names all _ _ := all
  function _ all _ := Module.EveryOperand.addFunction all _ _
  block := by
    intro pass name params label args builder _ all done
    obtain ⟨function, found, _, rfl, rfl⟩ := BuildM.run_createBlock done
    refine ⟨Module.EveryOperand.addBlock all found params, ?_⟩
    intro arg inside
    obtain ⟨param, _, rfl⟩ := List.mem_map.mp inside
    exact Pass.admits_of_not_error _ rfl
  table _ all := all
  cursor _ all := all

/--
In an accepted module no instruction takes an error value, unless a declaration or an expression of
the program failed to check.
-/
theorem lower_sound {program : Program} {id : DeclId} {options : Options} {lowered : Lowered}
    (checked : ¬ program.Flawed) (done : lower program id options = .ok lowered) {module : Module}
    (accepted : lowered.result = .ok module) : module.Sound := by
  have start : (excusing ⟨program, options⟩).Holds (Pass.start options) :=
    fun _ impossible => nomatch impossible
  obtain ⟨pass, all, same, report, _⟩ := (excusing ⟨program, options⟩).lower start done
  unfold Lowered.result at accepted
  split at accepted
  next => cases accepted
  next clean =>
    obtain rfl := Except.ok.inj accepted
    intro function inside instruction listed operand given
    rw [Bool.eq_false_iff]
    intro error
    rcases all function (same ▸ inside) instruction listed operand given error with
      reported | flawed
    · exact clean (report ▸ reported)
    · exact checked flawed

theorem lower_sound_nesting :
    ¬ nesting.built.Flawed ∧ ∃ lowered, lower nesting.built ⟨0⟩ Options.standard = .ok lowered ∧
      lowered.result = .ok lowered.module ∧ lowered.module.functions.length = 4 ∧
      lowered.module.Sound := by
  have checked : ¬ nesting.built.Flawed := by decide +kernel
  have lowers : (lower nesting.built ⟨0⟩ Options.standard).toOption.map
      (fun lowered => (lowered.report.containsError, lowered.module.functions.length)) =
        some (false, 4) := by
    decide +kernel
  obtain ⟨lowered, done, seen⟩ := ok_of_map lowers
  obtain ⟨clean, count⟩ := Prod.mk.inj seen
  have accepted : lowered.result = .ok lowered.module := by
    rw [Lowered.result, clean]
    rfl
  exact ⟨checked, lowered, done, accepted, count, lower_sound checked done accepted⟩

end Lowering
