import Lowering.Proofs.Filling
import Lowering.Proofs.IR.Operands

/-
This file shows that a module is closed: what its instructions and witness tables name is in it.
-/

namespace Lowering

open IR

/-- Where the value is a function of the module, it has the type of that function. -/
def IR.Module.Resolves (module : Module) (value : Value) : Prop :=
  ∀ name, value.kind = .function name → ∃ function, module.function? name = some function ∧
    value.type = .object function.signature.funType

namespace IR.Module.Resolves

variable {before after : Module} {value : Value}

theorem of_carries (carries : before.Carries after) (resolves : before.Resolves value) :
    after.Resolves value := by
  intro name kind
  obtain ⟨function, found, typed⟩ := resolves name kind
  obtain ⟨later, there, signature, _⟩ := carries name function found
  exact ⟨later, there, signature ▸ typed⟩

theorem of_other (module : Module) (other : ∀ name, value.kind ≠ .function name) :
    module.Resolves value :=
  fun name kind => (other name kind).elim

theorem temp (module : Module) (id : TempId) (type : OperandType) :
    module.Resolves (.temp id type) :=
  of_other module fun _ kind => nomatch kind

end IR.Module.Resolves

/-- The operands so far are resolved, and functions are there before they are operands. -/
def resolving (job : Job) : Policy job where
  Holds pass := pass.builder.module.EveryOperand pass.builder.module.Resolves
  Usable pass := pass.builder.module.Resolves
  usable_of_steady := by
    intro before after value steady resolves name kind
    obtain ⟨function, found, typed⟩ := resolves name kind
    obtain ⟨later, there, growth⟩ := steady.grows.module.functions name function found
    exact ⟨later, there, growth.signature ▸ typed⟩
  usable_literal pass value literal := .of_other _ literal.2.2
  usable_error type _ := .of_other _ fun _ kind => nomatch kind
  usable_error_again type _ _ := .of_other _ fun _ kind => nomatch kind
  usable_declared := by
    rintro pass id value ⟨name, signature, function, _, _, rfl, found, rfl⟩ own kind
    obtain rfl : name = own := by simpa [Value.function] using kind
    exact ⟨function, found, rfl⟩
  define := by
    intro pass type instruction value builder _ every _ usable _ done
    have carries := (Module.Continues.define done).carries
    obtain ⟨_, _, _, rfl, _⟩ := BuildM.run_define done
    exact ⟨(every.define usable done).mono fun _ => .of_carries carries, .temp _ _ _⟩
  append _ every _ usable done :=
    (every.append usable done).mono fun _ => .of_carries (Module.Continues.append done).carries
  report _ every := every
  names every _ _ := every
  function _ every _ := (every.addFunction _ _).mono fun _ => .of_carries (.addFunction _ _)
  block := by
    intro pass name params label args builder _ every done
    obtain ⟨function, found, _, rfl, rfl⟩ := BuildM.run_createBlock done
    have same := Module.name_of_function? found
    have carries := Module.Carries.addBlock (same ▸ found) params
    refine ⟨(every.addBlock found params).mono fun _ => .of_carries carries, fun arg inside => ?_⟩
    obtain ⟨param, _, rfl⟩ := List.mem_map.mp inside
    exact .temp _ _ _
  table _ every := every
  cursor _ every := every

/--
A lowered module is closed. No two functions have the same name, an operand that stands for a
function has the type of one that is in the module, and every entry of a witness table names a
function with a block.
-/
theorem lower_closed {program : Program} {id : DeclId} {options : Options} {lowered : Lowered}
    (done : lower program id options = .ok lowered) :
    (lowered.module.functions.map Function.name).Nodup ∧
      (∀ function ∈ lowered.module.functions, ∀ instruction ∈ function.instructions,
        ∀ operand ∈ instruction.operands, ∀ name, operand.kind = .function name →
          ∃ callee ∈ lowered.module.functions, callee.name = name ∧
            operand.type = .object callee.signature.funType) ∧
      ∀ table ∈ lowered.module.witnessTables, ∀ entry ∈ table.entries,
        ∃ thunk ∈ lowered.module.functions, thunk.name = entry.function ∧ thunk.blocks ≠ [] := by
  have start : (resolving ⟨program, options⟩).Holds (Pass.start options) :=
    fun _ impossible => nomatch impossible
  obtain ⟨pass, every, same, _, formed, _⟩ := (resolving ⟨program, options⟩).lower start done
  refine ⟨same ▸ formed.names, ?_, ?_⟩
  · intro function inside instruction listed operand given name kind
    obtain ⟨callee, found, typed⟩ :=
      every function (same ▸ inside) instruction listed operand given name kind
    exact ⟨callee, same ▸ Module.mem_of_function? found, Module.name_of_function? found, typed⟩
  · intro table stated entry listed
    obtain ⟨last, ran, finished, _⟩ := run_lower done
    have accounted := accounted_of_run ran
    have used : entry.function ∈ last.builder.module.thunks :=
      List.mem_flatMap.mpr ⟨table, finished ▸ stated, List.mem_map_of_mem listed⟩
    have counted := List.count_pos_iff.mpr used
    have tall : 0 < last.builder.module.height entry.function := by
      have blocks := accounted.blocks entry.function
      rw [List.nil_append] at blocks
      rcases blocks with count | ⟨count, _⟩ <;> omega
    obtain ⟨thunk, found, blocks⟩ := Module.height_pos_iff.mp tall
    exact ⟨thunk, finished ▸ Module.mem_of_function? found, Module.name_of_function? found, blocks⟩

theorem lower_closed_conforming :
    ∃ lowered, lower conforming.built ⟨0⟩ Options.standard = .ok lowered ∧
      lowered.module.functions.map (fun function => (function.name,
        (function.instructions.flatMap Instruction.operands).count
          (.function "V.get" (.function [.existential [⟨⟨1⟩, "V"⟩]] .int)))) =
          [("V.get", 0), ("V.get$witness$V.get", 2)] ∧
      (lowered.module.functions.map Function.name).Nodup ∧
      (∀ function ∈ lowered.module.functions, ∀ instruction ∈ function.instructions,
        ∀ operand ∈ instruction.operands, ∀ name, operand.kind = .function name →
          ∃ callee ∈ lowered.module.functions, callee.name = name ∧
            operand.type = .object callee.signature.funType) ∧
      ∀ table ∈ lowered.module.witnessTables, ∀ entry ∈ table.entries,
        ∃ thunk ∈ lowered.module.functions, thunk.name = entry.function ∧ thunk.blocks ≠ [] := by
  have lowers : (lower conforming.built ⟨0⟩ Options.standard).toOption.map
      (·.module.functions.map fun function => (function.name,
        (function.instructions.flatMap Instruction.operands).count
          (.function "V.get" (.function [.existential [⟨⟨1⟩, "V"⟩]] .int)))) =
        some [("V.get", 0), ("V.get$witness$V.get", 2)] := by
    decide +kernel
  obtain ⟨lowered, done, functions⟩ := ok_of_map lowers
  exact ⟨lowered, done, functions, lower_closed done⟩

end Lowering
