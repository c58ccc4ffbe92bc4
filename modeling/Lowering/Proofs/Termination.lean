import Lowering.Proofs.Scoping

/-
This file shows that a block ends at its only terminator, and that every block without one is
reported. An accepted module has a terminator at the end of every block.
-/

namespace Lowering

open IR

/-- A report lists nothing but findings. -/
def Report.OfFindings (report : Report) : Prop :=
  ∀ diagnostic ∈ report.diagnostics, ∃ finding : Finding, diagnostic = finding.diagnostic

/-- A policy for the report alone; a pass accounts for its blocks under any. -/
def reporting (job : Job) : Policy job where
  Holds pass := pass.report.OfFindings
  Usable _ _ := True
  usable_of_steady _ _ := trivial
  usable_literal _ _ _ := trivial
  usable_error _ _ := trivial
  usable_error_again _ _ _ := trivial
  usable_declared _ := trivial
  define _ listed _ _ _ _ := ⟨listed, trivial⟩
  append _ listed _ _ _ := listed
  report := by
    intro pass finding listed diagnostic inside
    rcases List.mem_append.mp inside with old | new
    · exact listed diagnostic old
    · exact ⟨finding, List.mem_singleton.mp new⟩
  names listed _ _ := listed
  function _ listed _ := listed
  block _ listed _ := ⟨listed, fun _ _ => trivial⟩
  table _ listed := listed
  cursor _ listed := listed

/-- A missing return is an error. -/
theorem Finding.isError_of_missingReturn (finding : Finding)
    (missing : finding.diagnostic.message = "missing return value in non-unit function") :
    finding.diagnostic.isError = true := by
  cases finding with
  | missingReturn span => rfl
  | unreachable span => exact (Policy.message_of_unreachable span missing).elim
  | unlowered failure span => rfl

theorem Report.OfFindings.missingReturns_eq_zero {report : Report} (listed : report.OfFindings)
    (accepted : report.containsError = false) : report.missingReturns = 0 := by
  rw [Report.missingReturns, List.countP_eq_zero]
  intro diagnostic inside missing
  obtain ⟨finding, rfl⟩ := listed diagnostic inside
  have isError := finding.isError_of_missingReturn (by simpa using missing)
  rw [Report.containsError, List.any_eq_false] at accepted
  exact accepted _ inside isError

/-- A terminator stands at the end of its block. -/
theorem IR.Block.Ended.last {block : Block} (ended : block.Ended) {place : Nat}
    {instruction : Instruction} (found : block.instructions[place]? = some instruction)
    (ends : instruction.isTerminator = true) : place + 1 = block.instructions.length := by
  obtain ⟨bound, here⟩ := List.getElem?_eq_some_iff.mp found
  by_cases early : place < block.instructions.length - 1
  · have inside : instruction ∈ block.instructions.dropLast := by
      rw [← here, ← List.getElem_dropLast (by simpa using early)]
      exact List.getElem_mem _
    rw [ended instruction inside] at ends
    cases ends
  · omega

/--
In a lowered module a block has at most one terminator, at its end. There are as many blocks without
one as missing returns in the report, and an accepted module has none.
-/
theorem lower_terminated {program : Program} {id : DeclId} {options : Options}
    {lowered : Lowered} (done : lower program id options = .ok lowered) :
    (∀ function ∈ lowered.module.functions, ∀ block ∈ function.blocks,
      block.terminatorCount ≤ 1 ∧ ∀ place instruction,
        block.instructions[place]? = some instruction → instruction.isTerminator = true →
          place + 1 = block.instructions.length) ∧
    (lowered.module.functions.flatMap Function.blocks).countP (!·.isTerminated) =
      lowered.report.diagnostics.countP
        (·.message == "missing return value in non-unit function") ∧
    ∀ module, lowered.result = .ok module → ∀ function ∈ module.functions,
      ∀ block ∈ function.blocks, block.isTerminated = true ∧ block.terminatorCount = 1 := by
  have start : (reporting ⟨program, options⟩).Holds (Pass.start options) :=
    fun _ impossible => nomatch impossible
  obtain ⟨pass, listed, module, report, formed, unreported⟩ :=
    (reporting ⟨program, options⟩).lower start done
  rw [module] at formed
  have listed : lowered.report.OfFindings := report ▸ listed
  have ended {function : Function} (inside : function ∈ lowered.module.functions) {block : Block}
      (stands : block ∈ function.blocks) : block.Ended :=
    (formed.functions function inside).ended block stands
  have counted : (lowered.module.functions.flatMap Function.blocks).countP (!·.isTerminated) =
      lowered.report.missingReturns := by
    rw [← Module.pending_eq_countP]
    rw [Pass.unreported, module, report] at unreported
    omega
  refine ⟨?_, counted, ?_⟩
  · intro function inside block stands
    refine ⟨?_, fun place instruction => (ended inside stands).last⟩
    rw [(ended inside stands).terminatorCount]
    split <;> omega
  · intro accepted given function inside block stands
    unfold Lowered.result at given
    split at given
    next => cases given
    next clean =>
      obtain rfl := Except.ok.inj given
      rw [listed.missingReturns_eq_zero (by simpa using clean), List.countP_eq_zero] at counted
      have terminated : block.isTerminated = true := by
        simpa using counted block (List.mem_flatMap.mpr ⟨function, inside, stands⟩)
      rw [(ended inside stands).terminatorCount, if_pos terminated]
      exact ⟨terminated, rfl⟩

theorem lower_terminated_nesting :
    ∃ lowered, lower nesting.built ⟨0⟩ Options.standard = .ok lowered ∧
      lowered.result = .ok lowered.module ∧
      (∀ function ∈ lowered.module.functions, ∀ block ∈ function.blocks,
        block.terminatorCount ≤ 1 ∧ ∀ place instruction,
          block.instructions[place]? = some instruction → instruction.isTerminator = true →
            place + 1 = block.instructions.length) ∧
      (lowered.module.functions.flatMap Function.blocks).countP (!·.isTerminated) =
        lowered.report.diagnostics.countP
          (·.message == "missing return value in non-unit function") ∧
      ∀ module, lowered.result = .ok module → ∀ function ∈ module.functions,
        ∀ block ∈ function.blocks, block.isTerminated = true ∧ block.terminatorCount = 1 := by
  have lowers : (lower nesting.built ⟨0⟩ Options.standard).toOption.map
      (·.report.containsError) = some false := by
    decide +kernel
  obtain ⟨lowered, done, clean⟩ := ok_of_map lowers
  refine ⟨lowered, done, ?_, lower_terminated done⟩
  rw [Lowered.result, clean]
  rfl

end Lowering
