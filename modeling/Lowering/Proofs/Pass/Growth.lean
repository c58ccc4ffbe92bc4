import Lowering.Proofs.IR.WellFormed

/-
This file says how a pass moves on. It only adds to its module, its names and its report, and it
accounts for every block that is left without a terminator.
-/

namespace Lowering

open IR

/-- How often a report says that a function lacks a return. -/
def Report.missingReturns (report : Report) : Nat :=
  report.diagnostics.countP (·.message == "missing return value in non-unit function")

/-- An error that was reported stays reported. -/
theorem Report.containsError_of_extended {before after : Report}
    (kept : before.diagnostics <+: after.diagnostics) (reported : before.containsError = true) :
    after.containsError = true := by
  rw [containsError, List.any_eq_true] at reported ⊢
  obtain ⟨diagnostic, inside, isError⟩ := reported
  exact ⟨diagnostic, kept.subset inside, isError⟩

theorem Report.accepted_of_extended {before after : Report}
    (kept : before.diagnostics <+: after.diagnostics) (accepted : after.containsError = false) :
    before.containsError = false := by
  rw [Bool.eq_false_iff] at accepted ⊢
  exact fun reported => accepted (containsError_of_extended kept reported)

namespace Pass

/-- The blocks without a terminator, less those that the report tells of. -/
def unreported (pass : Pass) : Int := pass.builder.module.pending - pass.report.missingReturns

/-- A pass only adds, and writes no block but the open one. -/
structure Grows (opened : Option Cursor) (before after : Pass) : Prop where
  module : before.builder.module.Grows opened after.builder.module
  report : before.report.diagnostics <+: after.report.diagnostics
  names : ∀ id name, before.names.assigned.get? id = some name →
    after.names.assigned.get? id = some name

/-- Writing goes on in the same block. -/
structure Steady (before after : Pass) : Prop where
  cursor : after.builder.cursor = before.builder.cursor
  grows : before.Grows before.builder.cursor after
  unreported : after.unreported = before.unreported

/-- Other functions were written in the meantime, and nothing was left open. -/
structure Settles (before after : Pass) : Prop where
  cursor : after.builder.cursor = before.builder.cursor
  grows : before.Grows none after
  unreported : after.unreported = before.unreported

/-- The block that was written is accounted for: by a terminator or in the report. -/
structure Closes (before after : Pass) : Prop where
  cursor : after.builder.cursor = before.builder.cursor
  grows : before.Grows before.builder.cursor after
  unreported : after.unreported = before.unreported - 1

/-- There is a block to write to. -/
structure Working (pass : Pass) : Prop where
  formed : pass.builder.module.WellFormed
  opened : ∃ function block, pass.builder.At function block

/-- A new block is there, and it is the one to write to. -/
structure Opens (before after : Pass) : Prop where
  working : after.Working
  grows : before.Grows none after
  unreported : after.unreported = before.unreported + 1
  fresh : ∃ cursor, after.builder.cursor = some cursor ∧ ∀ function,
    before.builder.module.function? cursor.function = some function →
      function.block? cursor.block = none

namespace Grows

variable {opened : Option Cursor} {first second third : Pass}

theorem refl (opened : Option Cursor) (pass : Pass) : pass.Grows opened pass :=
  ⟨.refl opened _, List.prefix_refl _, fun _ _ given => given⟩

theorem trans (start : first.Grows opened second) (rest : second.Grows opened third) :
    first.Grows opened third :=
  ⟨start.module.trans rest.module, start.report.trans rest.report,
    fun id name given => rest.names id name (start.names id name given)⟩

theorem of_closed (grown : first.Grows none second) : first.Grows opened second :=
  ⟨grown.module.of_closed, grown.report, grown.names⟩

theorem containsError (grown : first.Grows opened second)
    (reported : first.report.containsError = true) : second.report.containsError = true :=
  Report.containsError_of_extended grown.report reported

theorem accepted (grown : first.Grows opened second)
    (accepted : second.report.containsError = false) : first.report.containsError = false :=
  Report.accepted_of_extended grown.report accepted

end Grows

namespace Steady

variable {first second third : Pass}

theorem refl (pass : Pass) : pass.Steady pass := ⟨rfl, .refl _ pass, rfl⟩

theorem trans (start : first.Steady second) (rest : second.Steady third) : first.Steady third :=
  ⟨rest.cursor.trans start.cursor, start.grows.trans (start.cursor ▸ rest.grows),
    rest.unreported.trans start.unreported⟩

theorem closes (start : first.Steady second) (rest : second.Closes third) : first.Closes third :=
  ⟨rest.cursor.trans start.cursor, start.grows.trans (start.cursor ▸ rest.grows),
    by rw [rest.unreported, start.unreported]⟩

end Steady

namespace Closes

variable {first second third : Pass}

theorem steady (start : first.Closes second) (rest : second.Steady third) : first.Closes third :=
  ⟨rest.cursor.trans start.cursor, start.grows.trans (start.cursor ▸ rest.grows),
    by rw [rest.unreported, start.unreported]⟩

end Closes

namespace Settles

variable {first second third : Pass}

theorem refl (pass : Pass) : pass.Settles pass := ⟨rfl, .refl _ pass, rfl⟩

theorem trans (start : first.Settles second) (rest : second.Settles third) :
    first.Settles third :=
  ⟨rest.cursor.trans start.cursor, start.grows.trans rest.grows,
    rest.unreported.trans start.unreported⟩

theorem steady (settled : first.Settles second) : first.Steady second :=
  ⟨settled.cursor, settled.grows.of_closed, settled.unreported⟩

/-- The open block is still there, and still open. -/
theorem working (settled : first.Settles second) (start : first.Working)
    (formed : second.builder.module.WellFormed) : second.Working := by
  obtain ⟨function, block, place⟩ := start.opened
  obtain ⟨later, found, grown⟩ := settled.grows.module.functions _ _ place.present
  have named := Module.name_of_function? found
  refine ⟨formed, later, block, ?_, ?_, ?_, place.pending⟩
  · rw [settled.cursor, place.cursor, named]
  · rw [named, found]
  · exact grown.block?_eq place.inside (by simp)

/-- A step that leaves the insertion point and the blocks alone. -/
theorem of_module {first second : Pass} (cursor : second.builder.cursor = first.builder.cursor)
    (module : first.builder.module.Grows none second.builder.module)
    (pending : second.builder.module.pending = first.builder.module.pending)
    (report : second.report = first.report)
    (names : ∀ id name, first.names.assigned.get? id = some name →
      second.names.assigned.get? id = some name) : first.Settles second := by
  refine ⟨cursor, ⟨module, report ▸ List.prefix_refl _, names⟩, ?_⟩
  simp only [Pass.unreported, pending, report]

end Settles

section Steps

variable {pass : Pass} {builder : Builder}

theorem unreported_of_pending (same : builder.module.pending = pass.builder.module.pending) :
    { pass with builder := builder }.unreported = pass.unreported := by
  simp only [unreported, same]

theorem Working.define (working : pass.Working) {type : OperandType}
    {instruction : TempId → Instruction} {value : Value}
    (defines : ∀ id, (instruction id).value? = some (Value.temp id type))
    (done : BuildM.define type instruction pass.builder = .ok value builder) :
    { pass with builder := builder }.Working ∧ pass.Steady { pass with builder := builder } := by
  obtain ⟨function, block, place, rfl, rfl⟩ := BuildM.run_define done
  have result : (instruction function.temps.issued).result? = some function.temps.issued := by
    rw [Instruction.result?_eq_value?, defines]
    rfl
  have continues := Instruction.continues_of_value? (defines function.temps.issued)
  have inside : function.takeTemp.2.block? block.label = some block := place.inside
  have formed := working.formed.of_function? place.present
  have extended := Function.Grows.extendBlock inside (instruction function.temps.issued)
  have grown := Function.Grows.trans function.name_takeTemp (.takeTemp _ function) extended
  refine ⟨⟨?_, ?_⟩, rfl, ⟨?_, List.prefix_refl _, fun _ _ given => given⟩, ?_⟩
  · refine working.formed.put (formed.define place.inside place.pending ?_)
    intro id defined
    simpa [result, eq_comm] using defined
  · exact ⟨_, _, place.define continues⟩
  · rw [place.cursor]
    exact Module.Grows.put place.present grown
  · exact unreported_of_pending (place.pending_define continues)

/-- Only the block at the insertion point gets longer. -/
theorem grows_append {instruction : Instruction} {value : Unit}
    (done : BuildM.append instruction pass.builder = .ok value builder) :
    pass.Grows pass.builder.cursor { pass with builder := builder } := by
  obtain ⟨function, block, place, rfl⟩ := BuildM.run_append done
  refine ⟨?_, List.prefix_refl _, fun _ _ given => given⟩
  rw [place.cursor]
  exact Module.Grows.put place.present (Function.Grows.extendBlock place.inside instruction)

theorem Working.append (working : pass.Working) {instruction : Instruction} {value : Unit}
    (silent : instruction.value? = none) (continues : instruction.isTerminator = false)
    (done : BuildM.append instruction pass.builder = .ok value builder) :
    { pass with builder := builder }.Working ∧ pass.Steady { pass with builder := builder } := by
  have grown := grows_append done
  obtain ⟨function, block, place, rfl⟩ := BuildM.run_append done
  have result : instruction.result? = none := by
    rw [Instruction.result?_eq_value?, silent]
    rfl
  have formed := working.formed.of_function? place.present
  refine ⟨⟨?_, ?_⟩, rfl, grown, ?_⟩
  · exact working.formed.put (formed.extendBlock place.inside place.pending (by simp [result]))
  · exact ⟨_, _, place.append continues⟩
  · have total := place.pending_append instruction
    simp only [continues] at total
    exact unreported_of_pending total

/-- A terminator closes the open block. -/
theorem Working.terminate (working : pass.Working) {instruction : Instruction} {value : Unit}
    (ends : instruction.isTerminator = true)
    (done : BuildM.append instruction pass.builder = .ok value builder) :
    builder.module.WellFormed ∧ builder.isTerminated = true ∧
      pass.Closes { pass with builder := builder } := by
  have grown := grows_append done
  obtain ⟨function, block, place, rfl⟩ := BuildM.run_append done
  have result := Instruction.result?_of_isTerminator instruction ends
  have formed := working.formed.of_function? place.present
  refine ⟨?_, ?_, rfl, grown, ?_⟩
  · exact working.formed.put (formed.extendBlock place.inside place.pending (by simp [result]))
  · have found := Builder.function?_put_self (function.extendBlock block.label instruction)
      function pass.builder place.present
    simp only [Function.name_extendBlock] at found
    simp [Builder.isTerminated, Builder.currentBlock, place.cursor, found,
      place.block?_extendBlock, ends]
  · have total := place.pending_append instruction
    simp only [ends, if_true] at total
    simp only [unreported]
    omega

/-- A finding other than a missing return leaves the account as it is. -/
theorem settles_report (pass : Pass) {diagnostic : Diagnostic}
    (other : diagnostic.message ≠ "missing return value in non-unit function") :
    pass.Settles { pass with report := pass.report.add diagnostic } := by
  refine ⟨rfl, ⟨.refl _ _, List.prefix_append _ _, fun _ _ given => given⟩, ?_⟩
  simp [unreported, Report.missingReturns, Report.add, List.countP_append, other]

/-- A block that is added is open and not accounted for. -/
theorem opens_block {name : String} {params : List OperandType} {label : LabelId}
    {args : List Value} (formed : pass.builder.module.WellFormed)
    (done : BuildM.createBlock name params pass.builder = .ok (label, args) builder) :
    pass.Opens { pass with builder := { builder with cursor := some ⟨name, label⟩ } } := by
  obtain ⟨function, found, rfl, rfl, _, place⟩ := Builder.At.of_createBlock formed done
  have named := Module.name_of_function? found
  have function_formed := formed.of_function? found
  have found : pass.builder.module.function? (function.addBlock params).2.name = some function := by
    rw [Function.name_addBlock, named, found]
  refine ⟨⟨formed.put (function_formed.addBlock params), _, _, place⟩,
    ⟨.put found (.addBlock function params), List.prefix_refl _, fun _ _ given => given⟩, ?_, _,
    rfl, ?_⟩
  · have total := Module.pending_put (function.addBlock params).2 found
    rw [Function.pending_addBlock] at total
    simp only [unreported]
    omega
  · intro old found_old
    obtain rfl : function = old := by
      rw [Function.name_addBlock, named] at found
      simpa [found] using found_old
    exact function_formed.block?_next

/-- A missing return that is reported accounts for the block that lacks it. -/
theorem closes_report (pass : Pass) {diagnostic : Diagnostic}
    (same : diagnostic.message = "missing return value in non-unit function") :
    pass.Closes { pass with report := pass.report.add diagnostic } := by
  refine ⟨rfl, ⟨.refl _ _, List.prefix_append _ _, fun _ _ given => given⟩, ?_⟩
  have counted : (pass.report.add diagnostic).missingReturns = pass.report.missingReturns + 1 := by
    simp [Report.missingReturns, Report.add, List.countP_append, same]
  simp only [unreported, counted]
  omega

end Steps

/-- What was opened is closed, and the insertion point is back where it was. -/
theorem Opens.settles {before middle after : Pass} (opened : before.Opens middle)
    (closes : middle.Closes after) :
    before.Settles (after.withCursor before.builder.cursor) := by
  obtain ⟨cursor, here, fresh⟩ := opened.fresh
  have grown := opened.grows.of_closed.trans (here ▸ closes.grows)
  refine ⟨rfl, ⟨grown.module.close fresh, grown.report, grown.names⟩, ?_⟩
  have total := closes.unreported
  have start := opened.unreported
  show after.unreported = before.unreported
  omega

end Pass

end Lowering
