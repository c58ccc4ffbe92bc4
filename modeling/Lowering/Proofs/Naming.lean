import Lowering.Proofs.Pass.Declaration

/-
This file shows that a function goes by the qualified name of its declaration, with a number if
others go by it as well.
-/

namespace Lowering

open IR

/-- Every name that was given out is a use of the qualified name of its declaration. -/
def naming (job : Job) : Policy job where
  Holds pass := ∀ id name, pass.names.assigned.get? id = some name → job.program.HasName id name
  Usable _ _ := True
  usable_of_steady _ _ := trivial
  usable_literal _ _ _ := trivial
  usable_error _ _ := trivial
  usable_error_again _ _ _ := trivial
  usable_declared _ := trivial
  define _ named _ _ _ _ := ⟨named, trivial⟩
  append _ named _ _ _ := named
  report _ named := named
  names := by
    intro pass names named _ listed id name assigned
    rcases listed id name assigned with old | new
    · exact named id name old
    · exact new
  function _ named _ := named
  block _ named _ := ⟨named, fun _ _ => trivial⟩
  table _ named := named
  cursor _ named := named

theorem naming_start (program : Program) (options : Options) :
    (naming ⟨program, options⟩).Holds (Pass.start options) := by
  intro id name assigned
  simp [Pass.start, Names.empty, Table.get?_empty] at assigned

end Lowering
