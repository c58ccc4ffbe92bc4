import Mathlib.Data.Finset.Card
import Mathlib.Data.Finset.Range
import Mathlib.Order.WellFounded
import Lowering.Proofs.Program.Capturing

/-
This file finds the captures of every function of a program in which no function is declared inside
itself: the scan of nested functions takes no more steps than there are declarations.
-/

namespace Lowering

namespace Program

/-- No function is declared inside itself, at whatever depth. -/
def Grounded (program : Program) : Prop :=
  WellFounded fun inner id => program.DeclaredIn id inner

variable {program : Program}

theorem Ranks.grounded {rank : DeclId → Nat} (ranks : program.Ranks rank) : program.Grounded :=
  Subrelation.wf (fun {inner id} => ranks.drops id inner) (measure rank).wf

theorem Sited.there (sited : program.Sited) {id inner : DeclId}
    (declared : program.DeclaredIn id inner) : inner.index < program.size := by
  obtain ⟨decl, routine, body, found, listed, given, inside⟩ := declared
  exact sited decl (mem_decls found) routine listed body given inner inside

open Classical in
/-- How many declarations stand inside another, at whatever depth. -/
noncomputable def weight (program : Program) (id : DeclId) : Nat :=
  ((Finset.range program.size).filter fun index =>
    Relation.TransGen program.DeclaredIn id ⟨index⟩).card

open Classical in
theorem weight_le (program : Program) (id : DeclId) : program.weight id ≤ program.size :=
  (Finset.card_filter_le _ _).trans_eq (Finset.card_range _)

namespace Grounded

variable (grounded : program.Grounded)

include grounded

theorem irrefl (id : DeclId) : ¬Relation.TransGen program.DeclaredIn id id := fun inside =>
  grounded.transGen.irrefl.irrefl id (Relation.transGen_swap.mpr inside)

open Classical in
/-- What stands inside has less inside than what is around it, since it is not inside itself. -/
theorem weight_lt {id inner : DeclId} (declared : program.DeclaredIn id inner)
    (there : inner.index < program.size) : program.weight inner < program.weight id := by
  refine Finset.card_lt_card ((Finset.ssubset_iff_of_subset fun index further => ?_).mpr ?_)
  · obtain ⟨listed, inside⟩ := Finset.mem_filter.mp further
    exact Finset.mem_filter.mpr ⟨listed, .head declared inside⟩
  · refine ⟨inner.index, Finset.mem_filter.mpr ⟨?_, .single declared⟩, fun own => ?_⟩
    · exact Finset.mem_range.mpr there
    · exact grounded.irrefl inner (Finset.mem_filter.mp own).2

theorem ranks (sited : program.Sited) : program.Ranks program.weight where
  there _ _ declared := find?_of_lt (sited.there declared)
  drops _ _ declared := grounded.weight_lt declared (sited.there declared)

/-- The captures of a function are found, and they are there. -/
theorem captures (sited : program.Sited) (founded : program.Founded) {id : DeclId} {decl : Decl}
    {routine : Routine} (found : program.find? id = some decl)
    (listed : decl.routine? = some routine) :
    ∃ captures, program.captures id = .ok captures ∧
      ∀ capture ∈ captures, ∃ own, program.find? capture = some own := by
  obtain ⟨captures, given, members⟩ :=
    (grounded.ranks sited).captures_eq_ok founded (program.weight_le id) found listed
  refine ⟨captures, given, fun capture inside => ?_⟩
  obtain ⟨_, own, _, there, _⟩ := captured_iff.mp ((members capture).mp inside).2
  exact ⟨own, there⟩

end Grounded

end Program

end Lowering
