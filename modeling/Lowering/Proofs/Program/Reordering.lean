import Lowering.Proofs.Program.Kinship

/-
This file compares two programs that differ only in the order in which their modules list their
members. Every question about a declaration has the same answer in both.
-/

namespace Lowering

/-- The same declaration, up to the order of its members if it is a module. -/
inductive Decl.Reorders : Decl → Decl → Prop
  | same (decl : Decl) : Reorders decl decl
  | module {members others : List DeclId} (order : members.Perm others) (name : String) (ty : Ty)
      (parent : Option DeclId) (span : Span) :
      Reorders ⟨name, .module members, ty, parent, span⟩ ⟨name, .module others, ty, parent, span⟩

namespace Decl.Reorders

variable {decl other : Decl} (alike : decl.Reorders other)

include alike

theorem symm : other.Reorders decl := by
  cases alike with
  | same => exact .same _
  | module order name ty parent span => exact .module order.symm name ty parent span

theorem akin : decl.Akin other := by
  cases alike with
  | same => exact .same decl
  | module order name ty parent span => exact .module order name ty parent span

theorem routine? : other.routine? = decl.routine? := by cases alike <;> rfl

end Decl.Reorders

/-- The same declarations, up to the order of the members of modules. -/
structure Program.Reorders (program other : Program) : Prop where
  size : other.size = program.size
  decls : ∀ id, Option.Rel Decl.Reorders (program.find? id) (other.find? id)

namespace Program.Reorders

theorem refl (program : Program) : program.Reorders program where
  size := rfl
  decls id := by
    cases program.find? id with
    | none => exact .none
    | some decl => exact .some (.same decl)

variable {program other : Program} (alike : program.Reorders other)

include alike

theorem symm : other.Reorders program where
  size := alike.size.symm
  decls id := by
    have related := alike.decls id
    generalize program.find? id = left at related ⊢
    generalize other.find? id = right at related ⊢
    cases related with
    | none => exact .none
    | some same => exact .some same.symm

theorem akin : program.Akin other where
  size := alike.size
  decls id := by
    have related := alike.decls id
    generalize program.find? id = found at related ⊢
    generalize other.find? id = present at related ⊢
    cases related with
    | none => exact .none
    | some same => exact .some same.akin

/-- What is found on one side is found on the other. -/
theorem find? {id : DeclId} {decl : Decl} (found : program.find? id = some decl) :
    ∃ again, other.find? id = some again ∧ decl.Reorders again := by
  have related := alike.decls id
  rw [found] at related
  cases same : other.find? id with
  | none =>
    rw [same] at related
    cases related
  | some again =>
    rw [same] at related
    cases related with
    | some kept => exact ⟨again, rfl, kept⟩

theorem routine? (id : DeclId) : other.routine? id = program.routine? id := by
  unfold Program.routine?
  obtain ⟨lost, missing⟩ | ⟨decl, peer, _, _, found, present, same⟩ := decl_of_rel (alike.decls id)
  · rw [lost, missing]
  · rw [found, present]
    exact congrArg Except.ok same.routine?

theorem captureRoutine (root : DeclId) (steps : Nat) (found : List DeclId) (id : DeclId) :
    other.captureRoutine root steps found id = program.captureRoutine root steps found id := by
  induction steps generalizing found id with
  | zero => rfl
  | succ steps steps_ih =>
    have below : other.captureRoutine root steps = program.captureRoutine root steps := by
      funext found id
      exact steps_ih found id
    rw [Program.captureRoutine, Program.captureRoutine, alike.routine?, below]
    simp only [alike.akin.captureStmts]

theorem kindred : program.Kindred other :=
  { alike.akin with
    captures := fun id => by
      rw [Program.captures, Program.captures, alike.akin.walkLimit, alike.captureRoutine] }

end Program.Reorders

end Lowering
