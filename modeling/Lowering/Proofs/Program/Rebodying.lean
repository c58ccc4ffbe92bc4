import Lowering.Proofs.Program.Kinship

/-
This file compares two programs that differ only in the bodies of functions.
-/

namespace Lowering

/-- The same declaration, up to its body if it is a function. -/
inductive Decl.Rebodies : Decl → Decl → Prop
  | same (decl : Decl) : Rebodies decl decl
  | function {routine other : Routine} (alike : routine.Rebodies other) (name : String) (ty : Ty)
    (parent : Option DeclId) (span : Span) :
    Rebodies ⟨name, .function routine, ty, parent, span⟩ ⟨name, .function other, ty, parent, span⟩

theorem Decl.Rebodies.akin {decl other : Decl} (alike : decl.Rebodies other) : decl.Akin other := by
  cases alike with
  | same => exact .same decl
  | function alike name ty parent span => exact .function alike name ty parent span

/-- The same declarations, up to the bodies of functions. -/
structure Program.Resembles (program other : Program) : Prop where
  size : other.size = program.size
  decls : ∀ id, Option.Rel Decl.Rebodies (program.find? id) (other.find? id)

theorem Program.Resembles.akin {program other : Program} (alike : program.Resembles other) :
    program.Akin other where
  size := alike.size
  decls id := by
    have related := alike.decls id
    generalize program.find? id = found at related ⊢
    generalize other.find? id = present at related ⊢
    cases related with
    | none => exact .none
    | some same => exact .some same.akin

/-- The same declarations up to the bodies of functions, and no function captures anything else. -/
structure Program.Rebodies (program other : Program) : Prop extends program.Resembles other where
  captures : ∀ id, other.captures id = program.captures id

theorem Program.Rebodies.kindred {program other : Program} (alike : program.Rebodies other) :
    program.Kindred other :=
  { alike.akin with captures := alike.captures }

end Lowering
