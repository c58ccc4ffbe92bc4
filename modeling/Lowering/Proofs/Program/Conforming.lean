import Lowering.Program.Scope
import Lowering.Proofs.Program.Occurrence

/-
This file collects the conformances of a program. An implementation may satisfy several
requirements, and the name of a thunk tells them apart by their qualified paths only.
-/

namespace Lowering

namespace Program

/-- The conformances that a product type declares. -/
def conformances (decl : Decl) : List Conformance :=
  match decl.kind with
  | .product _ conformances _ => conformances
  | _ => []

variable (program : Program)

/-- The implementations and requirements that all conformances pair. -/
def pairings : List ConformanceEntry :=
  program.decls.toList.flatMap fun decl => (conformances decl).flatMap Conformance.entries

/-- What a declaration adds to the witness tables when it is lowered. -/
def stated (id : DeclId) : List (DeclId × Conformance) :=
  match program.decl id with
  | .ok decl => (conformances decl).map (id, ·)
  | .error _ => []

/-- An entry needs a thunk if its requirement is a function. -/
def demands (entry : ConformanceEntry) : Bool :=
  ((program.decl entry.requirement).toOption.bind Decl.routine?).isSome

/-- Two declarations have one qualified path. -/
def SharesPath (left right : DeclId) : Prop :=
  ∃ path, program.qualifiedName left = .ok path ∧ program.qualifiedName right = .ok path

/-- What one implementation satisfies is told apart by qualified paths. -/
def Discerns : Prop :=
  ∀ first ∈ program.pairings, ∀ second ∈ program.pairings,
    first.implementation = second.implementation →
      program.SharesPath first.requirement second.requirement →
        first.requirement = second.requirement

instance (left right : DeclId) : Decidable (program.SharesPath left right) :=
  match given : program.qualifiedName left, other : program.qualifiedName right with
  | .ok path, .ok again =>
    if same : path = again then .isTrue ⟨path, given, same ▸ other⟩
    else .isFalse fun ⟨_, left, right⟩ => same
      ((Except.ok.inj (given.symm.trans left)).trans (Except.ok.inj (other.symm.trans right)).symm)
  | .error _, _ => .isFalse fun ⟨_, left, _⟩ => nomatch given.symm.trans left
  | .ok _, .error _ => .isFalse fun ⟨_, _, right⟩ => nomatch other.symm.trans right

instance : Decidable program.Discerns := by
  unfold Discerns
  infer_instance

variable {program}

/-- A function states nothing. -/
theorem stated_of_routine (program : Program) {id : DeclId} {decl : Decl} {routine : Routine}
    (found : program.decl id = .ok decl) (listed : decl.routine? = some routine) :
    program.stated id = [] := by
  cases kind : decl.kind <;>
    simp_all [stated, conformances, Decl.routine?, DeclKind.routine?]

theorem mem_pairings {id : DeclId} {decl : Decl} {conformance : Conformance}
    {entry : ConformanceEntry} (found : program.find? id = some decl)
    (stated : conformance ∈ conformances decl) (inside : entry ∈ conformance.entries) :
    entry ∈ program.pairings :=
  List.mem_flatMap.mpr ⟨decl, mem_decls found, List.mem_flatMap.mpr ⟨conformance, stated, inside⟩⟩

end Program

end Lowering
