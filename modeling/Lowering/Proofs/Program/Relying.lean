import Lowering.Proofs.Program.Capturing
import Lowering.Proofs.Program.Enrolled
import Lowering.Proofs.Program.Formed

/-
This file shows that in an assembled program the receiver of every function is there, and so is what
an extension extends.
-/

namespace Lowering

/-- What the name and the type of a declaration rely on: a receiver, or what an extension extends. -/
def Decl.relied (decl : Decl) : List DeclId :=
  (decl.routine?.bind Routine.self).toList ++ decl.extended?.toList

theorem Decl.relied_addMember (member : DeclId) (decl : Decl) :
    (decl.mapKind (DeclKind.addMember member)).relied = decl.relied := by
  obtain ⟨name, kind, ty, parent, span⟩ := decl
  cases kind <;> rfl

theorem Decl.relied_addConformance (conformance : Conformance) (decl : Decl) :
    (decl.mapKind (DeclKind.addConformance conformance)).relied = decl.relied := by
  obtain ⟨name, kind, ty, parent, span⟩ := decl
  cases kind <;> rfl

theorem Decl.relied_mapRoutine {change : Routine → Routine}
    (self : ∀ routine, (change routine).self = routine.self) (decl : Decl) :
    (decl.mapKind (DeclKind.mapRoutine change)).relied = decl.relied := by
  obtain ⟨name, kind, ty, parent, span⟩ := decl
  cases kind with
  | function routine =>
    simp [relied, mapKind, DeclKind.mapRoutine, routine?, DeclKind.routine?, extended?, self]
  | _ => rfl

namespace Program

/-- What a declaration relies on is there. -/
def Relies (program : Program) : Prop :=
  ∀ id decl, program.find? id = some decl → ∀ other ∈ decl.relied, other.index < program.size

theorem relies_empty : empty.Relies := by
  intro id decl found
  simp [find?, empty] at found

theorem size_push (program : Program) (decl : Decl) :
    (program.push decl).size = program.size + 1 := Array.size_push _

variable {program : Program}

theorem Relies.push (relies : program.Relies) {decl : Decl}
    (there : ∀ other ∈ decl.relied, other.index < program.size) : (program.push decl).Relies := by
  intro id given found other listed
  rw [size_push]
  rw [find?_push] at found
  split at found
  · obtain rfl := Option.some.inj found
    exact Nat.lt_succ_of_lt (there other listed)
  · exact Nat.lt_succ_of_lt (relies id given found other listed)

/-- A declaration may change if what it relies on anew is there. -/
theorem Relies.modify (relies : program.Relies) {id : DeclId} {change : Decl → Decl}
    (there : ∀ decl, ∀ other ∈ (change decl).relied,
      other ∈ decl.relied ∨ other.index < program.size) : (program.modify id change).Relies := by
  intro own later found other listed
  rw [size_modify]
  rw [find?_modify] at found
  split at found
  · obtain ⟨decl, was, rfl⟩ := Option.map_eq_some_iff.mp found
    exact (there decl other listed).elim (relies own decl was other) fun inside => inside
  · exact relies own later found other listed

end Program

namespace Assembly

open Program

theorem relies_push {decl : Decl} (bare : decl.relied = []) :
    Preserves Program.Relies (push decl) := by
  intro before id after relies done
  obtain ⟨_, rfl⟩ := run_push done
  exact relies.push fun other listed => by rw [bare] at listed; cases listed

theorem relies_update {id : DeclId} {change : Decl → Decl}
    (same : ∀ decl, (change decl).relied = decl.relied) :
    Preserves Program.Relies (update id change) := by
  intro before value after relies done
  rw [run_update done]
  exact relies.modify fun decl other listed => Or.inl (same decl ▸ listed)

/-- A member may rely on what is there already. -/
theorem relies_entered {decl : Decl} {before after : Program} {id : DeclId}
    (relies : before.Relies) (there : ∀ other ∈ decl.relied, other.index < before.size)
    (done : pushMember decl before = .ok (id, after)) : after.Relies := by
  have entered := relies.push there
  obtain ⟨rfl, ⟨_, rfl⟩ | ⟨space, _, updated⟩⟩ := run_pushMember done
  · exact entered
  · exact relies_update (Decl.relied_addMember _) _ () _ entered updated

theorem relies_pushMember {decl : Decl} (bare : decl.relied = []) :
    Preserves Program.Relies (pushMember decl) := by
  intro before id after relies done
  exact relies_entered relies (fun other listed => by rw [bare] at listed; cases listed) done

theorem relies_typed {make : Assembly DeclId} (made : Preserves Program.Relies make) :
    Preserves Program.Relies (do let id ← make; typeByDeclaration id; return id) :=
  made.typed fun _ _ => relies_update fun _ => rfl

/-- An extension is only declared where there is something to extend. -/
theorem relies_addExtension (parent extended : DeclId) :
    Preserves Program.Relies (addExtension parent extended) := by
  intro before id after relies done
  obtain ⟨decl, _, asked, rest⟩ := run_bind.mp done
  obtain ⟨found, rfl⟩ := run_ask.mp asked
  obtain ⟨ty, _, typed, entered⟩ := run_bind.mp rest
  obtain ⟨_, rfl⟩ := run_ask.mp typed
  refine relies_entered relies (fun other listed => ?_) entered
  obtain rfl := List.mem_singleton.mp listed
  exact lt_of_find? (decl_eq_ok.mp found)

/-- A receiver is declared before the function is told of it. -/
theorem relies_addRoutine (kind : RoutineKind) (parent : DeclId) (name : String)
    (params : List Param) (result : Ty) (selfType : Option Ty) :
    Preserves Program.Relies (addRoutine kind parent name params result selfType) := by
  intro before id after relies done
  obtain ⟨first, self, second, ids, third, entered, received, declared, rfl⟩ := run_addRoutine done
  have relies := relies_pushMember rfl _ _ _ relies entered
  obtain ⟨relies, there⟩ : second.Relies ∧ ∀ other ∈ self, ∃ own, second.find? other = some own := by
    cases selfType with
    | none =>
      obtain ⟨rfl, rfl⟩ := Prod.mk.inj (Except.ok.inj received)
      exact ⟨relies, nofun⟩
    | some ty =>
      obtain ⟨fresh, pushed, rfl⟩ := run_map.mp received
      have relies := relies_push rfl _ _ _ relies pushed
      obtain ⟨rfl, rfl⟩ := run_push pushed
      refine ⟨relies, fun other given => ?_⟩
      obtain rfl := Option.some.inj given
      exact ⟨_, first.find?_push_next _⟩
  have relies : third.Relies :=
    Preserves.mapM params (fun param => relies_push rfl) _ _ _ relies declared
  obtain ⟨stays, _, _⟩ := find?_params id params declared
  refine relies.modify fun old other listed => ?_
  obtain ⟨name, kind, ty, parent, span⟩ := old
  cases kind with
  | function routine =>
    have given : other ∈ self := by
      simpa [Decl.relied, Decl.mapKind, DeclKind.mapRoutine, Decl.routine?, DeclKind.routine?,
        Decl.extended?] using listed
    obtain ⟨own, found⟩ := there other given
    exact Or.inr (lt_of_find? (stays other own found))
  | _ => exact Or.inl listed

theorem relies_addLocalBinding (parent : DeclId) (pattern : Pattern) (ty : Ty)
    (initializer : Option Expr) :
    Preserves Program.Relies (addLocalBinding parent pattern ty initializer) := by
  unfold addLocalBinding
  cases pattern.names with
  | nil => exact relies_push rfl
  | cons var rest => exact .bind (.ask _) fun _ => relies_push rfl

theorem Offered.relies {A : Type} {step : Assembly A} (offered : Offered step) :
    Preserves Program.Relies step := by
  cases offered with
  | addModule | addVariable | addBuiltin => exact relies_push rfl
  | addImport | addAlias => exact relies_pushMember rfl
  | addProduct | addView | addAbstractType => exact relies_typed (relies_pushMember rfl)
  | addGenericParam => exact relies_typed (relies_push rfl)
  | addExtension => exact relies_addExtension _ _
  | addStoredProperty =>
    exact .bind (relies_push rfl) fun _ =>
      .bind (.map (relies_pushMember rfl)) fun _ => .pure _
  | addFunction => exact relies_addRoutine _ _ _ _ _ _
  | addMethod | addConstructor => exact .bind (.ask _) fun _ => relies_addRoutine _ _ _ _ _ _
  | addMemberwiseConstructor parent =>
    refine .bind (.ask _) fun vars => .bind (.mapM vars fun var => ?_) fun params => ?_
    · exact .bind (.ask _) fun _ => .pure _
    · refine .bind (.bind (.ask _) fun _ => relies_addRoutine _ _ _ _ _ _) fun id => ?_
      exact .bind (relies_update (Decl.relied_mapRoutine fun _ => rfl)) fun _ => .pure _
  | setBody | setEnv => exact relies_update (Decl.relied_mapRoutine fun _ => rfl)
  | addLocalBinding => exact relies_addLocalBinding _ _ _ _
  | addLocalVar =>
    exact .bind (relies_push rfl) fun _ =>
      .bind (relies_addLocalBinding _ _ _ _) fun _ => .pure _
  | addConformance =>
    exact .bind (.ask _) fun decl => relies_update (Decl.relied_addConformance _)

end Assembly

theorem Program.Assembled.relies {program : Program} (assembled : program.Assembled) :
    program.Relies := by
  induction assembled with
  | empty => exact relies_empty
  | call _ offered done before_ih => exact offered.relies _ _ _ before_ih done

end Lowering
