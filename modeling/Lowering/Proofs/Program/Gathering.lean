import Lowering.Proofs.Program.Enrolled

/-
This file shows that the declaration spaces of an assembled program list as their members what is
declared in them, and its functions as their parameters.
-/

namespace Lowering

/-- What a declaration lists: the members of a declaration space, the parameters of a function. -/
def Decl.contents (decl : Decl) : List DeclId :=
  decl.members ++ (decl.routine?.map Routine.params).getD []

/-- A change leaves a declaration where it is, with all that it lists. -/
structure Decl.Settled (later old : Decl) : Prop where
  parent : later.parent = old.parent
  contents : later.contents = old.contents

theorem Decl.Settled.mapRoutine {change : Routine → Routine}
    (params : ∀ routine, (change routine).params = routine.params) (decl : Decl) :
    (decl.mapKind (DeclKind.mapRoutine change)).Settled decl := by
  obtain ⟨name, kind, ty, parent, span⟩ := decl
  cases kind with
  | function routine => exact ⟨rfl, params routine⟩
  | _ => exact ⟨rfl, rfl⟩

theorem Decl.Settled.addConformance (conformance : Conformance) (decl : Decl) :
    (decl.mapKind (DeclKind.addConformance conformance)).Settled decl := by
  obtain ⟨name, kind, ty, parent, span⟩ := decl
  cases kind <;> exact ⟨rfl, rfl⟩

/-- What lists the new member is in no other way different. -/
theorem Decl.mem_contents_addMember {member other : DeclId} {decl : Decl}
    (listed : other ∈ (decl.mapKind (DeclKind.addMember member)).contents) :
    other ∈ decl.contents ∨ other = member := by
  obtain ⟨name, kind, ty, parent, span⟩ := decl
  cases kind with
  | module | product | view | typeExtension =>
    simpa [contents, mapKind, DeclKind.addMember, members, DeclKind.members, routine?,
      DeclKind.routine?] using listed
  | _ => exact Or.inl listed

/-- A function with new parameters lists no others. -/
theorem Decl.mem_contents_params {self : Option DeclId} {ids : List DeclId} {other : DeclId}
    {decl : Decl} (listed : other ∈ (decl.mapKind (DeclKind.mapRoutine fun routine =>
      { routine with self := self, params := ids })).contents) :
    other ∈ decl.contents ∨ other ∈ ids := by
  obtain ⟨name, kind, ty, parent, span⟩ := decl
  cases kind with
  | function => exact Or.inr listed
  | _ => exact Or.inl listed

namespace Program

/-- A declaration is declared in whatever lists it. -/
def Gathers (program : Program) : Prop :=
  ∀ id decl, program.find? id = some decl → ∀ member ∈ decl.contents,
    ∃ own, program.find? member = some own ∧ own.parent = some id

theorem gathers_empty : empty.Gathers := by
  intro id decl found
  simp [find?, empty] at found

variable {program : Program}

theorem Gathers.push (gathers : program.Gathers) {decl : Decl} (bare : decl.contents = []) :
    (program.push decl).Gathers := by
  intro id given found member listed
  rw [find?_push] at found
  split at found
  · obtain rfl := Option.some.inj found
    rw [bare] at listed
    cases listed
  · obtain ⟨own, there, parent⟩ := gathers id given found member listed
    exact ⟨own, find?_push_of_some there decl, parent⟩

/-- A declaration may change if it stays where it is, and what it lists anew is declared in it. -/
theorem Gathers.modify (gathers : program.Gathers) {id : DeclId} {change : Decl → Decl}
    (parent : ∀ decl, (change decl).parent = decl.parent)
    (contents : ∀ decl, ∀ member ∈ (change decl).contents, member ∈ decl.contents ∨
      ∃ own, program.find? member = some own ∧ own.parent = some id) :
    (program.modify id change).Gathers := by
  have lasting {member space : DeclId} {own : Decl} (there : program.find? member = some own)
      (inside : own.parent = some space) :
      ∃ later, (program.modify id change).find? member = some later ∧
        later.parent = some space := by
    rw [find?_modify, there]
    split
    · exact ⟨change own, rfl, (parent own).trans inside⟩
    · exact ⟨own, rfl, inside⟩
  intro other later found member listed
  rw [find?_modify] at found
  split at found
  next here =>
    subst here
    obtain ⟨decl, was, rfl⟩ := Option.map_eq_some_iff.mp found
    rcases contents decl member listed with old | ⟨own, there, inside⟩
    · obtain ⟨own, there, inside⟩ := gathers other decl was member old
      exact lasting there inside
    · exact lasting there inside
  next =>
    obtain ⟨own, there, inside⟩ := gathers other later found member listed
    exact lasting there inside

end Program

namespace Assembly

theorem gathers_push {decl : Decl} (bare : decl.contents = []) :
    Preserves Program.Gathers (push decl) := by
  intro before id after gathers done
  obtain ⟨_, rfl⟩ := run_push done
  exact gathers.push bare

theorem gathers_update {id : DeclId} {change : Decl → Decl}
    (settled : ∀ decl, (change decl).Settled decl) :
    Preserves Program.Gathers (update id change) := by
  intro before value after gathers done
  rw [run_update done]
  exact gathers.modify (fun decl => (settled decl).parent)
    fun decl member listed => Or.inl ((settled decl).contents ▸ listed)

/-- The new member is declared in the space that is told of it. -/
theorem gathers_pushMember {decl : Decl} (bare : decl.contents = []) :
    Preserves Program.Gathers (pushMember decl) := by
  intro before id after gathers done
  have entered := gathers_push bare before _ _ gathers rfl
  obtain ⟨rfl, ⟨_, rfl⟩ | ⟨space, outer, updated⟩⟩ := run_pushMember done
  · exact entered
  · obtain rfl := run_update updated
    refine entered.modify (fun _ => rfl) fun old member listed => ?_
    refine (Decl.mem_contents_addMember listed).imp_right fun same => ?_
    exact ⟨decl, same ▸ before.find?_push_next decl, outer⟩

theorem gathers_typed {make : Assembly DeclId} (made : Preserves Program.Gathers make) :
    Preserves Program.Gathers (do let id ← make; typeByDeclaration id; return id) :=
  made.typed fun _ _ => gathers_update fun _ => ⟨rfl, rfl⟩

theorem gathers_addRoutine (kind : RoutineKind) (parent : DeclId) (name : String)
    (params : List Param) (result : Ty) (selfType : Option Ty) :
    Preserves Program.Gathers (addRoutine kind parent name params result selfType) := by
  intro before id after gathers done
  obtain ⟨first, self, second, ids, third, entered, received, declared, rfl⟩ := run_addRoutine done
  have gathers := gathers_pushMember rfl _ _ _ gathers entered
  have gathers : second.Gathers :=
    Preserves.optionMapM selfType (fun ty => gathers_push rfl) _ _ _ gathers received
  have gathers : third.Gathers :=
    Preserves.mapM params (fun param => gathers_push rfl) _ _ _ gathers declared
  obtain ⟨_, _, there⟩ := find?_params id params declared
  exact gathers.modify (fun _ => rfl) fun old member listed =>
    (Decl.mem_contents_params listed).imp_right (there member)

theorem gathers_addLocalBinding (parent : DeclId) (pattern : Pattern) (ty : Ty)
    (initializer : Option Expr) :
    Preserves Program.Gathers (addLocalBinding parent pattern ty initializer) := by
  unfold addLocalBinding
  cases pattern.names with
  | nil => exact gathers_push rfl
  | cons var rest => exact .bind (.ask _) fun _ => gathers_push rfl

theorem Offered.gathers {A : Type} {step : Assembly A} (offered : Offered step) :
    Preserves Program.Gathers step := by
  cases offered with
  | addModule | addVariable | addBuiltin => exact gathers_push rfl
  | addImport | addAlias => exact gathers_pushMember rfl
  | addProduct | addView | addAbstractType =>
    exact gathers_typed (gathers_pushMember rfl)
  | addGenericParam => exact gathers_typed (gathers_push rfl)
  | addExtension =>
    exact .bind (.ask _) fun _ => .bind (.ask _) fun _ => gathers_pushMember rfl
  | addStoredProperty =>
    exact .bind (gathers_push rfl) fun _ =>
      .bind (.map (gathers_pushMember rfl)) fun _ => .pure _
  | addFunction => exact gathers_addRoutine _ _ _ _ _ _
  | addMethod | addConstructor => exact .bind (.ask _) fun _ => gathers_addRoutine _ _ _ _ _ _
  | addMemberwiseConstructor parent =>
    refine .bind (.ask _) fun vars => .bind (.mapM vars fun var => ?_) fun params => ?_
    · exact .bind (.ask _) fun _ => .pure _
    · refine .bind (.bind (.ask _) fun _ => gathers_addRoutine _ _ _ _ _ _) fun id => ?_
      exact .bind (gathers_update (.mapRoutine fun _ => rfl)) fun _ => .pure _
  | setBody | setEnv => exact gathers_update (.mapRoutine fun _ => rfl)
  | addLocalBinding => exact gathers_addLocalBinding _ _ _ _
  | addLocalVar =>
    exact .bind (gathers_push rfl) fun _ =>
      .bind (gathers_addLocalBinding _ _ _ _) fun _ => .pure _
  | addConformance => exact .bind (.ask _) fun decl => gathers_update (.addConformance _)

end Assembly

theorem Program.Assembled.gathers {program : Program} (assembled : program.Assembled) :
    program.Gathers := by
  induction assembled with
  | empty => exact gathers_empty
  | call _ offered done before_ih => exact offered.gathers _ _ _ before_ih done

end Lowering
