import Lowering.Proofs.Typing.Signed

/-
This file shows that an assembled program has no parameters but those of its functions: a parameter
is declared inside a function, and the function lists it.
-/

namespace Lowering

/-- What a change leaves of a declaration: its place, the parameters of a function, and whether it
is a parameter itself. -/
structure Decl.Retains (later old : Decl) : Prop where
  parent : later.parent = old.parent
  parameter : later.isParameter = old.isParameter
  routine : ∀ routine, old.routine? = some routine → ∃ own, later.routine? = some own ∧
    own.params = routine.params

namespace Decl.Retains

theorem refl (decl : Decl) : decl.Retains decl :=
  ⟨rfl, rfl, fun routine listed => ⟨routine, listed, rfl⟩⟩

theorem addMember (member : DeclId) (decl : Decl) :
    (decl.mapKind (DeclKind.addMember member)).Retains decl := by
  obtain ⟨name, kind, ty, parent, span⟩ := decl
  cases kind <;> exact ⟨rfl, rfl, fun routine listed => ⟨routine, listed, rfl⟩⟩

theorem addConformance (conformance : Conformance) (decl : Decl) :
    (decl.mapKind (DeclKind.addConformance conformance)).Retains decl := by
  obtain ⟨name, kind, ty, parent, span⟩ := decl
  cases kind <;> exact ⟨rfl, rfl, fun routine listed => ⟨routine, listed, rfl⟩⟩

theorem mapRoutine {change : Routine → Routine}
    (params : ∀ routine, (change routine).params = routine.params) (decl : Decl) :
    (decl.mapKind (DeclKind.mapRoutine change)).Retains decl := by
  refine ⟨rfl, ?_, fun routine listed => ?_⟩
  · obtain ⟨name, kind, ty, parent, span⟩ := decl
    cases kind <;> rfl
  · exact ⟨change routine, by rw [Decl.routine?_mapRoutine, listed]; rfl, params routine⟩

end Decl.Retains

namespace Program

/-- Every parameter is declared inside the function that lists it. -/
def Enrolled (program : Program) : Prop :=
  ∀ id decl, program.find? id = some decl → decl.isParameter = true →
    ∃ owner holder routine, decl.parent = some owner ∧ program.find? owner = some holder ∧
      holder.routine? = some routine ∧ id ∈ routine.params

theorem enrolled_empty : empty.Enrolled := by
  intro id decl found
  simp [find?, empty] at found

/-- What is there stays there when something is declared. -/
theorem find?_push_of_some {program : Program} {id : DeclId} {old : Decl}
    (found : program.find? id = some old) (decl : Decl) :
    (program.push decl).find? id = some old := by
  rw [find?_push, if_neg, found]
  rintro rfl
  exact nomatch (program.find?_nextId).symm.trans found

variable {program : Program}

theorem Enrolled.push (enrolled : program.Enrolled) {decl : Decl}
    (plain : decl.isParameter = false) : (program.push decl).Enrolled := by
  intro id given found parameter
  rw [find?_push] at found
  split at found
  · obtain rfl := Option.some.inj found
    rw [plain] at parameter
    cases parameter
  · obtain ⟨owner, holder, routine, parent, there, listed, inside⟩ :=
      enrolled id given found parameter
    exact ⟨owner, holder, routine, parent, find?_push_of_some there decl, listed, inside⟩

theorem Enrolled.modify (enrolled : program.Enrolled) {id : DeclId} {change : Decl → Decl}
    (retains : ∀ decl, (change decl).Retains decl) : (program.modify id change).Enrolled := by
  have lasting {other : DeclId} {decl : Decl} (found : program.find? other = some decl) :
      ∃ later, (program.modify id change).find? other = some later ∧ later.Retains decl := by
    rw [find?_modify, found]
    split
    · exact ⟨change decl, rfl, retains decl⟩
    · exact ⟨decl, rfl, .refl decl⟩
  intro other later found parameter
  obtain ⟨decl, was, retained⟩ : ∃ decl, program.find? other = some decl ∧ later.Retains decl := by
    rw [find?_modify] at found
    split at found
    · obtain ⟨decl, was, rfl⟩ := Option.map_eq_some_iff.mp found
      exact ⟨decl, was, retains decl⟩
    · exact ⟨later, found, .refl later⟩
  obtain ⟨owner, holder, routine, parent, there, listed, inside⟩ :=
    enrolled other decl was (retained.parameter ▸ parameter)
  obtain ⟨last, stays, kept⟩ := lasting there
  obtain ⟨own, holds, params⟩ := kept.routine routine listed
  exact ⟨owner, last, own, retained.parent.trans parent, stays, holds, params ▸ inside⟩

end Program

namespace Assembly

theorem enrolls_push {decl : Decl} (plain : decl.isParameter = false) :
    Preserves Program.Enrolled (push decl) := by
  intro before id after enrolled done
  obtain ⟨_, rfl⟩ := run_push done
  exact enrolled.push plain

theorem enrolls_update {id : DeclId} {change : Decl → Decl}
    (retains : ∀ decl, (change decl).Retains decl) :
    Preserves Program.Enrolled (update id change) := by
  intro before value after enrolled done
  rw [run_update done]
  exact enrolled.modify retains

theorem enrolls_pushMember {decl : Decl} (plain : decl.isParameter = false) :
    Preserves Program.Enrolled (pushMember decl) :=
  .pushMember (enrolls_push plain) fun id _ => enrolls_update (.addMember id)

theorem enrolls_typed {make : Assembly DeclId} (made : Preserves Program.Enrolled make) :
    Preserves Program.Enrolled (do let id ← make; typeByDeclaration id; return id) :=
  made.typed fun _ _ => enrolls_update fun _ =>
    ⟨rfl, rfl, fun routine listed => ⟨routine, listed, rfl⟩⟩

/-- The declared parameters are new, and they stand inside the function. -/
theorem find?_params (owner : DeclId) (params : List Param) {before after : Program}
    {ids : List DeclId}
    (done : params.mapM (fun param => push (Decl.unplaced param.name (.parameter param.label)
      param.ty (some owner))) before = .ok (ids, after)) :
    (∀ id decl, before.find? id = some decl → after.find? id = some decl) ∧
      (∀ id decl, after.find? id = some decl →
        before.find? id = some decl ∨ id ∈ ids ∧ decl.parent = some owner) ∧
      ∀ id ∈ ids, ∃ decl, after.find? id = some decl ∧ decl.parent = some owner := by
  induction params generalizing before ids with
  | nil =>
    obtain ⟨rfl, rfl⟩ := run_mapM_nil.mp done
    exact ⟨fun _ _ found => found, fun _ _ found => Or.inl found, nofun⟩
  | cons param rest rest_ih =>
    obtain ⟨id, between, others, pushed, mapped, rfl⟩ := run_mapM_cons.mp done
    obtain ⟨rfl, rfl⟩ := run_push pushed
    obtain ⟨stays, origin, there⟩ := rest_ih mapped
    refine ⟨fun id decl found => stays id decl (Program.find?_push_of_some found _), ?_, ?_⟩
    · intro id decl found
      rcases origin id decl found with early | ⟨inside, parent⟩
      · rw [Program.find?_push] at early
        split at early
        next here =>
          obtain rfl := Option.some.inj early
          exact Or.inr ⟨here ▸ List.mem_cons_self .., rfl⟩
        next => exact Or.inl early
      · exact Or.inr ⟨List.mem_cons_of_mem _ inside, parent⟩
    · rintro id (_ | ⟨_, inside⟩)
      · exact ⟨_, stays _ _ (before.find?_push_next _), rfl⟩
      · exact there id inside

/-- A new function lists the parameters that are declared for it. -/
theorem enrolls_addRoutine (kind : RoutineKind) (parent : DeclId) (name : String)
    (params : List Param) (result : Ty) (selfType : Option Ty) :
    Preserves Program.Enrolled (addRoutine kind parent name params result selfType) := by
  intro before id after enrolled done
  obtain ⟨first, self, second, ids, third, entered, received, declared, rfl⟩ := run_addRoutine done
  have enrolled_first := enrolls_pushMember rfl _ _ _ enrolled entered
  obtain ⟨holder, found, _, bare⟩ := find?_of_pushMember entered
  replace bare : holder.routine? = some _ := bare
  obtain ⟨stays, origin, _⟩ := find?_params id params declared
  -- The receiver, if any, is declared in between.
  obtain ⟨enrolled_second, found⟩ : second.Enrolled ∧ second.find? id = some holder := by
    cases selfType with
    | none =>
      obtain ⟨_, rfl⟩ := Prod.mk.inj (Except.ok.inj received)
      exact ⟨enrolled_first, found⟩
    | some ty =>
      obtain ⟨fresh, pushed, _⟩ := run_map.mp received
      have kept := enrolls_push rfl _ _ _ enrolled_first pushed
      obtain ⟨_, rfl⟩ := run_push pushed
      exact ⟨kept, Program.find?_push_of_some found _⟩
  intro other later found_other parameter
  rw [Program.find?_modify] at found_other
  split at found_other
  next here =>
    rw [here, stays id holder found] at found_other
    obtain rfl := Option.some.inj found_other
    obtain ⟨_, kind, _, _, _⟩ := holder
    cases kind with
    | function => cases parameter
    | _ => cases bare.symm
  next apart =>
    rcases origin other later found_other with old | ⟨inside, outer⟩
    · obtain ⟨owner, own, routine, outer, there, listed, inside⟩ :=
        enrolled_second other later old parameter
      refine ⟨owner, own, routine, outer, ?_, listed, inside⟩
      rw [Program.find?_modify, if_neg, stays owner own there]
      rintro rfl
      obtain rfl := Option.some.inj (found.symm.trans there)
      obtain rfl := Option.some.inj (bare.symm.trans listed)
      cases inside
    · have listed := Decl.routine?_mapRoutine
        (fun routine => { routine with self := self, params := ids }) holder
      rw [bare] at listed
      refine ⟨id, _, _, outer, ?_, listed, inside⟩
      rw [Program.find?_modify, if_pos rfl, stays id holder found]
      rfl

theorem enrolls_addLocalBinding (parent : DeclId) (pattern : Pattern) (ty : Ty)
    (initializer : Option Expr) :
    Preserves Program.Enrolled (addLocalBinding parent pattern ty initializer) := by
  unfold addLocalBinding
  cases pattern.names with
  | nil => exact enrolls_push rfl
  | cons var rest => exact .bind (.ask _) fun _ => enrolls_push rfl

theorem Offered.enrolls {A : Type} {step : Assembly A} (offered : Offered step) :
    Preserves Program.Enrolled step := by
  cases offered with
  | addModule | addVariable | addBuiltin => exact enrolls_push rfl
  | addImport | addAlias => exact enrolls_pushMember rfl
  | addProduct | addView | addAbstractType =>
    exact enrolls_typed (enrolls_pushMember rfl)
  | addGenericParam => exact enrolls_typed (enrolls_push rfl)
  | addExtension =>
    exact .bind (.ask _) fun _ => .bind (.ask _) fun _ => enrolls_pushMember rfl
  | addStoredProperty =>
    exact .bind (enrolls_push rfl) fun _ =>
      .bind (.map (enrolls_pushMember rfl)) fun _ => .pure _
  | addFunction => exact enrolls_addRoutine _ _ _ _ _ _
  | addMethod | addConstructor => exact .bind (.ask _) fun _ => enrolls_addRoutine _ _ _ _ _ _
  | addMemberwiseConstructor parent =>
    refine .bind (.ask _) fun vars => .bind (.mapM vars fun var => ?_) fun params => ?_
    · exact .bind (.ask _) fun _ => .pure _
    · refine .bind (.bind (.ask _) fun _ => enrolls_addRoutine _ _ _ _ _ _) fun id => ?_
      exact .bind (enrolls_update (.mapRoutine fun _ => rfl)) fun _ => .pure _
  | setBody | setEnv => exact enrolls_update (.mapRoutine fun _ => rfl)
  | addLocalBinding => exact enrolls_addLocalBinding _ _ _ _
  | addLocalVar =>
    exact .bind (enrolls_push rfl) fun _ =>
      .bind (enrolls_addLocalBinding _ _ _ _) fun _ => .pure _
  | addConformance => exact .bind (.ask _) fun decl => enrolls_update (.addConformance _)

end Assembly

theorem Program.Assembled.enrolled {program : Program} (assembled : program.Assembled) :
    program.Enrolled := by
  induction assembled with
  | empty => exact enrolled_empty
  | call _ offered done before_ih => exact offered.enrolls _ _ _ before_ih done

end Lowering
