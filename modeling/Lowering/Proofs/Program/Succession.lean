import Lowering.Proofs.Program.Receiving

/-
This file shows in which order an assembly declares what belongs together: the receiver and the
parameters of a function one after another, and a stored property right after its variable.
-/

namespace Lowering

/-- A declaration that is neither a member nor a function with a receiver or parameters. -/
structure Decl.ListsNothing (decl : Decl) : Prop where
  routine : ∀ routine ∈ decl.routine?, routine.self = none ∧ routine.params = []
  binding : ∀ binding, decl.kind = .binding binding → binding.isMember = false

namespace Decl.ListsNothing

variable (name : String) (ty : Ty) (parent : Option DeclId)

/-- What is no function and no binding. -/
theorem other {decl : Decl} (routine : decl.routine? = none)
    (binding : ∀ held, decl.kind ≠ .binding held) : decl.ListsNothing where
  routine _ listed := nomatch routine.symm.trans listed
  binding held kind := (binding held kind).elim

theorem stored : (Decl.unplaced name (.variable true) ty parent).ListsNothing :=
  .other rfl (by rintro _ ⟨⟩)

theorem parameter (label : Option String) :
    (Decl.unplaced name (.parameter label) ty parent).ListsNothing := .other rfl (by rintro _ ⟨⟩)

theorem bare (kind : RoutineKind) (isMember isMutating : Bool) : (Decl.unplaced name
    (.function (Assembly.bareRoutine kind isMember isMutating)) ty parent).ListsNothing := by
  refine ⟨fun routine listed => ?_, by rintro _ ⟨⟩⟩
  obtain rfl := Option.some.inj listed
  exact ⟨rfl, rfl⟩

end Decl.ListsNothing

namespace Program

/-- What a declaration lists of its own was declared in the order in which it is listed. -/
structure Succeeds (program : Program) (id : DeclId) (decl : Decl) : Prop where
  routine : ∀ routine ∈ decl.routine?,
    (routine.self.toList ++ routine.params).Pairwise fun first later => first.index < later.index
  binding : ∀ binding, decl.kind = .binding binding → binding.isMember = true →
    ∃ var own, binding.pattern = .named var ∧ var.index + 1 = id.index ∧
      program.find? var = some own ∧ own.kind.isStored = true

def Successive (program : Program) : Prop :=
  ∀ id decl, program.find? id = some decl → program.Succeeds id decl

theorem successive_empty : empty.Successive := by
  intro id decl found
  simp [find?, empty] at found

variable {program : Program} {id : DeclId} {decl : Decl}

theorem Succeeds.plain (plain : decl.ListsNothing) : program.Succeeds id decl where
  routine := by
    intro own listed
    obtain ⟨self, params⟩ := plain.routine own listed
    rw [self, params]
    exact .nil
  binding := fun own kind member => nomatch (plain.binding own kind).symm.trans member

/-- A function may be changed as long as it lists what was declared in order. -/
theorem Succeeds.mapRoutine {change : Routine → Routine} (succeeds : program.Succeeds id decl)
    (ascend : ∀ routine ∈ decl.routine?, ((change routine).self.toList ++
      (change routine).params).Pairwise fun first later => first.index < later.index) :
    program.Succeeds id (decl.mapKind (DeclKind.mapRoutine change)) where
  routine := by
    intro own listed
    rw [Decl.routine?_mapRoutine] at listed
    obtain ⟨old, held, rfl⟩ := Option.map_eq_some_iff.mp listed
    exact ascend old held
  binding := by
    intro held kind
    refine succeeds.binding held ?_
    obtain ⟨name, own, ty, parent, span⟩ := decl
    cases own <;> first | exact kind | cases kind

theorem Successive.push (successive : program.Successive)
    (new : (program.push decl).Succeeds program.nextId decl) : (program.push decl).Successive := by
  intro other own found
  rw [find?_push] at found
  split at found
  next last =>
    obtain rfl := Option.some.inj found
    exact last ▸ new
  next =>
    obtain ⟨routine, binding⟩ := successive other own found
    refine ⟨routine, fun held kind member => ?_⟩
    obtain ⟨var, stored, named, before, there, keeps⟩ := binding held kind member
    exact ⟨var, stored, named, before, find?_push_of_some there decl, keeps⟩

/-- A variable goes on holding its value, whatever is changed. -/
theorem Successive.modify (successive : program.Successive) {change : Decl → Decl}
    (stored : ∀ decl, (change decl).kind.isStored = decl.kind.isStored)
    (succeeds : ∀ decl, program.find? id = some decl → program.Succeeds id decl →
      program.Succeeds id (change decl)) : (program.modify id change).Successive := by
  have lasting {other : DeclId} {own : Decl} (succeeded : program.Succeeds other own) :
      (program.modify id change).Succeeds other own := by
    refine ⟨succeeded.routine, fun held kind member => ?_⟩
    obtain ⟨var, there, named, before, found, keeps⟩ := succeeded.binding held kind member
    by_cases same : var = id
    · refine ⟨var, change there, named, before, ?_, (stored there).trans keeps⟩
      rw [find?_modify, if_pos same, found, Option.map_some]
    · exact ⟨var, there, named, before, by rw [find?_modify, if_neg same, found], keeps⟩
  intro other own found
  rw [find?_modify] at found
  split at found
  next same =>
    subst same
    obtain ⟨old, was, rfl⟩ := Option.map_eq_some_iff.mp found
    exact lasting (succeeds old was (successive other old was))
  next => exact lasting (successive other own found)

end Program

namespace Assembly

section Primitive

variable {before after : Program} {id : DeclId} {decl : Decl} {change : Decl → Decl}

theorem succeeds_push (plain : decl.ListsNothing) : Preserves Program.Successive (push decl) := by
  intro before id after successive done
  obtain ⟨_, rfl⟩ := run_push done
  exact successive.push (.plain plain)

theorem succeeds_update
    (stored : ∀ decl, (change decl).kind.isStored = decl.kind.isStored)
    (succeeds : ∀ (program : Program) decl, program.Succeeds id decl →
      program.Succeeds id (change decl)) : Preserves Program.Successive (update id change) := by
  intro before value after successive done
  rw [run_update done]
  exact successive.modify stored fun decl _ => succeeds before decl

/-- A change that concerns neither functions nor bindings. -/
theorem succeeds_mapKind {change : DeclKind → DeclKind}
    (stored : ∀ kind, (change kind).isStored = kind.isStored)
    (routine : ∀ kind, (change kind).routine? = kind.routine?)
    (binding : ∀ kind held, change kind = .binding held → kind = .binding held) :
    Preserves Program.Successive (update id (Decl.mapKind change)) := by
  refine succeeds_update (fun decl => stored decl.kind) fun program decl succeeds => ⟨?_, ?_⟩
  · intro own listed
    exact succeeds.routine own ((routine decl.kind).symm.trans listed)
  · exact fun held kind => succeeds.binding held (binding decl.kind held kind)

theorem succeeds_addMember (member : DeclId) :
    Preserves Program.Successive (update id (Decl.mapKind (DeclKind.addMember member))) := by
  refine succeeds_mapKind ?_ (routine?_addMember member) ?_
  · intro kind
    cases kind <;> rfl
  · intro kind held same
    cases kind <;> first | exact same | cases same

/-- A function that is changed lists its receiver and its parameters as before. -/
theorem succeeds_mapRoutine {change : Routine → Routine}
    (same : ∀ routine, (change routine).self = routine.self ∧
      (change routine).params = routine.params) :
    Preserves Program.Successive (update id (Decl.mapKind (DeclKind.mapRoutine change))) := by
  refine succeeds_update (fun decl => ?_) fun program decl succeeds => succeeds.mapRoutine ?_
  · obtain ⟨name, kind, ty, parent, span⟩ := decl
    cases kind <;> rfl
  · intro old held
    rw [(same old).1, (same old).2]
    exact succeeds.routine old held

/-- What is entered into a declaration space may be a member of it. -/
theorem succeeds_enter (successive : before.Successive)
    (new : (before.push decl).Succeeds before.nextId decl)
    (done : pushMember decl before = .ok (id, after)) : after.Successive := by
  have entered := successive.push new
  obtain ⟨rfl, ⟨_, rfl⟩ | ⟨space, _, updated⟩⟩ := run_pushMember done
  · exact entered
  · exact succeeds_addMember _ _ () _ entered updated

theorem succeeds_pushMember (plain : decl.ListsNothing) :
    Preserves Program.Successive (pushMember decl) :=
  fun _ _ _ successive done => succeeds_enter successive (.plain plain) done

theorem succeeds_typed {make : Assembly DeclId} (made : Preserves Program.Successive make) :
    Preserves Program.Successive (do let id ← make; typeByDeclaration id; return id) :=
  made.typed fun _ _ => succeeds_update (fun _ => rfl)
    fun _ _ succeeds => ⟨succeeds.routine, succeeds.binding⟩

end Primitive

theorem succeeds_addVariable (parent : DeclId) (name : String) (ty : Ty) :
    Preserves Program.Successive (addVariable parent name ty) :=
  succeeds_push (.stored ..)

theorem succeeds_addStoredProperty (parent : DeclId) (name : String) (ty : Ty) :
    Preserves Program.Successive (addStoredProperty parent name ty) := by
  intro before id after successive done
  obtain ⟨var, between, pushed, done⟩ := run_bind.mp done
  obtain ⟨_, last, entered, done⟩ := run_bind.mp done
  obtain ⟨_, rfl⟩ := Prod.mk.inj (Except.ok.inj done)
  obtain ⟨binding, entered, _⟩ := run_map.mp entered
  have added := succeeds_addVariable parent name ty before var between successive pushed
  obtain ⟨rfl, rfl⟩ := run_push pushed
  refine succeeds_enter added ⟨by rintro _ ⟨⟩, ?_⟩ entered
  rintro _ ⟨⟩ _
  have there := Program.find?_push_of_some (before.find?_push_next (Decl.unplaced name
    (.variable true) ty (some parent)))
  refine ⟨before.nextId, _, rfl, ?_, there _, rfl⟩
  simp [Program.nextId, Program.size, Program.push]

/-- Each parameter is declared after those before it. -/
theorem params_ascend (owner : DeclId) (params : List Param) {before after : Program}
    {ids : List DeclId}
    (done : params.mapM (fun param => push (Decl.unplaced param.name (.parameter param.label)
      param.ty (some owner))) before = .ok (ids, after)) :
    (ids.Pairwise fun first later => first.index < later.index) ∧
      ∀ id ∈ ids, before.size ≤ id.index := by
  induction params generalizing before ids with
  | nil =>
    obtain ⟨rfl, rfl⟩ := run_mapM_nil.mp done
    exact ⟨.nil, nofun⟩
  | cons param rest rest_ih =>
    obtain ⟨id, between, others, pushed, mapped, rfl⟩ := run_mapM_cons.mp done
    obtain ⟨rfl, rfl⟩ := run_push pushed
    obtain ⟨ascend, behind⟩ := rest_ih mapped
    have behind (id : DeclId) (listed : id ∈ others) : before.size < id.index := by
      have behind := behind id listed
      rwa [Program.size, Program.push, Array.size_push] at behind
    refine ⟨.cons behind ascend, ?_⟩
    rintro _ (_ | ⟨_, listed⟩)
    · exact Nat.le_refl _
    · exact Nat.le_of_lt (behind _ listed)

/-- A function declares its receiver first, and then its parameters. -/
theorem succeeds_addRoutine (kind : RoutineKind) (parent : DeclId) (name : String)
    (params : List Param) (result : Ty) (selfType : Option Ty) :
    Preserves Program.Successive (addRoutine kind parent name params result selfType) := by
  intro before id after successive done
  obtain ⟨first, self, second, ids, third, entered, received, declared, rfl⟩ := run_addRoutine done
  have successive := succeeds_pushMember (.bare ..) _ _ _ successive entered
  obtain ⟨ascend, behind⟩ := params_ascend id params declared
  obtain ⟨successive, ascend⟩ : second.Successive ∧
      (self.toList ++ ids).Pairwise fun first later => first.index < later.index := by
    cases selfType with
    | none =>
      obtain ⟨rfl, rfl⟩ := Prod.mk.inj (Except.ok.inj received)
      exact ⟨successive, ascend⟩
    | some ty =>
      obtain ⟨fresh, pushed, rfl⟩ := run_map.mp received
      refine ⟨succeeds_push (.stored ..) _ _ _ successive pushed,
        .cons (fun id listed => ?_) ascend⟩
      obtain ⟨rfl, rfl⟩ := run_push pushed
      have behind := behind id listed
      rwa [Program.size, Program.push, Array.size_push] at behind
  have successive : third.Successive :=
    Preserves.mapM params (fun param => succeeds_push (.parameter ..)) _ _ _ successive declared
  refine successive.modify (fun decl => ?_) fun decl _ succeeds =>
    succeeds.mapRoutine fun _ _ => ascend
  obtain ⟨name, kind, ty, parent, span⟩ := decl
  cases kind <;> rfl

/-- A local binding is no member. -/
theorem succeeds_addLocalBinding (parent : DeclId) (pattern : Pattern) (ty : Ty)
    (initializer : Option Expr) :
    Preserves Program.Successive (addLocalBinding parent pattern ty initializer) := by
  have plain (name : String) : (Decl.unplaced name (.binding ⟨false, true, pattern, initializer⟩) ty
      (some parent)).ListsNothing :=
    ⟨by rintro _ ⟨⟩, by rintro _ ⟨⟩; rfl⟩
  unfold addLocalBinding
  cases pattern.names with
  | nil => exact succeeds_push (plain _)
  | cons var rest => exact .bind (.ask _) fun _ => succeeds_push (plain _)

theorem Offered.succeeds {A : Type} {step : Assembly A} (offered : Offered step) :
    Preserves Program.Successive step := by
  cases offered with
  | addModule | addVariable => exact succeeds_push (.other rfl (by rintro _ ⟨⟩))
  | addBuiltin => exact succeeds_push (.bare ..)
  | addImport | addAlias => exact succeeds_pushMember (.other rfl (by rintro _ ⟨⟩))
  | addProduct | addView | addAbstractType =>
    refine succeeds_typed (succeeds_pushMember ?_)
    exact .other rfl (by rintro _ ⟨⟩)
  | addGenericParam =>
    refine succeeds_typed (succeeds_push ?_)
    exact .other rfl (by rintro _ ⟨⟩)
  | addExtension =>
    refine .bind (.ask _) fun _ => .bind (.ask _) fun _ => succeeds_pushMember ?_
    exact .other rfl (by rintro _ ⟨⟩)
  | addStoredProperty => exact succeeds_addStoredProperty _ _ _
  | addFunction => exact succeeds_addRoutine _ _ _ _ _ _
  | addMethod | addConstructor => exact .bind (.ask _) fun _ => succeeds_addRoutine _ _ _ _ _ _
  | addMemberwiseConstructor parent =>
    refine .bind (.ask _) fun vars => .bind (.mapM vars fun var => ?_) fun params => ?_
    · exact .bind (.ask _) fun _ => .pure _
    · refine .bind (.bind (.ask _) fun _ => succeeds_addRoutine _ _ _ _ _ _) fun id => ?_
      exact .bind (succeeds_mapRoutine fun _ => ⟨rfl, rfl⟩) fun _ => .pure _
  | setBody | setEnv => exact succeeds_mapRoutine fun _ => ⟨rfl, rfl⟩
  | addLocalBinding => exact succeeds_addLocalBinding _ _ _ _
  | addLocalVar =>
    exact .bind (succeeds_addVariable _ _ _) fun _ =>
      .bind (succeeds_addLocalBinding _ _ _ _) fun _ => .pure _
  | addConformance =>
    refine .bind (.ask _) fun decl => succeeds_mapKind ?_ ?_ ?_
    · exact fun kind => by cases kind <;> rfl
    · exact fun kind => by cases kind <;> rfl
    · intro kind held same
      cases kind <;> first | exact same | cases same

end Assembly

theorem Program.Assembled.successive {program : Program} (assembled : program.Assembled) :
    program.Successive := by
  induction assembled with
  | empty => exact successive_empty
  | call _ offered done before_ih => exact offered.succeeds _ _ _ before_ih done

theorem nodup_of_ascend {ids : List DeclId}
    (ascend : ids.Pairwise fun first later => first.index < later.index) : ids.Nodup := by
  refine ascend.imp ?_
  rintro first _ ahead rfl
  exact Nat.lt_irrefl _ ahead

/-- The receiver of a function and its parameters are different declarations. -/
theorem Program.Succeeds.distinct {program : Program} {id : DeclId} {decl : Decl}
    (succeeds : program.Succeeds id decl) {routine : Routine}
    (listed : decl.routine? = some routine) : (routine.self.toList ++ routine.params).Nodup :=
  nodup_of_ascend (succeeds.routine routine listed)

end Lowering
