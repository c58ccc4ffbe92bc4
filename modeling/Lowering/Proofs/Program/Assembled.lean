import Lowering.Program.Assembly
import Lowering.Proofs.Run

/-
This file holds the programs that the assembly calls make, and what all of them have in common: a
function has a function type, and a constructor is no member.
-/

namespace Lowering

/-- A function has a function type, and a constructor does not take a receiver. -/
def Decl.Routed (decl : Decl) : Prop :=
  ∀ routine, decl.routine? = some routine →
    (∃ funType, decl.ty.asFunction? = some funType) ∧
      (routine.isConstructor = true → routine.isMember = false)

theorem Decl.routine?_mapRoutine (change : Routine → Routine) (decl : Decl) :
    (decl.mapKind (DeclKind.mapRoutine change)).routine? = decl.routine?.map change := by
  cases kind : decl.kind <;>
    simp [Decl.routine?, Decl.mapKind, kind, DeclKind.mapRoutine, DeclKind.routine?]

namespace Program

def Routed (program : Program) : Prop :=
  ∀ id decl, program.find? id = some decl → decl.Routed

theorem routed_empty : empty.Routed := by
  intro id decl found
  simp [find?, empty] at found

theorem Routed.push {program : Program} (routed : program.Routed) {decl : Decl}
    (new : decl.Routed) : (program.push decl).Routed := by
  intro id other found
  by_cases inside : id.index < program.size
  · exact routed id other (program.find?_push_of_lt decl id inside ▸ found)
  · have last : id = program.nextId := by
      have bound : id.index < (program.push decl).decls.size :=
        (Array.getElem?_eq_some_iff.mp found).1
      have size : (program.push decl).decls.size = program.size + 1 := Array.size_push _
      have index : id.index = program.size := by omega
      cases id
      exact congrArg DeclId.mk index
    rw [last, program.find?_push_next] at found
    exact Option.some.inj found ▸ new

theorem find?_modify (program : Program) (id other : DeclId) (change : Decl → Decl) :
    (program.modify id change).find? other =
      if other = id then (program.find? other).map change else program.find? other := by
  show (program.decls.modify id.index change)[other.index]? = _
  rw [Array.getElem?_modify]
  by_cases same : other = id
  · rw [if_pos (congrArg DeclId.index same).symm, if_pos same, find?]
  · have apart : id.index ≠ other.index := by
      intro index
      cases id
      cases other
      exact same (congrArg DeclId.mk index.symm)
    rw [if_neg apart, if_neg same, find?]

theorem Routed.modify {program : Program} (routed : program.Routed) {id : DeclId}
    {change : Decl → Decl}
    (keeps : ∀ decl, program.find? id = some decl → decl.Routed → (change decl).Routed) :
    (program.modify id change).Routed := by
  intro other decl found
  rw [find?_modify] at found
  split at found
  next same =>
    subst same
    obtain ⟨old, listed, rfl⟩ := Option.map_eq_some_iff.mp found
    exact keeps old listed (routed other old listed)
  next => exact routed other decl found

end Program

namespace Assembly

variable {A B : Type}

theorem run_bind {step : Assembly A} {next : A → Assembly B} {before after : Program} {value : B} :
    (step >>= next) before = .ok (value, after) ↔
      ∃ first between, step before = .ok (first, between) ∧
        next first between = .ok (value, after) := by
  show (step before >>= fun result => next result.1 result.2) = _ ↔ _
  rw [check_bind]
  constructor
  · rintro ⟨⟨first, between⟩, ran, rest⟩
    exact ⟨first, between, ran, rest⟩
  · rintro ⟨first, between, ran, rest⟩
    exact ⟨(first, between), ran, rest⟩

theorem run_map {change : A → B} {step : Assembly A} {before after : Program} {value : B} :
    (change <$> step) before = .ok (value, after) ↔
      ∃ first, step before = .ok (first, after) ∧ change first = value := by
  show (step before >>= fun result => pure (change result.1, result.2)) = _ ↔ _
  rw [check_bind]
  constructor
  · rintro ⟨⟨first, between⟩, ran, rest⟩
    obtain ⟨rfl, rfl⟩ := Prod.mk.inj ((check_pure _ _).mp rest)
    exact ⟨first, ran, rfl⟩
  · rintro ⟨first, ran, rfl⟩
    exact ⟨(first, after), ran, rfl⟩

theorem run_ask {question : Program → Answer A} {before after : Program} {value : A} :
    ask question before = .ok (value, after) ↔ question before = .ok value ∧ after = before := by
  unfold ask
  rw [run_bind]
  constructor
  · rintro ⟨program, between, read, rest⟩
    obtain ⟨rfl, rfl⟩ := Prod.mk.inj (Except.ok.inj read)
    obtain ⟨given, answered, same⟩ := (check_bind _ _ _).mp rest
    obtain ⟨rfl, rfl⟩ := Prod.mk.inj ((check_pure _ _).mp same)
    exact ⟨answered, rfl⟩
  · rintro ⟨answered, rfl⟩
    exact ⟨after, after, rfl, (check_bind _ _ _).mpr ⟨value, answered, rfl⟩⟩

theorem run_push {decl : Decl} {before after : Program} {id : DeclId}
    (done : push decl before = .ok (id, after)) :
    id = before.nextId ∧ after = before.push decl := by
  obtain ⟨program, between, read, rest⟩ := run_bind.mp done
  obtain ⟨rfl, rfl⟩ := Prod.mk.inj (Except.ok.inj read)
  obtain ⟨_, middle, changed, rest⟩ := run_bind.mp rest
  obtain ⟨_, rfl⟩ := Prod.mk.inj (Except.ok.inj changed)
  obtain ⟨rfl, rfl⟩ := Prod.mk.inj (Except.ok.inj rest)
  exact ⟨rfl, rfl⟩

theorem run_update {id : DeclId} {change : Decl → Decl} {before after : Program} {value : Unit}
    (done : update id change before = .ok (value, after)) : after = before.modify id change := by
  obtain ⟨_, between, asked, rest⟩ := run_bind.mp done
  obtain ⟨decl, asked, _⟩ := run_map.mp asked
  obtain ⟨_, rfl⟩ := run_ask.mp asked
  obtain ⟨_, rfl⟩ := Prod.mk.inj (Except.ok.inj rest)
  rfl

theorem run_mapM_nil {each : A → Assembly B} {before after : Program} {values : List B} :
    [].mapM each before = .ok (values, after) ↔ values = [] ∧ after = before := by
  rw [List.mapM_nil]
  constructor
  · intro done
    obtain ⟨rfl, rfl⟩ := Prod.mk.inj (Except.ok.inj done)
    exact ⟨rfl, rfl⟩
  · rintro ⟨rfl, rfl⟩
    rfl

theorem run_mapM_cons {each : A → Assembly B} {item : A} {rest : List A}
    {before after : Program} {values : List B} :
    (item :: rest).mapM each before = .ok (values, after) ↔
      ∃ value between others, each item before = .ok (value, between) ∧
        rest.mapM each between = .ok (others, after) ∧ values = value :: others := by
  rw [List.mapM_cons, run_bind]
  constructor
  · rintro ⟨value, between, ran, done⟩
    obtain ⟨others, last, mapped, done⟩ := run_bind.mp done
    obtain ⟨rfl, rfl⟩ := Prod.mk.inj (Except.ok.inj done)
    exact ⟨value, between, others, ran, mapped, rfl⟩
  · rintro ⟨value, between, others, ran, mapped, rfl⟩
    exact ⟨value, between, ran, run_bind.mpr ⟨others, after, mapped, rfl⟩⟩

/-- What was just declared gets a type, and nothing else about it changes. -/
theorem run_typed {make : Assembly DeclId} {before after : Program} {id : DeclId}
    (done : (do let id ← make; typeByDeclaration id; return id) before = .ok (id, after)) :
    ∃ between ty, make before = .ok (id, between) ∧
      after = between.modify id fun decl => { decl with ty := ty } := by
  obtain ⟨fresh, between, ran, done⟩ := run_bind.mp done
  obtain ⟨_, last, typed, done⟩ := run_bind.mp done
  obtain ⟨rfl, rfl⟩ := Prod.mk.inj (Except.ok.inj done)
  obtain ⟨ty, _, asked, updated⟩ := run_bind.mp typed
  obtain ⟨_, rfl⟩ := run_ask.mp asked
  exact ⟨_, ty, ran, run_update updated⟩

/-- A function is entered first, and it lists its receiver and its parameters once they are there. -/
theorem run_addRoutine {kind : RoutineKind} {parent : DeclId} {name : String}
    {params : List Param} {result : Ty} {selfType : Option Ty} {before after : Program} {id : DeclId}
    (done : addRoutine kind parent name params result selfType before = .ok (id, after)) :
    ∃ first self second ids third,
      pushMember (Decl.unplaced name
        (.function (bareRoutine kind (selfType.isSome && !(kind == .constructor))
          ((match selfType with
            | some (.inout _) => true
            | _ => false) && !(kind == .constructor))))
        (.function (params.map Param.ty) result) (some parent)) before = .ok (id, first) ∧
      selfType.mapM (fun ty => push (Decl.unplaced "self" (.variable true) ty (some id))) first =
        .ok (self, second) ∧
      params.mapM (fun param => push (Decl.unplaced param.name (.parameter param.label) param.ty
        (some id))) second = .ok (ids, third) ∧
      after = third.modify id (Decl.mapKind <| DeclKind.mapRoutine fun routine =>
        { routine with self := self, params := ids }) := by
  obtain ⟨fresh, first, entered, done⟩ := run_bind.mp done
  obtain ⟨self, second, received, done⟩ := run_bind.mp done
  obtain ⟨ids, third, declared, done⟩ := run_bind.mp done
  obtain ⟨_, last, updated, done⟩ := run_bind.mp done
  obtain ⟨rfl, rfl⟩ := Prod.mk.inj (Except.ok.inj done)
  exact ⟨first, self, second, ids, third, entered, received, declared, run_update updated⟩

/-- The step keeps a property of programs. -/
def Preserves (kept : Program → Prop) (step : Assembly A) : Prop :=
  ∀ before value after, kept before → step before = .ok (value, after) → kept after

namespace Preserves

variable {kept : Program → Prop}

theorem pure (value : A) : Preserves kept (Pure.pure value) := by
  intro before other after holds done
  obtain ⟨rfl, rfl⟩ := Prod.mk.inj (Except.ok.inj done)
  exact holds

theorem bind {step : Assembly A} {next : A → Assembly B} (first : Preserves kept step)
    (rest : ∀ value, Preserves kept (next value)) : Preserves kept (step >>= next) := by
  intro before value after holds done
  obtain ⟨middle, between, ran, done⟩ := run_bind.mp done
  exact rest middle between value after (first before middle between holds ran) done

theorem map {change : A → B} {step : Assembly A} (only : Preserves kept step) :
    Preserves kept (change <$> step) := by
  intro before value after holds done
  obtain ⟨first, ran, _⟩ := run_map.mp done
  exact only before first after holds ran

theorem ask (question : Program → Answer A) : Preserves kept (Assembly.ask question) := by
  intro before value after holds done
  obtain ⟨_, rfl⟩ := run_ask.mp done
  exact holds

theorem mapM {each : A → Assembly B} (items : List A)
    (all : ∀ item, Preserves kept (each item)) : Preserves kept (items.mapM each) := by
  induction items with
  | nil => exact pure []
  | cons item rest rest_ih =>
    rw [List.mapM_cons]
    exact bind (all item) fun _ => bind rest_ih fun _ => pure _

theorem optionMapM {each : A → Assembly B} (item : Option A)
    (all : ∀ item, Preserves kept (each item)) : Preserves kept (item.mapM each) := by
  cases item with
  | none => exact pure none
  | some item => exact map (all item)

theorem pushMember {decl : Decl} (pushed : Preserves kept (push decl))
    (told : ∀ id space, Preserves kept (update space (Decl.mapKind (DeclKind.addMember id)))) :
    Preserves kept (pushMember decl) := by
  refine bind pushed fun id => ?_
  cases decl.parent with
  | none => exact pure _
  | some space => exact bind (told id space) fun _ => pure _

/-- The type of what was just declared may be set. -/
theorem typed {make : Assembly DeclId} (made : Preserves kept make)
    (retyped : ∀ id ty, Preserves kept (update id fun decl => { decl with ty := ty })) :
    Preserves kept (do let id ← make; typeByDeclaration id; return id) :=
  bind made fun id => bind (bind (ask _) fun ty => retyped id ty) fun _ => pure _

end Preserves

section Routed

theorem preserves_push {decl : Decl} (new : decl.Routed) :
    Preserves Program.Routed (push decl) := by
  intro before id after routed done
  obtain ⟨_, rfl⟩ := run_push done
  exact routed.push new

theorem preserves_update {id : DeclId} {change : Decl → Decl}
    (keeps : ∀ decl : Decl, decl.Routed → (change decl).Routed) :
    Preserves Program.Routed (update id change) := by
  intro before value after routed done
  rw [run_update done]
  exact routed.modify fun decl _ => keeps decl

/-- A change of the kind that leaves functions alone. -/
theorem routed_mapKind {change : DeclKind → DeclKind}
    (same : ∀ kind, (change kind).routine? = kind.routine?) (decl : Decl) (routed : decl.Routed) :
    (decl.mapKind change).Routed := by
  intro routine listed
  exact routed routine ((same decl.kind).symm.trans listed)

/-- A change of a function that leaves its kind and its receiver alone. -/
theorem routed_mapRoutine {change : Routine → Routine}
    (kind : ∀ routine, (change routine).kind = routine.kind)
    (member : ∀ routine, (change routine).isMember = routine.isMember) (decl : Decl)
    (routed : decl.Routed) : (decl.mapKind (DeclKind.mapRoutine change)).Routed := by
  intro routine listed
  rw [Decl.routine?_mapRoutine] at listed
  obtain ⟨own, held, rfl⟩ := Option.map_eq_some_iff.mp listed
  obtain ⟨typed, constructs⟩ := routed own held
  refine ⟨typed, ?_⟩
  simpa only [Routine.isConstructor, kind, member] using constructs

theorem routine?_addMember (member : DeclId) (kind : DeclKind) :
    (DeclKind.addMember member kind).routine? = kind.routine? := by
  cases kind <;> rfl

/-- A new member is pushed, and the declaration space around it is told of it. -/
theorem run_pushMember {decl : Decl} {before after : Program} {id : DeclId}
    (done : pushMember decl before = .ok (id, after)) :
    id = before.nextId ∧ (decl.parent = none ∧ after = before.push decl ∨
      ∃ space, decl.parent = some space ∧
        update space (Decl.mapKind (DeclKind.addMember before.nextId)) (before.push decl) =
          .ok ((), after)) := by
  obtain ⟨fresh, between, pushed, rest⟩ := run_bind.mp done
  obtain ⟨rfl, rfl⟩ := run_push pushed
  cases outer : decl.parent with
  | none =>
    rw [outer] at rest
    obtain ⟨rfl, rfl⟩ := Prod.mk.inj (Except.ok.inj rest)
    exact ⟨rfl, Or.inl ⟨rfl, rfl⟩⟩
  | some space =>
    rw [outer] at rest
    obtain ⟨_, middle, updated, rest⟩ := run_bind.mp rest
    obtain ⟨rfl, rfl⟩ := Prod.mk.inj (Except.ok.inj rest)
    exact ⟨rfl, Or.inr ⟨space, rfl, updated⟩⟩

/-- What is entered into a declaration space is declared there, and a function only if it was one. -/
theorem find?_of_pushMember {decl : Decl} {before after : Program} {id : DeclId}
    (done : pushMember decl before = .ok (id, after)) :
    ∃ entered, after.find? id = some entered ∧ entered.parent = decl.parent ∧
      entered.routine? = decl.routine? := by
  have listed := before.find?_push_next decl
  obtain ⟨rfl, ⟨_, rfl⟩ | ⟨space, _, updated⟩⟩ := run_pushMember done
  · exact ⟨decl, listed, rfl, rfl⟩
  · rw [run_update updated, Program.find?_modify, listed]
    split
    · exact ⟨_, rfl, rfl, routine?_addMember _ _⟩
    · exact ⟨decl, rfl, rfl, rfl⟩

theorem preserves_pushMember {decl : Decl} (new : decl.Routed) :
    Preserves Program.Routed (pushMember decl) :=
  .pushMember (preserves_push new) fun id _ =>
    preserves_update (routed_mapKind (routine?_addMember id))

theorem routed_of_plain {decl : Decl} (plain : decl.routine? = none) : decl.Routed := by
  intro routine listed
  rw [plain] at listed
  cases listed

/-- The type of a declaration that is no function may be set. -/
theorem preserves_typed {make : Assembly DeclId} (made : Preserves Program.Routed make)
    (plain : ∀ before id after, make before = .ok (id, after) →
      ∃ decl, after.find? id = some decl ∧ decl.routine? = none) :
    Preserves Program.Routed (do let id ← make; typeByDeclaration id; return id) := by
  intro before id after routed done
  obtain ⟨between, ty, ran, rfl⟩ := run_typed done
  obtain ⟨decl, listed, none⟩ := plain before id between ran
  refine (made before id between routed ran).modify ?_
  intro other found _
  obtain rfl : decl = other := by simpa [listed] using found
  exact routed_of_plain none

theorem preserves_addTyped {kind : DeclKind} (plain : kind.routine? = none) (parent : DeclId)
    (name : String) : Preserves Program.Routed (addTyped kind parent name) := by
  refine preserves_typed (preserves_pushMember (routed_of_plain plain)) ?_
  intro before id after done
  obtain ⟨entered, listed, _, same⟩ := find?_of_pushMember done
  exact ⟨entered, listed, same.trans plain⟩

theorem preserves_addGenericParam (parent : DeclId) (name : String) :
    Preserves Program.Routed (addGenericParam parent name) := by
  refine preserves_typed (preserves_push (routed_of_plain rfl)) ?_
  intro before id after done
  obtain ⟨rfl, rfl⟩ := run_push done
  exact ⟨_, before.find?_push_next _, rfl⟩

theorem preserves_addVariable (parent : DeclId) (name : String) (ty : Ty) :
    Preserves Program.Routed (addVariable parent name ty) :=
  preserves_push (routed_of_plain rfl)

theorem preserves_addLocalBinding (parent : DeclId) (pattern : Pattern) (ty : Ty)
    (initializer : Option Expr) :
    Preserves Program.Routed (addLocalBinding parent pattern ty initializer) := by
  unfold addLocalBinding
  cases pattern.names with
  | nil => exact preserves_push (routed_of_plain rfl)
  | cons var rest => exact .bind (.ask _) fun _ => preserves_push (routed_of_plain rfl)

theorem preserves_addRoutine (kind : RoutineKind) (parent : DeclId) (name : String)
    (params : List Param) (result : Ty) (selfType : Option Ty) :
    Preserves Program.Routed (addRoutine kind parent name params result selfType) := by
  refine .bind (preserves_pushMember ?_) fun id => ?_
  · intro routine listed
    refine ⟨⟨_, rfl⟩, ?_⟩
    obtain rfl := Option.some.inj listed
    intro constructs
    have constructs : (kind == .constructor) = true := constructs
    simp [bareRoutine, constructs]
  · refine .bind (.optionMapM _ fun ty => preserves_push (routed_of_plain rfl)) fun self => ?_
    refine .bind (.mapM _ fun param => preserves_push (routed_of_plain rfl)) fun ids => ?_
    refine .bind (preserves_update (routed_mapRoutine ?_ ?_)) fun _ => .pure _
    · exact fun _ => rfl
    · exact fun _ => rfl

end Routed

/-- The calls of the assembly interface. -/
inductive Offered : {A : Type} → Assembly A → Prop
  | addModule (name : String) : Offered (addModule name)
  | addImport (parent : DeclId) (name : String) : Offered (addImport parent name)
  | addProduct (parent : DeclId) (name : String) : Offered (addProduct parent name)
  | addView (parent : DeclId) (name : String) : Offered (addView parent name)
  | addAbstractType (parent : DeclId) (name : String) : Offered (addAbstractType parent name)
  | addAlias (parent : DeclId) (name : String) (aliased : Ty) :
    Offered (addAlias parent name aliased)
  | addGenericParam (parent : DeclId) (name : String) : Offered (addGenericParam parent name)
  | addExtension (parent extended : DeclId) : Offered (addExtension parent extended)
  | addVariable (parent : DeclId) (name : String) (ty : Ty) : Offered (addVariable parent name ty)
  | addStoredProperty (parent : DeclId) (name : String) (ty : Ty) :
    Offered (addStoredProperty parent name ty)
  | addFunction (parent : DeclId) (name : String) (params : List Param) (result : Ty) :
    Offered (addFunction parent name params result)
  | addBuiltin (name : String) (params : List Ty) (result : Ty) :
    Offered (addBuiltin name params result)
  | addMethod (parent : DeclId) (name : String) (params : List Param) (result : Ty)
    (isMutating : Bool) : Offered (addMethod parent name params result isMutating)
  | addConstructor (parent : DeclId) (params : List Param) :
    Offered (addConstructor parent params)
  | addMemberwiseConstructor (parent : DeclId) : Offered (addMemberwiseConstructor parent)
  | setBody (id : DeclId) (body : Body) : Offered (setBody id body)
  | setEnv (id : DeclId) (env : GenericEnv) : Offered (setEnv id env)
  | addLocalBinding (parent : DeclId) (pattern : Pattern) (ty : Ty) (initializer : Option Expr) :
    Offered (addLocalBinding parent pattern ty initializer)
  | addLocalVar (parent : DeclId) (name : String) (ty : Ty) (initializer : Option Expr) :
    Offered (addLocalVar parent name ty initializer)
  | addConformance (id view : DeclId) (entries : List ConformanceEntry) :
    Offered (addConformance id view entries)

theorem Offered.preserves {step : Assembly A} (offered : Offered step) :
    Preserves Program.Routed step := by
  cases offered with
  | addModule name => exact preserves_push (routed_of_plain rfl)
  | addImport parent name => exact preserves_pushMember (routed_of_plain rfl)
  | addProduct parent name => exact preserves_addTyped rfl parent name
  | addView parent name => exact preserves_addTyped rfl parent name
  | addAbstractType parent name => exact preserves_addTyped rfl parent name
  | addAlias parent name aliased => exact preserves_pushMember (routed_of_plain rfl)
  | addGenericParam parent name => exact preserves_addGenericParam parent name
  | addExtension parent extended =>
    exact .bind (.ask _) fun _ => .bind (.ask _) fun _ => preserves_pushMember (routed_of_plain rfl)
  | addVariable parent name ty => exact preserves_addVariable parent name ty
  | addStoredProperty parent name ty =>
    exact .bind (preserves_addVariable parent name ty) fun _ =>
      .bind (.map (preserves_pushMember (routed_of_plain rfl))) fun _ => .pure _
  | addFunction parent name params result => exact preserves_addRoutine _ _ _ _ _ _
  | addBuiltin name params result =>
    refine preserves_push ?_
    intro routine listed
    obtain rfl := Option.some.inj listed
    exact ⟨⟨_, rfl⟩, fun _ => rfl⟩
  | addMethod parent name params result isMutating =>
    exact .bind (.ask _) fun _ => preserves_addRoutine _ _ _ _ _ _
  | addConstructor parent params =>
    exact .bind (.ask _) fun _ => preserves_addRoutine _ _ _ _ _ _
  | addMemberwiseConstructor parent =>
    refine .bind (.ask _) fun vars => .bind (.mapM vars fun var => ?_) fun params => ?_
    · exact .bind (.ask _) fun _ => .pure _
    · refine .bind (.bind (.ask _) fun _ => preserves_addRoutine _ _ _ _ _ _) fun id => ?_
      exact .bind (preserves_update (routed_mapRoutine (fun _ => rfl) fun _ => rfl)) fun _ => .pure _
  | setBody id body => exact preserves_update (routed_mapRoutine (fun _ => rfl) fun _ => rfl)
  | setEnv id env => exact preserves_update (routed_mapRoutine (fun _ => rfl) fun _ => rfl)
  | addLocalBinding parent pattern ty initializer =>
    exact preserves_addLocalBinding parent pattern ty initializer
  | addLocalVar parent name ty initializer =>
    exact .bind (preserves_addVariable parent name ty) fun _ =>
      .bind (preserves_addLocalBinding _ _ _ _) fun _ => .pure _
  | addConformance id view entries =>
    refine .bind (.ask _) fun decl => preserves_update (routed_mapKind ?_)
    intro kind
    cases kind <;> rfl

end Assembly

/-- The programs that the assembly calls make from nothing. -/
inductive Program.Assembled : Program → Prop
  | empty : Assembled Program.empty
  | call {A : Type} {step : Assembly A} {value : A} {before after : Program}
    (assembled : before.Assembled) (offered : Assembly.Offered step)
    (done : step before = .ok (value, after)) : after.Assembled

theorem Program.Assembled.routed {program : Program} (assembled : program.Assembled) :
    program.Routed := by
  induction assembled with
  | empty => exact routed_empty
  | call _ offered done before_ih => exact offered.preserves _ _ _ before_ih done

/-- A call that is offered leads from one assembled program to another. -/
theorem Assembly.Offered.assembles {A : Type} {step : Assembly A} (offered : Offered step) :
    Preserves Program.Assembled step :=
  fun _ _ _ assembled done => .call assembled offered done

/-- The program that an assembly makes from nothing, if it succeeds. -/
def Assembly.built {A : Type} (steps : Assembly A) : Program :=
  match steps Program.empty with
  | .ok (_, program) => program
  | .error _ => Program.empty

theorem Assembly.Preserves.built {A : Type} {steps : Assembly A}
    (assembles : Preserves Program.Assembled steps) : steps.built.Assembled := by
  unfold Assembly.built
  split
  next value program done => exact assembles _ value program .empty done
  next => exact .empty

end Lowering
