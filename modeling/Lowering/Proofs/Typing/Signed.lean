import Lowering.Proofs.Program.Assembled
import Lowering.Proofs.Typing.Types

/-
This file shows that the functions of an assembled program declare their receivers and parameters as
their types say. A call that adds no function keeps the types of all declarations, and one that adds
a function declares its parameters along with it.
-/

namespace Lowering

/-- A declaration that has been changed has the type that it had, and no other parameters. -/
structure Decl.Resembles (later old : Decl) : Prop where
  ty : later.ty = old.ty
  routine : ∀ routine, later.routine? = some routine → ∃ own, old.routine? = some own ∧
    routine.kind = own.kind ∧ routine.params = own.params ∧ routine.self = own.self ∧
      routine.isMember = own.isMember

namespace Decl.Resembles

variable {decl middle later : Decl}

theorem refl (decl : Decl) : decl.Resembles decl :=
  ⟨rfl, fun routine listed => ⟨routine, listed, rfl, rfl, rfl, rfl⟩⟩

theorem trans (second : later.Resembles middle) (first : middle.Resembles decl) :
    later.Resembles decl := by
  refine ⟨second.ty.trans first.ty, fun routine listed => ?_⟩
  obtain ⟨between, listed, kind, params, self, member⟩ := second.routine routine listed
  obtain ⟨own, listed, kind', params', self', member'⟩ := first.routine between listed
  exact ⟨own, listed, kind.trans kind', params.trans params', self.trans self',
    member.trans member'⟩

theorem mapKind {change : DeclKind → DeclKind}
    (same : ∀ kind, (change kind).routine? = kind.routine?) (decl : Decl) :
    (decl.mapKind change).Resembles decl := by
  refine ⟨rfl, fun routine listed => ⟨routine, ?_, rfl, rfl, rfl, rfl⟩⟩
  exact (same decl.kind).symm.trans listed

/-- A change of a function that leaves its kind, its receiver and its parameters alone. -/
theorem mapRoutine {change : Routine → Routine}
    (same : ∀ routine, (change routine).kind = routine.kind ∧
      (change routine).params = routine.params ∧ (change routine).self = routine.self ∧
        (change routine).isMember = routine.isMember) (decl : Decl) :
    (decl.mapKind (DeclKind.mapRoutine change)).Resembles decl := by
  refine ⟨rfl, fun routine listed => ?_⟩
  rw [Decl.routine?_mapRoutine] at listed
  obtain ⟨own, held, rfl⟩ := Option.map_eq_some_iff.mp listed
  exact ⟨own, held, same own⟩

end Decl.Resembles

namespace Program

variable {before between after : Program}

/-- Every declaration is still there. -/
def Keeps (before after : Program) : Prop :=
  ∀ id decl, before.find? id = some decl →
    ∃ later, after.find? id = some later ∧ later.Resembles decl

/-- Every declaration is still there, and none of the new ones is a function. -/
structure Extends (before after : Program) : Prop where
  keeps : before.Keeps after
  old : ∀ id later routine, after.find? id = some later → later.routine? = some routine →
    ∃ decl, before.find? id = some decl

theorem Keeps.refl (program : Program) : program.Keeps program :=
  fun _ decl found => ⟨decl, found, .refl decl⟩

theorem Keeps.trans (first : before.Keeps between) (second : between.Keeps after) :
    before.Keeps after := by
  intro id decl found
  obtain ⟨middle, found, resembles⟩ := first id decl found
  obtain ⟨later, found, again⟩ := second id middle found
  exact ⟨later, found, again.trans resembles⟩

theorem Extends.refl (program : Program) : program.Extends program :=
  ⟨.refl program, fun _ later _ found _ => ⟨later, found⟩⟩

theorem Extends.trans (first : before.Extends between) (second : between.Extends after) :
    before.Extends after := by
  refine ⟨first.keeps.trans second.keeps, fun id later routine found listed => ?_⟩
  obtain ⟨middle, found_middle⟩ := second.old id later routine found listed
  obtain ⟨again, found_again, resembles⟩ := second.keeps id middle found_middle
  obtain rfl := Option.some.inj (found.symm.trans found_again)
  obtain ⟨own, listed, _⟩ := resembles.routine routine listed
  exact first.old id middle own found_middle listed

theorem Keeps.declares (keeps : before.Keeps after) {id : DeclId} {ty : Ty}
    (declares : before.Declares id ty) : after.Declares id ty := by
  obtain ⟨decl, found, rfl⟩ := declares
  obtain ⟨later, found, resembles⟩ := keeps id decl found
  exact ⟨later, found, resembles.ty⟩

/-- What a function declared is declared by it as long as it is there. -/
theorem Keeps.signed (keeps : before.Keeps after) (signed : before.Signed) {id : DeclId}
    {decl later : Decl} {routine : Routine} (was : before.find? id = some decl)
    (found : after.find? id = some later) (listed : later.routine? = some routine) :
    after.SignsRoutine later.ty routine := by
  obtain ⟨again, found_again, resembles⟩ := keeps id decl was
  obtain rfl := Option.some.inj (found.symm.trans found_again)
  obtain ⟨own, owned, kind, params, self, member⟩ := resembles.routine routine listed
  obtain ⟨types, result, typed, declared, received⟩ := signed id decl own was owned
  refine ⟨types, result, resembles.ty.trans typed, ?_, ?_⟩
  · intro regular
    rw [params]
    refine (declared ?_).imp fun _ _ => keeps.declares
    simpa only [Routine.isBuiltin, kind] using regular
  · rw [self, member]
    exact received

theorem Signed.of_extends (signed : before.Signed) (extended : before.Extends after) :
    after.Signed := by
  intro id later routine found listed
  obtain ⟨decl, was⟩ := extended.old id later routine found listed
  exact extended.keeps.signed signed was found listed

theorem find?_push (program : Program) (decl : Decl) (id : DeclId) :
    (program.push decl).find? id =
      if id = program.nextId then some decl else program.find? id := by
  show (program.decls.push decl)[id.index]? = _
  rw [Array.getElem?_push]
  by_cases last : id = program.nextId
  · subst last
    simp [nextId, size]
  · have apart : id.index ≠ program.decls.size := by
      intro index
      cases id
      exact last (congrArg DeclId.mk index)
    rw [if_neg apart, if_neg last, find?]

theorem find?_nextId (program : Program) : program.find? program.nextId = none := by
  simp [find?, nextId, size]

theorem keeps_push (program : Program) (decl : Decl) : program.Keeps (program.push decl) := by
  intro id old found
  refine ⟨old, ?_, .refl old⟩
  rw [find?_push, if_neg, found]
  rintro rfl
  rw [find?_nextId] at found
  cases found

theorem extends_push (program : Program) {decl : Decl} (plain : decl.routine? = none) :
    program.Extends (program.push decl) := by
  refine ⟨program.keeps_push decl, fun id later routine found listed => ?_⟩
  rw [find?_push] at found
  split at found
  · obtain rfl := Option.some.inj found
    rw [plain] at listed
    cases listed
  · exact ⟨later, found⟩

theorem keeps_modify (program : Program) {id : DeclId} {change : Decl → Decl}
    (resembles : ∀ decl, program.find? id = some decl → (change decl).Resembles decl) :
    program.Keeps (program.modify id change) := by
  intro other decl found
  by_cases same : other = id
  · subst same
    exact ⟨change decl, by rw [find?_modify, if_pos rfl, found]; rfl, resembles decl found⟩
  · exact ⟨decl, by rw [find?_modify, if_neg same, found], .refl decl⟩

theorem extends_modify (program : Program) (id : DeclId) {change : Decl → Decl}
    (resembles : ∀ decl, (change decl).Resembles decl) :
    program.Extends (program.modify id change) := by
  refine ⟨program.keeps_modify fun decl _ => resembles decl, fun other later _ found _ => ?_⟩
  rw [find?_modify] at found
  split at found
  · obtain ⟨decl, found, _⟩ := Option.map_eq_some_iff.mp found
    exact ⟨decl, found⟩
  · exact ⟨later, found⟩

/-- A declaration that was not there before may be changed in any way. -/
theorem Keeps.modify_new (keeps : before.Keeps between) {id : DeclId}
    (new : before.find? id = none) (change : Decl → Decl) :
    before.Keeps (between.modify id change) := by
  intro other decl found
  obtain ⟨later, still, resembles⟩ := keeps other decl found
  refine ⟨later, ?_, resembles⟩
  rw [find?_modify, if_neg, still]
  rintro rfl
  rw [new] at found
  cases found

/-- A change of what a declaration holds leaves its type. -/
theorem Declares.mapKind {program : Program} {declared : DeclId} {ty : Ty}
    (declares : program.Declares declared ty) (id : DeclId) (change : DeclKind → DeclKind) :
    (program.modify id (Decl.mapKind change)).Declares declared ty := by
  obtain ⟨decl, found, rfl⟩ := declares
  by_cases here : declared = id
  · exact ⟨decl.mapKind change, by rw [find?_modify, if_pos here, found]; rfl, rfl⟩
  · exact ⟨decl, by rw [find?_modify, if_neg here, found], rfl⟩

end Program

namespace Assembly

variable {A B : Type}

/-- The step keeps every declaration and adds no function. -/
def Extending (step : Assembly A) : Prop :=
  ∀ before value after, step before = .ok (value, after) → before.Extends after

namespace Extending

theorem pure (value : A) : Extending (Pure.pure value) := by
  intro before other after done
  obtain ⟨rfl, rfl⟩ := Prod.mk.inj (Except.ok.inj done)
  exact .refl before

theorem bind {step : Assembly A} {next : A → Assembly B} (first : Extending step)
    (rest : ∀ value, Extending (next value)) : Extending (step >>= next) := by
  intro before value after done
  obtain ⟨middle, between, ran, done⟩ := run_bind.mp done
  exact (first before middle between ran).trans (rest middle between value after done)

theorem map {change : A → B} {step : Assembly A} (only : Extending step) :
    Extending (change <$> step) := by
  intro before value after done
  obtain ⟨first, ran, _⟩ := run_map.mp done
  exact only before first after ran

theorem ask (question : Program → Answer A) : Extending (Assembly.ask question) := by
  intro before value after done
  obtain ⟨_, rfl⟩ := run_ask.mp done
  exact .refl _

theorem mapM {each : A → Assembly B} (items : List A) (all : ∀ item, Extending (each item)) :
    Extending (items.mapM each) := by
  induction items with
  | nil => exact pure []
  | cons item rest rest_ih =>
    rw [List.mapM_cons]
    exact bind (all item) fun _ => bind rest_ih fun _ => pure _

theorem push {decl : Decl} (plain : decl.routine? = none) : Extending (Assembly.push decl) := by
  intro before id after done
  obtain ⟨_, rfl⟩ := run_push done
  exact before.extends_push plain

theorem update {id : DeclId} {change : Decl → Decl}
    (resembles : ∀ decl, (change decl).Resembles decl) : Extending (Assembly.update id change) := by
  intro before value after done
  rw [run_update done]
  exact before.extends_modify id resembles

theorem pushMember {decl : Decl} (plain : decl.routine? = none) :
    Extending (Assembly.pushMember decl) := by
  refine (push plain).bind fun id => ?_
  cases decl.parent with
  | none => exact .pure _
  | some parent => exact .bind (update (.mapKind (routine?_addMember id))) fun _ => .pure _

/-- The type of what was just declared may be set. -/
theorem typed {make : Assembly DeclId} (made : Extending make)
    (fresh : ∀ before id after, make before = .ok (id, after) → before.find? id = none) :
    Extending (do let id ← make; typeByDeclaration id; return id) := by
  intro before id after done
  obtain ⟨between, ty, ran, rfl⟩ := run_typed done
  have extended := made before id between ran
  refine ⟨extended.keeps.modify_new (fresh before id between ran) _, ?_⟩
  intro other later routine found listed
  rw [Program.find?_modify] at found
  split at found
  · obtain ⟨decl, was, rfl⟩ := Option.map_eq_some_iff.mp found
    exact extended.old other decl routine was listed
  · exact extended.old other later routine found listed

end Extending

theorem fresh_push {decl : Decl} {before after : Program} {id : DeclId}
    (done : push decl before = .ok (id, after)) : before.find? id = none := by
  obtain ⟨rfl, _⟩ := run_push done
  exact before.find?_nextId

/-- A member is new, and everything else is kept. -/
theorem keeps_pushMember {decl : Decl} {before after : Program} {id : DeclId}
    (done : pushMember decl before = .ok (id, after)) :
    before.find? id = none ∧ before.Keeps after ∧ (∀ other later routine, other ≠ id →
      after.find? other = some later → later.routine? = some routine →
        ∃ old, before.find? other = some old) ∧
      ∃ entered, after.find? id = some entered ∧ entered.Resembles decl := by
  have new := before.find?_nextId
  obtain ⟨rfl, extended⟩ : before.nextId = id ∧ (before.push decl).Extends after := by
    obtain ⟨rfl, ⟨_, rfl⟩ | ⟨space, _, updated⟩⟩ := run_pushMember done
    · exact ⟨rfl, .refl _⟩
    · exact ⟨rfl, Extending.update (.mapKind (routine?_addMember before.nextId)) _ _ _ updated⟩
  refine ⟨new, (before.keeps_push decl).trans extended.keeps, ?_,
    extended.keeps _ decl (before.find?_push_next decl)⟩
  intro other later routine apart found given
  obtain ⟨old, was⟩ := extended.old other later routine found given
  rw [Program.find?_push, if_neg apart] at was
  exact ⟨old, was⟩

/-- Parameters are declared one after another, each with its type. -/
theorem declares_params (owner : DeclId) (params : List Param) {before after : Program}
    {ids : List DeclId}
    (done : params.mapM (fun param => push (Decl.unplaced param.name (.parameter param.label)
      param.ty (some owner))) before = .ok (ids, after)) :
    List.Forall₂ after.Declares ids (params.map Param.ty) := by
  induction params generalizing before ids with
  | nil =>
    obtain ⟨rfl, rfl⟩ := run_mapM_nil.mp done
    exact .nil
  | cons param rest rest_ih =>
    obtain ⟨id, between, others, pushed, mapped, rfl⟩ := run_mapM_cons.mp done
    refine .cons ?_ (rest_ih mapped)
    obtain ⟨rfl, rfl⟩ := run_push pushed
    refine (Extending.mapM rest (fun param => .push rfl) _ _ _ mapped).keeps.declares ?_
    exact ⟨_, before.find?_push_next _, rfl⟩

/-- A new function is signed when its receiver and its parameters have been declared. -/
theorem signsRoutine_new {program : Program} {kind : RoutineKind} {isMember isMutating : Bool}
    {name : String} {types : List Ty} {result : Ty} {parent : Option DeclId} {decl : Decl}
    (resembles : decl.Resembles (Decl.unplaced name
      (.function (bareRoutine kind isMember isMutating)) (.function types result) parent))
    {self : Option DeclId} (received : isMember = true → self.isSome = true) {ids : List DeclId}
    (declared : List.Forall₂ program.Declares ids types) {routine : Routine}
    (listed : (decl.mapKind (DeclKind.mapRoutine fun routine =>
      { routine with self := self, params := ids })).routine? = some routine) :
    program.SignsRoutine decl.ty routine := by
  rw [Decl.routine?_mapRoutine] at listed
  obtain ⟨own, owns, rfl⟩ := Option.map_eq_some_iff.mp listed
  obtain ⟨bare, is_bare, _, _, _, member⟩ := resembles.routine own owns
  obtain rfl := Option.some.inj is_bare
  exact ⟨types, result, resembles.ty, fun _ => declared, fun receives =>
    received (member.symm.trans receives)⟩

/-- Once a function is entered, only its receiver and its parameters are declared. -/
theorem extends_declared {owner : DeclId} {selfType : Option Ty} {self : Option DeclId}
    {params : List Param} {ids : List DeclId} {first second third : Program}
    (received : selfType.mapM (fun ty => push (Decl.unplaced "self" (.variable true) ty
      (some owner))) first = .ok (self, second))
    (declared : params.mapM (fun param => push (Decl.unplaced param.name (.parameter param.label)
      param.ty (some owner))) second = .ok (ids, third)) : first.Extends third := by
  have extends_self : first.Extends second := by
    cases selfType with
    | none =>
      obtain ⟨_, rfl⟩ := Prod.mk.inj (Except.ok.inj received)
      exact .refl _
    | some ty => exact Extending.map (.push rfl) _ _ _ received
  exact extends_self.trans (Extending.mapM params (fun _ => .push rfl) _ _ _ declared)

/-- A function is new, and everything else is kept. -/
theorem keeps_addRoutine {kind : RoutineKind} {parent : DeclId} {name : String}
    {params : List Param} {result : Ty} {selfType : Option Ty} {before after : Program} {id : DeclId}
    (done : addRoutine kind parent name params result selfType before = .ok (id, after)) :
    before.Keeps after ∧ ∀ other later routine, other ≠ id → after.find? other = some later →
      later.routine? = some routine → ∃ old, before.find? other = some old := by
  obtain ⟨first, self, second, ids, third, entered, received, declared, rfl⟩ := run_addRoutine done
  obtain ⟨new, keeps, others, -⟩ := keeps_pushMember entered
  have extended := extends_declared received declared
  refine ⟨(keeps.trans extended.keeps).modify_new new _, ?_⟩
  intro other later routine apart found listed
  rw [Program.find?_modify, if_neg apart] at found
  obtain ⟨middle, was_first⟩ := extended.old other later routine found listed
  obtain ⟨again, found_again, resembles⟩ := extended.keeps other middle was_first
  obtain rfl := Option.some.inj (found.symm.trans found_again)
  obtain ⟨own, listed_own, _⟩ := resembles.routine routine listed
  exact others other middle own apart was_first listed_own

/-- The functions that were there are signed as before. -/
theorem signs_addRoutine (kind : RoutineKind) (parent : DeclId) (name : String)
    (params : List Param) (result : Ty) (selfType : Option Ty) :
    Preserves Program.Signed (addRoutine kind parent name params result selfType) := by
  intro before id after signed done other later routine found_other listed
  by_cases same : other = id
  · subst same
    obtain ⟨first, self, second, ids, third, entered, received, declared, rfl⟩ :=
      run_addRoutine done
    obtain ⟨_, _, _, decl, found, resembles⟩ := keeps_pushMember entered
    obtain ⟨middle, still, again⟩ := (extends_declared received declared).keeps other decl found
    rw [Program.find?_modify, if_pos rfl, still] at found_other
    obtain rfl := Option.some.inj found_other
    refine signsRoutine_new (again.trans resembles) ?_
      ((declares_params other params declared).imp fun _ _ declares => declares.mapKind other _)
      listed
    cases selfType with
    | none => exact fun receives => nomatch receives
    | some ty =>
      obtain ⟨_, _, rfl⟩ := run_map.mp received
      exact fun _ => rfl
  · obtain ⟨keeps, others⟩ := keeps_addRoutine done
    obtain ⟨old, was⟩ := others other later routine same found_other listed
    exact keeps.signed signed was found_other listed

theorem Extending.signs {step : Assembly A} (extending : Extending step) :
    Preserves Program.Signed step :=
  fun before value after signed done => signed.of_extends (extending before value after done)

theorem extending_addTyped {kind : DeclKind} (plain : kind.routine? = none) (parent : DeclId)
    (name : String) : Extending (addTyped kind parent name) :=
  .typed (.pushMember plain) fun _ _ _ done => (keeps_pushMember done).1

theorem extending_addVariable (parent : DeclId) (name : String) (ty : Ty) :
    Extending (addVariable parent name ty) :=
  .push rfl

theorem extending_addLocalBinding (parent : DeclId) (pattern : Pattern) (ty : Ty)
    (initializer : Option Expr) : Extending (addLocalBinding parent pattern ty initializer) := by
  unfold addLocalBinding
  cases pattern.names with
  | nil => exact .push rfl
  | cons var rest => exact .bind (.ask _) fun _ => .push rfl

theorem signs_addBuiltin (name : String) (params : List Ty) (result : Ty) :
    Preserves Program.Signed (addBuiltin name params result) := by
  intro before id after signed done
  obtain ⟨_, rfl⟩ := run_push done
  intro other later routine found listed
  by_cases last : other = before.nextId
  · rw [Program.find?_push, if_pos last] at found
    obtain rfl := Option.some.inj found
    obtain rfl := Option.some.inj listed
    refine ⟨params, result, rfl, ?_, ?_⟩
    · intro regular
      cases regular
    · intro member
      cases member
  · have was := found
    rw [Program.find?_push, if_neg last] at was
    exact (before.keeps_push _).signed signed was found listed

/-- A constructor that takes the stored members is signed like any other. -/
theorem signs_addConstructor (parent : DeclId) (params : List Param) :
    Preserves Program.Signed (addConstructor parent params) :=
  .bind (Extending.ask _).signs fun _ => signs_addRoutine _ _ _ _ _ _

theorem Offered.signs {step : Assembly A} (offered : Offered step) :
    Preserves Program.Signed step := by
  cases offered with
  | addModule name => exact (Extending.push rfl).signs
  | addImport parent name => exact (Extending.pushMember rfl).signs
  | addProduct parent name => exact (extending_addTyped rfl parent name).signs
  | addView parent name => exact (extending_addTyped rfl parent name).signs
  | addAbstractType parent name => exact (extending_addTyped rfl parent name).signs
  | addAlias parent name aliased => exact (Extending.pushMember rfl).signs
  | addGenericParam parent name =>
    exact (Extending.typed (.push rfl) fun _ _ _ done => fresh_push done).signs
  | addExtension parent extended =>
    exact (Extending.bind (.ask _) fun _ => .bind (.ask _) fun _ => .pushMember rfl).signs
  | addVariable parent name ty => exact (extending_addVariable parent name ty).signs
  | addStoredProperty parent name ty =>
    exact (Extending.bind (extending_addVariable parent name ty) fun _ =>
      .bind (.map (.pushMember rfl)) fun _ => .pure _).signs
  | addFunction parent name params result => exact signs_addRoutine _ _ _ _ _ _
  | addBuiltin name params result => exact signs_addBuiltin name params result
  | addMethod parent name params result isMutating =>
    exact .bind (Extending.ask _).signs fun _ => signs_addRoutine _ _ _ _ _ _
  | addConstructor parent params => exact signs_addConstructor parent params
  | addMemberwiseConstructor parent =>
    refine .bind (Extending.ask _).signs fun vars => .bind (Extending.mapM vars fun var =>
      .bind (.ask _) fun _ => .pure _).signs fun params => ?_
    refine .bind (signs_addConstructor parent params) fun id =>
      .bind (Extending.update (.mapRoutine ?_)).signs fun _ => .pure _
    exact fun _ => ⟨rfl, rfl, rfl, rfl⟩
  | setBody id body =>
    refine (Extending.update (.mapRoutine ?_)).signs
    exact fun _ => ⟨rfl, rfl, rfl, rfl⟩
  | setEnv id env =>
    refine (Extending.update (.mapRoutine ?_)).signs
    exact fun _ => ⟨rfl, rfl, rfl, rfl⟩
  | addLocalBinding parent pattern ty initializer =>
    exact (extending_addLocalBinding parent pattern ty initializer).signs
  | addLocalVar parent name ty initializer =>
    exact (Extending.bind (extending_addVariable parent name ty) fun _ =>
      .bind (extending_addLocalBinding _ _ _ _) fun _ => .pure _).signs
  | addConformance id view entries =>
    refine (Extending.bind (.ask _) fun decl => .update (.mapKind fun kind => ?_)).signs
    cases kind <;> rfl

end Assembly

theorem Program.Assembled.signed {program : Program} (assembled : program.Assembled) :
    program.Signed := by
  induction assembled with
  | empty =>
    intro id decl routine found
    simp [Program.find?, Program.empty] at found
  | call _ offered done before_ih => exact offered.signs _ _ _ before_ih done

end Lowering
