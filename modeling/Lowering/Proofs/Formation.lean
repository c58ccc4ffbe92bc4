import Lowering.Proofs.Program.Formed

/-
This file follows any sequence of assembly calls: every call leaves a well-formed program behind,
whatever was called before.
-/

namespace Lowering

namespace Assembly

variable {before after : Program} {id space : DeclId} {own : Decl}

/-- What is entered into an existing space is found as it was given, and may still be changed. -/
theorem formsBut_pushMember (formed : before.Formed) (inside : own.parent = some space)
    (there : space.index < before.size) (done : pushMember own before = .ok (id, after)) :
    id = before.nextId ∧ after.FormsBut (some id) ∧ after.find? id = some own := by
  obtain ⟨rfl, ⟨lone, _⟩ | ⟨_, outer, updated⟩⟩ := run_pushMember done
  · cases inside.symm.trans lone
  · obtain rfl := Option.some.inj (inside.symm.trans outer)
    obtain rfl := run_update updated
    exact ⟨rfl, formed.enter inside there⟩

/-- What lists nothing and has no body is finished as soon as it is declared. -/
theorem formed_push {kind : DeclKind} {name : String} {ty : Ty} {parent : Option DeclId}
    (formed : before.Formed)
    (done : push (Decl.unplaced name kind ty parent) before = .ok (id, after))
    (there : ∀ space ∈ parent, space.index < before.size) (members : kind.members = [])
    (written : ∀ routine ∈ kind.routine?, routine.isBuiltin = true)
    (extended : (Decl.unplaced name kind ty parent).extended? = none) : after.Formed := by
  obtain ⟨rfl, rfl⟩ := run_push done
  intro other decl found
  refine (formed.but none).push (fun _ => ?_) other decl found nofun
  exact .bare there (by simp [extended]) members written

/-- The same of a member of the space around it. -/
theorem formed_pushMember {kind : DeclKind} {name : String} {ty : Ty} (formed : before.Formed)
    (done : pushMember (Decl.unplaced name kind ty (some space)) before = .ok (id, after))
    (there : space.index < before.size) (members : kind.members = []) (plain : kind.routine? = none)
    (extended : ∀ extended ∈ (Decl.unplaced name kind ty (some space)).extended?,
      extended.index < before.size) : after.Formed := by
  obtain ⟨rfl, but, found⟩ := formsBut_pushMember formed rfl there done
  refine but.finish fun last listed => ?_
  obtain rfl := Option.some.inj (found.symm.trans listed)
  refine .bare ?_ extended members fun routine given => nomatch plain.symm.trans given
  rintro parent ⟨⟩
  exact there

/-- A declaration that is not finished may be given the type that it declares. -/
theorem formed_typeByDeclaration {value : Unit} (but : before.FormsBut (some id))
    (found : before.find? id = some own) (inside : ∀ space ∈ own.parent, space.index < id.index)
    (other : own.isLocal = false) (members : own.members = []) (plain : own.routine? = none)
    (extended : own.extended? = none)
    (done : typeByDeclaration id before = .ok (value, after)) : after.Formed := by
  obtain ⟨ty, between, asked, updated⟩ := run_bind.mp done
  obtain ⟨_, rfl⟩ := run_ask.mp asked
  rw [run_update updated]
  have typed (decl : Decl) (listed : between.find? id = some decl) :
      ({ decl with ty := ty } : Decl).Abides decl :=
    .retyped (Option.some.inj (found.symm.trans listed) ▸ other) ty
  refine (but.modify typed).finish fun last listed => ?_
  rw [Program.find?_modify, if_pos rfl, found] at listed
  obtain rfl := Option.some.inj listed
  refine .bare inside (fun space given => ?_) members fun routine given => ?_
  · exact nomatch extended.symm.trans given
  · exact nomatch plain.symm.trans given

theorem formed_addTyped {kind : DeclKind} {name : String} (formed : before.Formed)
    (there : space.index < before.size) (members : kind.members = []) (plain : kind.routine? = none)
    (other : (Decl.unplaced name kind .error (some space)).isLocal = false)
    (extended : (Decl.unplaced name kind .error (some space)).extended? = none)
    (done : addTyped kind space name before = .ok (id, after)) : after.Formed := by
  obtain ⟨fresh, between, entered, done⟩ := run_bind.mp done
  obtain ⟨_, last, typed, done⟩ := run_bind.mp done
  obtain ⟨_, rfl⟩ := Prod.mk.inj (Except.ok.inj done)
  obtain ⟨rfl, but, found⟩ := formsBut_pushMember formed rfl there entered
  refine formed_typeByDeclaration but found ?_ other members plain extended typed
  rintro parent ⟨⟩
  exact there

theorem formed_addGenericParam {name : String} (formed : before.Formed)
    (there : space.index < before.size) (done : addGenericParam space name before = .ok (id, after)) :
    after.Formed := by
  obtain ⟨fresh, between, pushed, done⟩ := run_bind.mp done
  obtain ⟨_, last, typed, done⟩ := run_bind.mp done
  obtain ⟨_, rfl⟩ := Prod.mk.inj (Except.ok.inj done)
  obtain ⟨rfl, rfl⟩ := run_push pushed
  have but : (before.push (Decl.unplaced name .genericParam .error (some space))).FormsBut
      (some before.nextId) :=
    (formed.but (some before.nextId)).push fun finished => (finished rfl).elim
  refine formed_typeByDeclaration but (before.find?_push_next _) ?_ rfl rfl rfl rfl typed
  rintro parent ⟨⟩
  exact there

section Routine

/-- A receiver or a parameter of a function that is not finished. -/
theorem formsBut_pushLocal {owner : DeclId} (but : before.FormsBut (some owner))
    (there : owner.index < before.size) (isLocal : own.isLocal = true)
    (inside : own.parent = some owner) (done : push own before = .ok (id, after)) :
    after.FormsBut (some owner) ∧ before.PriorTo after ∧ owner.index < after.size ∧
      after.HoldsLocal owner id own.ty := by
  obtain ⟨rfl, rfl⟩ := run_push done
  refine ⟨but.push fun _ => ?_, before.priorTo_push own, ?_,
    own, before.find?_push_next own, isLocal, inside, rfl⟩
  · obtain ⟨name, kind, ty, parent, span⟩ := own
    cases kind with
    | «variable» | parameter =>
      refine .bare ?_ nofun rfl nofun
      obtain rfl : parent = some owner := inside
      rintro parent ⟨⟩
      exact there
    | _ => cases isLocal
  · exact Nat.lt_of_lt_of_le there (by simp [Program.size, Program.push])

theorem formsBut_params (owner : DeclId) (params : List Param) {ids : List DeclId}
    (but : before.FormsBut (some owner)) (there : owner.index < before.size)
    (done : params.mapM (fun param => push (Decl.unplaced param.name (.parameter param.label)
      param.ty (some owner))) before = .ok (ids, after)) :
    after.FormsBut (some owner) ∧ before.PriorTo after ∧
      List.Forall₂ (after.HoldsLocal owner) ids (params.map Param.ty) := by
  induction params generalizing before ids with
  | nil =>
    obtain ⟨rfl, rfl⟩ := run_mapM_nil.mp done
    exact ⟨but, fun _ _ found => found, .nil⟩
  | cons param rest rest_ih =>
    obtain ⟨id, between, others, pushed, mapped, rfl⟩ := run_mapM_cons.mp done
    obtain ⟨but, first, there, held⟩ := formsBut_pushLocal but there rfl rfl pushed
    obtain ⟨but, later, holds⟩ := rest_ih but there mapped
    exact ⟨but, fun id decl found => later id decl (first id decl found),
      .cons (later.abides.holdsLocal held) holds⟩

/-- The receiver of a function, if it has one. -/
theorem formsBut_self {owner : DeclId} {selfType : Option Ty} {self : Option DeclId}
    (but : before.FormsBut (some owner)) (there : owner.index < before.size)
    (done : selfType.mapM (fun ty => push (Decl.unplaced "self" (.variable true) ty (some owner)))
      before = .ok (self, after)) :
    after.FormsBut (some owner) ∧ before.PriorTo after ∧ owner.index < after.size ∧
      self.isSome = selfType.isSome ∧
      ∀ id ∈ self, ∃ ty ∈ selfType, after.HoldsLocal owner id ty := by
  cases selfType with
  | none =>
    obtain ⟨rfl, rfl⟩ := Prod.mk.inj (Except.ok.inj done)
    exact ⟨but, fun _ _ found => found, there, rfl, nofun⟩
  | some ty =>
    obtain ⟨id, pushed, rfl⟩ := run_map.mp done
    obtain ⟨but, prior, there, held⟩ := formsBut_pushLocal but there rfl rfl pushed
    refine ⟨but, prior, there, rfl, ?_⟩
    rintro _ ⟨⟩
    exact ⟨ty, rfl, held⟩

/-- What a function says of itself agrees with what is declared for it. -/
theorem formsRoutine_bare {kind : RoutineKind} {owner : DeclId} {types : List Ty} {result : Ty}
    {selfType : Option Ty} {self : Option DeclId} {ids : List DeclId} {borrows : Bool}
    (constructs : kind = .constructor → selfType.isSome = true)
    (borrowing : borrows = true ↔ ∃ base, selfType = some (.inout base))
    (isSome : self.isSome = selfType.isSome)
    (received : ∀ id ∈ self, ∃ ty ∈ selfType, before.HoldsLocal owner id ty)
    (held : List.Forall₂ (before.HoldsLocal owner) ids types) :
    before.FormsRoutine owner (.function types result)
      { bareRoutine kind (selfType.isSome && !(kind == .constructor))
          (borrows && !(kind == .constructor)) with self := self, params := ids } where
  typed := ⟨types, result, rfl, held⟩
  received := by
    show self.isSome = (selfType.isSome && !(kind == .constructor) || kind == .constructor)
    rw [isSome]
    cases kind with
    | constructor => rw [constructs rfl]; rfl
    | regular | builtin => exact (Bool.and_true _).symm.trans (Bool.or_false _).symm
  housed := fun id listed => (received id listed).imp fun _ => And.right
  mutating := by
    show (borrows && !(kind == .constructor)) = true ↔
      (selfType.isSome && !(kind == .constructor)) = true ∧
        ∃ id ∈ self, ∃ base, before.HoldsLocal owner id (.inout base)
    rw [Bool.and_eq_true, Bool.and_eq_true, borrowing]
    constructor
    · rintro ⟨⟨base, rfl⟩, other⟩
      obtain ⟨id, listed⟩ := Option.isSome_iff_exists.mp isSome
      obtain ⟨ty, same, holds⟩ := received id listed
      obtain rfl := Option.some.inj same
      exact ⟨⟨rfl, other⟩, id, listed, base, holds⟩
    · rintro ⟨⟨_, other⟩, id, listed, base, borrowed⟩
      obtain ⟨ty, same, holds⟩ := received id listed
      obtain rfl := holds.unique borrowed
      exact ⟨⟨base, same⟩, other⟩
  synthesized := nofun

/-- A function is finished when its receiver and its parameters have been declared. -/
theorem formed_addRoutine {kind : RoutineKind} {name : String} {params : List Param} {result : Ty}
    {selfType : Option Ty} (formed : before.Formed)
    (done : addRoutine kind space name params result selfType before = .ok (id, after))
    (there : space.index < before.size)
    (constructs : kind = .constructor → selfType.isSome = true) :
    after.Formed ∧ ∃ decl routine, after.find? id = some decl ∧ decl.routine? = some routine ∧
      routine.kind = kind := by
  obtain ⟨first, self, second, ids, third, entered, received, declared, rfl⟩ := run_addRoutine done
  obtain ⟨rfl, but, found⟩ := formsBut_pushMember formed rfl there entered
  have inside : before.nextId.index < first.size := (Array.getElem?_eq_some_iff.mp found).1
  obtain ⟨but, prior_second, inside, isSome, selfs⟩ := formsBut_self but inside received
  obtain ⟨but, prior_third, held⟩ := formsBut_params _ params but inside declared
  have selfs (id : DeclId) (listed : id ∈ self) :
      ∃ ty ∈ selfType, third.HoldsLocal before.nextId id ty :=
    (selfs id listed).imp fun _ => And.imp_right prior_third.abides.holdsLocal
  have abides (decl : Decl) (_ : third.find? before.nextId = some decl) :
      (decl.mapKind (DeclKind.mapRoutine fun routine =>
        { routine with self := self, params := ids })).Abides decl := .mapRoutine _ decl
  have last := prior_third _ _ (prior_second _ _ found)
  have found_last := (third.find?_modify before.nextId before.nextId (Decl.mapKind <|
    DeclKind.mapRoutine fun routine => { routine with self := self, params := ids })).trans
      (by rw [if_pos rfl, last, Option.map_some])
  refine ⟨(but.modify abides).finish fun decl listed => ?_, _, _, found_last, rfl, rfl⟩
  obtain rfl := Option.some.inj (found_last.symm.trans listed)
  refine ⟨?_, nofun, .nil, nofun, ?_⟩
  · rintro parent ⟨⟩
    exact there
  · rintro routine ⟨⟩ _
    refine (Program.abides_modify abides).formsRoutine
      (formsRoutine_bare constructs ?_ isSome selfs held)
    cases selfType with
    | none => exact ⟨nofun, nofun⟩
    | some ty => cases ty <;> simp

theorem formed_addConstructor {params : List Param} (formed : before.Formed)
    (done : addConstructor space params before = .ok (id, after))
    (there : space.index < before.size) :
    after.Formed ∧ ∃ decl routine, after.find? id = some decl ∧ decl.routine? = some routine ∧
      routine.kind = .constructor := by
  obtain ⟨receiver, _, asked, added⟩ := run_bind.mp done
  obtain ⟨_, rfl⟩ := run_ask.mp asked
  exact formed_addRoutine formed added there fun _ => rfl

end Routine

/-- A function may be changed as long as it agrees with what is declared for it. -/
theorem formed_mapRoutine {change : Routine → Routine} {value : Unit} (formed : before.Formed)
    (done : update id (Decl.mapKind (DeclKind.mapRoutine change)) before = .ok (value, after))
    (written : ∀ routine, (change routine).isBuiltin = routine.isBuiltin)
    (keeps : ∀ decl routine, before.find? id = some decl → decl.routine? = some routine →
      before.FormsRoutine id decl.ty routine → before.FormsRoutine id decl.ty (change routine)) :
    after.Formed := by
  rw [run_update done]
  have mapped (decl : Decl) (_ : before.find? id = some decl) :
      (decl.mapKind (DeclKind.mapRoutine change)).Abides decl := .mapRoutine change decl
  have abides := Program.abides_modify mapped
  refine formed.modify mapped fun decl found forms => ?_
  have kept := abides.forms forms
  obtain ⟨name, kind, ty, parent, span⟩ := decl
  cases kind with
  | function routine =>
    refine ⟨kept.parent, kept.extended, kept.ascending, kept.members, ?_⟩
    rintro _ ⟨⟩ other
    rw [written] at other
    exact abides.formsRoutine
      (keeps ⟨name, .function routine, ty, parent, span⟩ routine found rfl
        (forms.routine routine rfl other))
  | _ => exact kept

/-- Only a constructor is marked as one that the compiler writes. -/
theorem formed_addMemberwiseConstructor (formed : before.Formed)
    (done : addMemberwiseConstructor space before = .ok (id, after))
    (there : space.index < before.size) : after.Formed := by
  have reads (start : Program) (vars : List DeclId) :
      Preserves (fun program => program = start) (vars.mapM fun var => do
        let decl ← ask (·.decl var)
        return Param.mk (some decl.name) decl.name decl.ty) :=
    .mapM vars fun var => .bind (.ask _) fun _ => .pure _
  obtain ⟨vars, _, asked, following⟩ := run_bind.mp done
  obtain ⟨_, rfl⟩ := run_ask.mp asked
  obtain ⟨params, between, read, construction⟩ := run_bind.mp following
  obtain rfl := reads _ vars _ params between rfl read
  obtain ⟨_, middle, made, ending⟩ := run_bind.mp construction
  obtain ⟨_, last, changed, ended⟩ := run_bind.mp ending
  obtain ⟨rfl, rfl⟩ := Prod.mk.inj (Except.ok.inj ended)
  obtain ⟨formed, decl, routine, found, listed, constructs⟩ :=
    formed_addConstructor formed made there
  refine formed_mapRoutine formed changed (fun _ => rfl) fun other own held owns forms => ?_
  refine ⟨forms.typed, forms.received, forms.housed, forms.mutating, fun _ => ?_⟩
  obtain rfl := Option.some.inj (found.symm.trans held)
  obtain rfl := Option.some.inj (listed.symm.trans owns)
  simp [Routine.isConstructor, constructs]

theorem formed_addConformance {view : DeclId} {entries : List ConformanceEntry} {value : Unit}
    (formed : before.Formed) (done : addConformance id view entries before = .ok (value, after)) :
    after.Formed := by
  obtain ⟨decl, between, asked, updated⟩ := run_bind.mp done
  obtain ⟨_, rfl⟩ := run_ask.mp asked
  rw [run_update updated]
  have mapped (own : Decl) (_ : between.find? id = some own) :
      (own.mapKind (DeclKind.addConformance ⟨view, entries, decl.span⟩)).Abides own :=
    .addConformance _ own
  refine formed.modify mapped fun own found forms => ?_
  have kept := (Program.abides_modify mapped).forms forms
  obtain ⟨name, kind, ty, parent, span⟩ := own
  cases kind <;> exact ⟨kept.parent, kept.extended, kept.ascending, kept.members, kept.routine⟩

theorem formed_addLocalBinding {pattern : Pattern} {ty : Ty} {initializer : Option Expr}
    (formed : before.Formed) (there : space.index < before.size)
    (done : addLocalBinding space pattern ty initializer before = .ok (id, after)) :
    after.Formed := by
  have inside : ∀ parent ∈ some space, parent.index < before.size := by
    rintro parent ⟨⟩
    exact there
  unfold addLocalBinding at done
  cases names : pattern.names with
  | nil =>
    rw [names] at done
    exact formed_push formed done inside rfl nofun rfl
  | cons var rest =>
    rw [names] at done
    obtain ⟨decl, _, asked, pushed⟩ := run_bind.mp done
    obtain ⟨_, rfl⟩ := run_ask.mp asked
    exact formed_push formed pushed inside rfl nofun rfl

/-- The calls of the assembly interface, as data. -/
inductive Call where
  | addModule (name : String)
  | addImport (space : DeclId) (name : String)
  | addProduct (space : DeclId) (name : String)
  | addView (space : DeclId) (name : String)
  | addAbstractType (space : DeclId) (name : String)
  | addAlias (space : DeclId) (name : String) (aliased : Ty)
  | addGenericParam (space : DeclId) (name : String)
  | addExtension (space extended : DeclId)
  | addVariable (space : DeclId) (name : String) (ty : Ty)
  | addStoredProperty (space : DeclId) (name : String) (ty : Ty)
  | addFunction (space : DeclId) (name : String) (params : List Param) (result : Ty)
  | addBuiltin (name : String) (params : List Ty) (result : Ty)
  | addMethod (space : DeclId) (name : String) (params : List Param) (result : Ty)
      (isMutating : Bool)
  | addConstructor (space : DeclId) (params : List Param)
  | addMemberwiseConstructor (space : DeclId)
  | setBody (id : DeclId) (body : Body)
  | setEnv (id : DeclId) (env : GenericEnv)
  | addLocalBinding (space : DeclId) (pattern : Pattern) (ty : Ty) (initializer : Option Expr)
  | addLocalVar (space : DeclId) (name : String) (ty : Ty) (initializer : Option Expr)
  | addConformance (id view : DeclId) (entries : List ConformanceEntry)

namespace Call

def step : Call → Assembly Unit
  | .addModule name => discard (Assembly.addModule name)
  | .addImport space name => discard (Assembly.addImport space name)
  | .addProduct space name => discard (Assembly.addProduct space name)
  | .addView space name => discard (Assembly.addView space name)
  | .addAbstractType space name => discard (Assembly.addAbstractType space name)
  | .addAlias space name aliased => discard (Assembly.addAlias space name aliased)
  | .addGenericParam space name => discard (Assembly.addGenericParam space name)
  | .addExtension space extended => discard (Assembly.addExtension space extended)
  | .addVariable space name ty => discard (Assembly.addVariable space name ty)
  | .addStoredProperty space name ty => discard (Assembly.addStoredProperty space name ty)
  | .addFunction space name params result =>
    discard (Assembly.addFunction space name params result)
  | .addBuiltin name params result => discard (Assembly.addBuiltin name params result)
  | .addMethod space name params result isMutating =>
    discard (Assembly.addMethod space name params result isMutating)
  | .addConstructor space params => discard (Assembly.addConstructor space params)
  | .addMemberwiseConstructor space => discard (Assembly.addMemberwiseConstructor space)
  | .setBody id body => Assembly.setBody id body
  | .setEnv id env => Assembly.setEnv id env
  | .addLocalBinding space pattern ty initializer =>
    discard (Assembly.addLocalBinding space pattern ty initializer)
  | .addLocalVar space name ty initializer =>
    discard (Assembly.addLocalVar space name ty initializer)
  | .addConformance id view entries => Assembly.addConformance id view entries

/--
The declaration space in which a call declares something. Whatever else a call names is looked up
by the call itself, or only recorded.
-/
def space? : Call → Option DeclId
  | .addModule _ | .addBuiltin .. | .setBody .. | .setEnv .. | .addConformance .. => none
  | .addImport space _ | .addProduct space _ | .addView space _ | .addAbstractType space _
  | .addAlias space _ _ | .addGenericParam space _ | .addExtension space _ | .addVariable space _ _
  | .addStoredProperty space _ _ | .addFunction space _ _ _ | .addMethod space _ _ _ _
  | .addConstructor space _ | .addMemberwiseConstructor space | .addLocalBinding space _ _ _
  | .addLocalVar space _ _ _ => some space

/-- A call leaves a well-formed program behind. -/
theorem step_formed (call : Call) {value : Unit} (formed : before.Formed)
    (there : ∀ space ∈ call.space?, space.index < before.size)
    (done : call.step before = .ok (value, after)) : after.Formed := by
  cases call with
  | addModule name =>
    obtain ⟨id, pushed, _⟩ := run_map.mp done
    exact formed_push formed pushed (by rintro _ ⟨⟩) rfl (by rintro _ ⟨⟩) rfl
  | addImport space name | addAlias space name aliased =>
    obtain ⟨id, entered, _⟩ := run_map.mp done
    exact formed_pushMember formed entered (there space rfl) rfl rfl (by rintro _ ⟨⟩)
  | addProduct space name | addView space name | addAbstractType space name =>
    obtain ⟨id, typed, _⟩ := run_map.mp done
    exact formed_addTyped formed (there space rfl) rfl rfl rfl rfl typed
  | addGenericParam space name =>
    obtain ⟨id, typed, _⟩ := run_map.mp done
    exact formed_addGenericParam formed (there space rfl) typed
  | addExtension space extended =>
    obtain ⟨id, added, _⟩ := run_map.mp done
    obtain ⟨decl, _, asked, rest⟩ := run_bind.mp added
    obtain ⟨found, rfl⟩ := run_ask.mp asked
    obtain ⟨ty, _, typed, entered⟩ := run_bind.mp rest
    obtain ⟨_, rfl⟩ := run_ask.mp typed
    refine formed_pushMember formed entered (there space rfl) rfl rfl ?_
    rintro _ ⟨⟩
    exact (Array.getElem?_eq_some_iff.mp (Program.decl_eq_ok.mp found)).1
  | addVariable space name ty =>
    obtain ⟨id, pushed, _⟩ := run_map.mp done
    exact formed_push formed pushed there rfl (by rintro _ ⟨⟩) rfl
  | addStoredProperty space name ty =>
    obtain ⟨id, done, _⟩ := run_map.mp done
    obtain ⟨var, between, pushed, done⟩ := run_bind.mp done
    obtain ⟨_, _, entered, done⟩ := run_bind.mp done
    obtain ⟨_, rfl⟩ := Prod.mk.inj (Except.ok.inj done)
    obtain ⟨binding, entered, _⟩ := run_map.mp entered
    have formed := formed_push formed pushed there rfl (by rintro _ ⟨⟩) rfl
    obtain ⟨rfl, rfl⟩ := run_push pushed
    refine formed_pushMember formed entered ?_ rfl rfl (by rintro _ ⟨⟩)
    exact Nat.lt_of_lt_of_le (there space rfl) (by simp [Program.size, Program.push])
  | addFunction space name params result =>
    obtain ⟨id, added, _⟩ := run_map.mp done
    exact (formed_addRoutine formed added (there space rfl) (by rintro ⟨⟩)).1
  | addBuiltin name params result =>
    obtain ⟨id, pushed, _⟩ := run_map.mp done
    refine formed_push formed pushed (by rintro _ ⟨⟩) rfl (fun routine given => ?_) rfl
    exact Option.some.inj given ▸ rfl
  | addMethod space name params result isMutating =>
    obtain ⟨id, declared, _⟩ := run_map.mp done
    obtain ⟨receiver, _, asked, added⟩ := run_bind.mp declared
    obtain ⟨_, rfl⟩ := run_ask.mp asked
    exact (formed_addRoutine formed added (there space rfl) (by rintro ⟨⟩)).1
  | addConstructor space params =>
    obtain ⟨id, added, _⟩ := run_map.mp done
    exact (formed_addConstructor formed added (there space rfl)).1
  | addMemberwiseConstructor space =>
    obtain ⟨id, added, _⟩ := run_map.mp done
    exact formed_addMemberwiseConstructor formed added (there space rfl)
  | setBody id body | setEnv id env =>
    refine formed_mapRoutine formed done (fun _ => rfl) fun decl routine _ _ forms => ?_
    exact ⟨forms.typed, forms.received, forms.housed, forms.mutating, forms.synthesized⟩
  | addLocalBinding space pattern ty initializer =>
    obtain ⟨id, pushed, _⟩ := run_map.mp done
    exact formed_addLocalBinding formed (there space rfl) pushed
  | addLocalVar space name ty initializer =>
    obtain ⟨id, done, _⟩ := run_map.mp done
    obtain ⟨var, between, pushed, done⟩ := run_bind.mp done
    obtain ⟨binding, _, bound, done⟩ := run_bind.mp done
    obtain ⟨_, rfl⟩ := Prod.mk.inj (Except.ok.inj done)
    have formed := formed_push formed pushed there rfl (by rintro _ ⟨⟩) rfl
    obtain ⟨rfl, rfl⟩ := run_push pushed
    refine formed_addLocalBinding formed ?_ bound
    exact Nat.lt_of_lt_of_le (there space rfl) (by simp [Program.size, Program.push])
  | addConformance id view entries => exact formed_addConformance formed done

/-- Each of the calls is one that is offered. -/
theorem step_assembles (call : Call) : Preserves Program.Assembled call.step := by
  cases call with
  | addModule => exact .map (Offered.addModule _).assembles
  | addImport => exact .map (Offered.addImport _ _).assembles
  | addProduct => exact .map (Offered.addProduct _ _).assembles
  | addView => exact .map (Offered.addView _ _).assembles
  | addAbstractType => exact .map (Offered.addAbstractType _ _).assembles
  | addAlias => exact .map (Offered.addAlias _ _ _).assembles
  | addGenericParam => exact .map (Offered.addGenericParam _ _).assembles
  | addExtension => exact .map (Offered.addExtension _ _).assembles
  | addVariable => exact .map (Offered.addVariable _ _ _).assembles
  | addStoredProperty => exact .map (Offered.addStoredProperty _ _ _).assembles
  | addFunction => exact .map (Offered.addFunction _ _ _ _).assembles
  | addBuiltin => exact .map (Offered.addBuiltin _ _ _).assembles
  | addMethod => exact .map (Offered.addMethod _ _ _ _ _).assembles
  | addConstructor => exact .map (Offered.addConstructor _ _).assembles
  | addMemberwiseConstructor => exact .map (Offered.addMemberwiseConstructor _).assembles
  | setBody => exact (Offered.setBody _ _).assembles
  | setEnv => exact (Offered.setEnv _ _).assembles
  | addLocalBinding => exact .map (Offered.addLocalBinding _ _ _ _).assembles
  | addLocalVar => exact .map (Offered.addLocalVar _ _ _ _).assembles
  | addConformance => exact (Offered.addConformance _ _ _).assembles

/-- This makes the calls one after another, each of them in a space that exists by then. -/
def makeAll : List Call → Program → Option Program
  | [], program => some program
  | call :: rest, program =>
    if ∀ space ∈ call.space?, space.index < program.size then
      match call.step program with
      | .ok (_, after) => makeAll rest after
      | .error _ => none
    else none

theorem makeAll_formed (calls : List Call) (formed : before.Formed)
    (made : makeAll calls before = some after) : after.Formed := by
  induction calls generalizing before with
  | nil => exact Option.some.inj made ▸ formed
  | cons call rest rest_ih =>
    rw [makeAll] at made
    split at made
    next there =>
      split at made
      next value between done => exact rest_ih (call.step_formed formed there done) made
      next => cases made
    next => cases made

theorem makeAll_assembled (calls : List Call) (assembled : before.Assembled)
    (made : makeAll calls before = some after) : after.Assembled := by
  induction calls generalizing before with
  | nil => exact Option.some.inj made ▸ assembled
  | cons call rest rest_ih =>
    rw [makeAll] at made
    split at made
    next =>
      split at made
      next value between done => exact rest_ih (call.step_assembles _ _ _ assembled done) made
      next => cases made
    next => cases made

/-- The program that calls make, starting from nothing. -/
def made (calls : List Call) : Program := (makeAll calls Program.empty).getD Program.empty

theorem makeAll_eq_made {calls : List Call}
    (makes : (makeAll calls Program.empty).isSome = true) :
    makeAll calls Program.empty = some (made calls) :=
  (Option.getD_of_ne_none (Option.isSome_iff_ne_none.mp makes) Program.empty).symm

end Call

end Assembly

namespace Program

variable {program : Program}

/-- A declaration is a member of one space at most. -/
theorem Formed.eq_of_mem_members (formed : program.Formed) {id other member : DeclId}
    {decl own : Decl} (found : program.find? id = some decl)
    (found_other : program.find? other = some own) (listed : member ∈ decl.members)
    (listed_other : member ∈ own.members) : id = other := by
  obtain ⟨held, there, inside⟩ := (formed id decl found).members member listed
  obtain ⟨again, there_again, inside_other⟩ := (formed other own found_other).members member listed_other
  obtain rfl := Option.some.inj (there.symm.trans there_again)
  exact Option.some.inj (inside.symm.trans inside_other)

/-- The unapplied type takes the receiver of a member and then the parameters. -/
theorem Formed.unappliedType (formed : program.Formed) {id : DeclId} {decl : Decl}
    {routine : Routine} (found : program.find? id = some decl)
    (listed : decl.routine? = some routine) (written : routine.isBuiltin = false) :
    ∃ funType, program.unappliedType id = .ok funType ∧
      funType.params.length = routine.params.length + if routine.isMember then 1 else 0 := by
  have forms := (formed id decl found).routine routine listed written
  obtain ⟨types, result, typed, held⟩ := forms.typed
  have applied : appliedType decl = ⟨types, result⟩ := by rw [appliedType, typed]; rfl
  have count : types.length = routine.params.length := held.length_eq.symm
  have answered := decl_eq_ok.mpr found
  cases member : routine.isMember with
  | false =>
    refine ⟨⟨types, result⟩, ?_, count⟩
    simp [Program.unappliedType, answered, listed, member, applied, bind, Except.bind, pure, Except.pure]
  | true =>
    have isSome : routine.self.isSome = true := by rw [forms.received, member]; rfl
    obtain ⟨self, given⟩ := Option.isSome_iff_exists.mp isSome
    obtain ⟨ty, own, there, _⟩ := forms.housed self given
    refine ⟨⟨own.ty :: types, result⟩, ?_, congrArg (· + 1) count⟩
    simp [Program.unappliedType, receiverType, answered, listed, member, applied, given,
      decl_eq_ok.mpr there, bind, Except.bind, pure, Except.pure]

end Program

/--
Whatever calls are made, every declaration of the program stands behind the space around it and
behind what it extends; a space lists what is declared in it, in the order of declaration, and
nothing is listed twice; and a function is declared together with its receiver and its parameters,
as its type says.
-/
theorem Assembly.calls_formed (calls : List Call) (program : Program)
    (made : Call.makeAll calls Program.empty = some program) :
    program.Formed ∧
      (∀ id other decl own member, program.find? id = some decl → program.find? other = some own →
        member ∈ decl.members → member ∈ own.members → id = other) ∧
      ∀ id decl routine, program.find? id = some decl → decl.routine? = some routine →
        routine.isBuiltin = false → ∃ funType, program.unappliedType id = .ok funType ∧
          funType.params.length = routine.params.length + if routine.isMember then 1 else 0 := by
  have formed := Call.makeAll_formed calls Program.formed_empty made
  refine ⟨formed, ?_, ?_⟩
  · intro id other decl own member found found_other listed listed_other
    exact formed.eq_of_mem_members found found_other listed listed_other
  · intro id decl routine found listed written
    exact formed.unappliedType found listed written

/--
A product with a stored member and the constructor for it, an extension with a mutating method, a
function with a local and a nested function, a view that the product conforms to, and an alias of a
borrowed type, the method of which borrows its receiver without being declared mutating.
-/
def extendingCalls : List Assembly.Call := [
  .addModule "main", .addProduct ⟨0⟩ "Point", .addStoredProperty ⟨1⟩ "x" .int,
  .addMemberwiseConstructor ⟨1⟩, .addExtension ⟨0⟩ ⟨1⟩,
  .addMethod ⟨7⟩ "move" [⟨none, "by", .int⟩] .unit true, .addFunction ⟨0⟩ "main" [] .unit,
  .addLocalVar ⟨11⟩ "p" (.product ⟨⟨1⟩, "Point"⟩) none, .setBody ⟨11⟩ ⟨[.decl ⟨13⟩], Span.unknown⟩,
  .addFunction ⟨11⟩ "inner" [] .unit, .addView ⟨0⟩ "V", .addMethod ⟨15⟩ "get" [] .int false,
  .addConformance ⟨1⟩ ⟨15⟩ [⟨⟨16⟩, ⟨8⟩⟩], .addAlias ⟨0⟩ "Slot" (.inout .int),
  .addMethod ⟨18⟩ "touch" [] .unit false]

theorem Assembly.calls_formed_extending : ∃ program,
    Call.makeAll extendingCalls Program.empty = some program ∧ program.size = 21 ∧
    program.Formed ∧
      (∀ id other decl own member, program.find? id = some decl → program.find? other = some own →
        member ∈ decl.members → member ∈ own.members → id = other) ∧
      ∀ id decl routine, program.find? id = some decl → decl.routine? = some routine →
        routine.isBuiltin = false → ∃ funType, program.unappliedType id = .ok funType ∧
          funType.params.length = routine.params.length + if routine.isMember then 1 else 0 := by
  have counted : (Call.makeAll extendingCalls Program.empty).map Program.size = some 21 := by
    decide +kernel
  obtain ⟨program, made, size⟩ := Option.map_eq_some_iff.mp counted
  exact ⟨program, made, size, calls_formed extendingCalls program made⟩

end Lowering
