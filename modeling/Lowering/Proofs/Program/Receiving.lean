import Lowering.Proofs.Program.Formed

/-
This file shows that every constructor of an assembled program makes its own receiver: a variable
inside it, no parameter, that borrows what the constructor returns.
-/

namespace Lowering

namespace Program

/-- The receiver of a constructor is a local of its own, and it borrows what is constructed. -/
structure MakesReceiver (program : Program) (id : DeclId) (ty : Ty) (routine : Routine)
    (receiver : DeclId) (result : Ty) : Prop where
  given : routine.self = some receiver
  apart : receiver ∉ routine.params
  returns : ∃ types, ty = .function types result
  borrows : program.HoldsLocal id receiver (.inout result)

/-- Every constructor makes a receiver. -/
def Receiving (program : Program) : Prop :=
  ∀ id decl routine, program.find? id = some decl → decl.routine? = some routine →
    routine.isConstructor = true →
      ∃ receiver result, program.MakesReceiver id decl.ty routine receiver result

theorem receiving_empty : empty.Receiving := by
  intro id decl routine found
  simp [find?, empty] at found

variable {start before between after : Program} {id : DeclId}

theorem Abides.refl (program : Program) : program.Abides program :=
  fun _ decl found => ⟨decl, found, .refl decl⟩

/-- A declaration that was not there before may be changed in any way. -/
theorem Abides.modify_new (abides : before.Abides between) (new : before.find? id = none)
    (change : Decl → Decl) : before.Abides (between.modify id change) := by
  intro other decl found
  obtain ⟨later, still, same⟩ := abides other decl found
  refine ⟨later, ?_, same⟩
  rw [find?_modify, if_neg, still]
  rintro rfl
  exact nomatch new.symm.trans found

theorem Abides.new (abides : start.Abides before) (new : before.find? id = none) :
    start.find? id = none := by
  cases found : start.find? id with
  | none => rfl
  | some decl =>
    obtain ⟨later, still, _⟩ := abides id decl found
    exact nomatch new.symm.trans still

/-- A constructor that was there makes the same receiver as long as it is there. -/
theorem Receiving.carried (receiving : before.Receiving) (keeps : before.Keeps after)
    (abides : before.Abides after) {decl later : Decl} {routine : Routine}
    (was : before.find? id = some decl) (found : after.find? id = some later)
    (listed : later.routine? = some routine) (constructs : routine.isConstructor = true) :
    ∃ receiver result, after.MakesReceiver id later.ty routine receiver result := by
  obtain ⟨again, found_again, resembles⟩ := keeps id decl was
  obtain rfl := Option.some.inj (found.symm.trans found_again)
  obtain ⟨own, owned, kind, params, self, _⟩ := resembles.routine routine listed
  obtain ⟨receiver, result, makes⟩ := receiving id decl own was owned
    (by simpa only [Routine.isConstructor, kind] using constructs)
  exact ⟨receiver, result, self.trans makes.given, params ▸ makes.apart,
    resembles.ty ▸ makes.returns, abides.holdsLocal makes.borrows⟩

end Program

namespace Assembly

variable {start : Program}

theorem abides_push (decl : Decl) : Preserves (start.Abides ·) (push decl) := by
  intro before id after abides done
  obtain ⟨_, rfl⟩ := run_push done
  exact abides.trans (before.priorTo_push decl).abides

theorem abides_update {id : DeclId} {change : Decl → Decl}
    (changes : ∀ decl, (change decl).Abides decl) :
    Preserves (start.Abides ·) (update id change) := by
  intro before value after abides done
  rw [run_update done]
  exact abides.trans (Program.abides_modify fun decl _ => changes decl)

theorem abides_pushMember (decl : Decl) : Preserves (start.Abides ·) (pushMember decl) :=
  .pushMember (abides_push decl) fun id _ => abides_update (.addMember id)

/-- The type of what was just declared may be set. -/
theorem abides_typed {make : Assembly DeclId} (made : Preserves (start.Abides ·) make)
    (fresh : ∀ before id after, make before = .ok (id, after) → before.find? id = none) :
    Preserves (start.Abides ·) (do let id ← make; typeByDeclaration id; return id) := by
  intro before id after abides done
  obtain ⟨between, ty, ran, rfl⟩ := run_typed done
  exact (made before id between abides ran).modify_new (abides.new (fresh before id between ran)) _

theorem abides_addRoutine (kind : RoutineKind) (parent : DeclId) (name : String)
    (params : List Param) (result : Ty) (selfType : Option Ty) :
    Preserves (start.Abides ·) (addRoutine kind parent name params result selfType) := by
  refine .bind (abides_pushMember _) fun id => ?_
  refine .bind (.optionMapM _ fun ty => abides_push _) fun self => ?_
  refine .bind (.mapM _ fun param => abides_push _) fun ids => ?_
  exact .bind (abides_update (.mapRoutine _)) fun _ => .pure _

theorem abides_addLocalBinding (parent : DeclId) (pattern : Pattern) (ty : Ty)
    (initializer : Option Expr) :
    Preserves (start.Abides ·) (addLocalBinding parent pattern ty initializer) := by
  unfold addLocalBinding
  cases pattern.names with
  | nil => exact abides_push _
  | cons var rest => exact .bind (.ask _) fun _ => abides_push _

/-- Whatever is called, the locals that are there keep their types and their places. -/
theorem Offered.abides {A : Type} {step : Assembly A} (offered : Offered step) :
    Preserves (start.Abides ·) step := by
  cases offered with
  | addModule | addVariable | addBuiltin => exact abides_push _
  | addImport | addAlias => exact abides_pushMember _
  | addProduct | addView | addAbstractType =>
    exact abides_typed (abides_pushMember _) fun _ _ _ done => (keeps_pushMember done).1
  | addGenericParam => exact abides_typed (abides_push _) fun _ _ _ done => fresh_push done
  | addExtension => exact .bind (.ask _) fun _ => .bind (.ask _) fun _ => abides_pushMember _
  | addStoredProperty =>
    exact .bind (abides_push _) fun _ => .bind (.map (abides_pushMember _)) fun _ => .pure _
  | addFunction => exact abides_addRoutine _ _ _ _ _ _
  | addMethod | addConstructor => exact .bind (.ask _) fun _ => abides_addRoutine _ _ _ _ _ _
  | addMemberwiseConstructor parent =>
    refine .bind (.ask _) fun vars => .bind (.mapM vars fun var => ?_) fun params => ?_
    · exact .bind (.ask _) fun _ => .pure _
    · refine .bind (.bind (.ask _) fun _ => abides_addRoutine _ _ _ _ _ _) fun id => ?_
      exact .bind (abides_update (.mapRoutine _)) fun _ => .pure _
  | setBody | setEnv => exact abides_update (.mapRoutine _)
  | addLocalBinding => exact abides_addLocalBinding _ _ _ _
  | addLocalVar =>
    exact .bind (abides_push _) fun _ => .bind (abides_addLocalBinding _ _ _ _) fun _ => .pure _
  | addConformance => exact .bind (.ask _) fun _ => abides_update (.addConformance _)

/-- A call that declares no function leaves the constructors with their receivers. -/
theorem Extending.receives {A : Type} {step : Assembly A} (extending : Extending step)
    (abides : ∀ start : Program, Preserves (start.Abides ·) step) :
    Preserves Program.Receiving step := by
  intro before value after receiving done id later routine found listed constructs
  have extended := extending before value after done
  have abides := abides before before value after (.refl _) done
  obtain ⟨decl, was⟩ := extended.old id later routine found listed
  exact receiving.carried extended.keeps abides was found listed constructs

/-- What is declared for the parameters of a function is new. -/
theorem params_new (owner : DeclId) (params : List Param) {before after : Program}
    {ids : List DeclId}
    (done : params.mapM (fun param => push (Decl.unplaced param.name (.parameter param.label)
      param.ty (some owner))) before = .ok (ids, after)) :
    ∀ id ∈ ids, before.find? id = none := by
  induction params generalizing before ids with
  | nil =>
    obtain ⟨rfl, rfl⟩ := run_mapM_nil.mp done
    exact nofun
  | cons param rest rest_ih =>
    obtain ⟨id, between, others, pushed, mapped, rfl⟩ := run_mapM_cons.mp done
    rintro _ (_ | ⟨_, inside⟩)
    · exact fresh_push pushed
    · have abides := abides_push _ _ _ _ (.refl _) pushed
      exact abides.new (rest_ih mapped _ inside)

/-- A constructor is declared with the receiver that borrows what it returns. -/
theorem receives_addRoutine (kind : RoutineKind) (parent : DeclId) (name : String)
    (params : List Param) (result : Ty) (selfType : Option Ty)
    (borrows : kind = .constructor → selfType = some (.inout result)) :
    Preserves Program.Receiving (addRoutine kind parent name params result selfType) := by
  intro before id after receiving done other later routine found_other listed constructs
  by_cases same : other = id
  · subst same
    obtain ⟨first, self, second, ids, third, entered, received, declared, rfl⟩ :=
      run_addRoutine done
    obtain ⟨_, _, _, decl, found, resembles⟩ := keeps_pushMember entered
    obtain ⟨middle, still, again⟩ := (extends_declared received declared).keeps other decl found
    rw [Program.find?_modify, if_pos rfl, still] at found_other
    obtain rfl := Option.some.inj found_other
    rw [Decl.routine?_mapRoutine] at listed
    obtain ⟨own, owns, rfl⟩ := Option.map_eq_some_iff.mp listed
    obtain ⟨bare, is_bare, same, _⟩ := (again.trans resembles).routine own owns
    obtain rfl := Option.some.inj is_bare
    obtain rfl : kind = .constructor := by
      simpa [Routine.isConstructor, same, bareRoutine] using constructs
    obtain rfl := borrows rfl
    obtain ⟨receiver, pushed, rfl⟩ := run_map.mp received
    obtain ⟨rfl, rfl⟩ := run_push pushed
    have declares := first.find?_push_next (Decl.unplaced "self" (.variable true) (.inout result)
      (some other))
    refine ⟨first.nextId, result, rfl, fun inside => ?_,
      ⟨params.map Param.ty, (again.trans resembles).ty⟩, ?_⟩
    · have clash := (params_new other params declared _ inside).symm.trans declares
      cases clash
    · have held : (first.push _).HoldsLocal other first.nextId (.inout result) :=
        ⟨_, declares, rfl, rfl, rfl⟩
      have params_abide := Preserves.mapM params (fun param => abides_push _) _ _ _
        (.refl _) declared
      exact (params_abide.trans (Program.abides_modify fun decl _ => .mapRoutine _ decl)).holdsLocal
        held
  · obtain ⟨keeps, others⟩ := keeps_addRoutine done
    obtain ⟨old, was⟩ := others other later routine same found_other listed
    exact receiving.carried keeps
      (abides_addRoutine kind parent name params result selfType before _ after (.refl _) done)
      was found_other listed constructs

/-- A function of the runtime is no constructor. -/
theorem receives_addBuiltin (name : String) (params : List Ty) (result : Ty) :
    Preserves Program.Receiving (addBuiltin name params result) := by
  intro before id after receiving done
  have abides := abides_push _ _ _ _ (.refl _) done
  obtain ⟨_, rfl⟩ := run_push done
  intro other later routine found listed constructs
  have was := found
  rw [Program.find?_push] at was
  split at was
  · obtain rfl := Option.some.inj was
    obtain rfl := Option.some.inj listed
    cases constructs
  · exact receiving.carried (before.keeps_push _) abides was found listed constructs

theorem receives_addConstructor (parent : DeclId) (params : List Param) :
    Preserves Program.Receiving (addConstructor parent params) :=
  .bind ((Extending.ask _).receives fun _ => .ask _) fun _ =>
    receives_addRoutine _ _ _ _ _ _ fun _ => rfl

theorem Offered.receives {A : Type} {step : Assembly A} (offered : Offered step) :
    Preserves Program.Receiving step := by
  have plainly (extending : Extending step) : Preserves Program.Receiving step :=
    extending.receives fun _ => offered.abides
  cases offered with
  | addModule => exact plainly (.push rfl)
  | addImport => exact plainly (.pushMember rfl)
  | addProduct => exact plainly (extending_addTyped rfl _ _)
  | addView => exact plainly (extending_addTyped rfl _ _)
  | addAbstractType => exact plainly (extending_addTyped rfl _ _)
  | addAlias => exact plainly (.pushMember rfl)
  | addGenericParam => exact plainly (.typed (.push rfl) fun _ _ _ done => fresh_push done)
  | addExtension => exact plainly (.bind (.ask _) fun _ => .bind (.ask _) fun _ => .pushMember rfl)
  | addVariable => exact plainly (extending_addVariable _ _ _)
  | addStoredProperty =>
    exact plainly (.bind (extending_addVariable _ _ _) fun _ =>
      .bind (.map (.pushMember rfl)) fun _ => .pure _)
  | addFunction => exact receives_addRoutine _ _ _ _ _ _ nofun
  | addBuiltin => exact receives_addBuiltin _ _ _
  | addMethod =>
    exact .bind ((Extending.ask _).receives fun _ => .ask _) fun _ =>
      receives_addRoutine _ _ _ _ _ _ nofun
  | addConstructor => exact receives_addConstructor _ _
  | addMemberwiseConstructor parent =>
    refine .bind (.ask _) fun vars => .bind (.mapM vars fun var => ?_) fun params => ?_
    · exact .bind (.ask _) fun _ => .pure _
    · refine .bind (receives_addConstructor parent params) fun id => .bind ?_ fun _ => .pure _
      refine (Extending.update (.mapRoutine ?_)).receives fun _ => abides_update (.mapRoutine _)
      exact fun _ => ⟨rfl, rfl, rfl, rfl⟩
  | setBody => exact plainly (.update (.mapRoutine fun _ => ⟨rfl, rfl, rfl, rfl⟩))
  | setEnv => exact plainly (.update (.mapRoutine fun _ => ⟨rfl, rfl, rfl, rfl⟩))
  | addLocalBinding => exact plainly (extending_addLocalBinding _ _ _ _)
  | addLocalVar =>
    exact plainly (.bind (extending_addVariable _ _ _) fun _ =>
      .bind (extending_addLocalBinding _ _ _ _) fun _ => .pure _)
  | addConformance =>
    exact plainly (.bind (.ask _) fun _ => .update (.mapKind fun kind => by cases kind <;> rfl))

end Assembly

theorem Program.Assembled.receiving {program : Program} (assembled : program.Assembled) :
    program.Receiving := by
  induction assembled with
  | empty => exact receiving_empty
  | call _ offered done before_ih => exact offered.receives _ _ _ before_ih done

end Lowering
