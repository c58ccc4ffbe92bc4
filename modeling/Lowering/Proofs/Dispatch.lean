import Lowering.Proofs.Pass.Expression
import Lowering.Proofs.Pass.Locating
import Lowering.Proofs.Program.Assembled

/-
This file says when a member of an existential base is refused: as a value, as a location and as a
method that is called. What counts is the type of the base as it was checked, and that is the type
that the function sees unless a generic parameter is replaced by something of known layout.
-/

namespace Lowering

open IR

namespace GenericEnv

/-- What is kept in a container is kept in a container when generic parameters are replaced. -/
def KeepsContainer (env : GenericEnv) (ty : Ty) : Prop :=
  ∀ nominal replacement, ty = .genericParam nominal →
    env.substitution? nominal.decl = some replacement → replacement.isExistential = true

end GenericEnv

namespace Ty

variable {env : GenericEnv} {ty : Ty}

/-- Only a generic parameter becomes something with another layout. -/
theorem isExistential_contextualized (keeps : env.KeepsContainer ty) :
    (ty.contextualized env).isExistential = ty.isExistential := by
  cases ty with
  | genericParam nominal =>
    rw [contextualized]
    cases given : env.substitution? nominal.decl with
    | none => rfl
    | some replacement => exact keeps nominal replacement rfl given
  | _ => simp [contextualized, isExistential]

end Ty

namespace Frame

variable {frame : Frame} {before after : Activation} {id : DeclId} {decl : Decl} {base : Expr}

/-- A location is only refused for dispatch where some base is existential. -/
theorem Locates.isExistential {expr : Expr} {name : String} {ty : Ty}
    (located : frame.Locates before expr (.error (.existentialDispatch name ty)) after) :
    ty.isExistential = true := by
  generalize refused : Except.error (Unlowerable.existentialDispatch name ty) = result at located
  induction located with
  | flawed | bound | member => cases refused
  | addressOf _ _ operand_ih => exact operand_ih refused
  | placeless _ _ _ _ _ base_ih => exact base_ih refused
  | dispatched _ _ _ existential =>
    cases refused
    exact existential
  | missing =>
    have failure := Except.error.inj refused
    split at failure <;> cases failure
  | object | computed | other => cases refused

/-- A stored member is no location when its base is existential. -/
theorem run_location_member_dispatch (found : frame.program.decl id = .ok decl)
    (stored : decl.kind.isStored = true) (note : Note) :
    (frame.location (.member note base id)).run before =
        .ok (.error (.existentialDispatch decl.name base.ty)) after ↔
      (note.ty.isError = false ∧ base.ty.isExistential = true) ∧ after = before := by
  rw [run_location]
  constructor
  · intro located
    generalize refused : Except.error (Unlowerable.existentialDispatch decl.name base.ty) = result
      at located
    cases located with
    | dispatched checked _ _ existential => exact ⟨⟨checked, existential⟩, rfl⟩
    | placeless _ _ _ concrete inner =>
      -- What is refused further inside has another type.
      obtain rfl := Except.error.inj refused
      cases concrete.symm.trans inner.isExistential
    | flawed | member | computed | other => cases refused
  · rintro ⟨⟨checked, existential⟩, rfl⟩
    exact .dispatched checked found stored existential

/-- A member of a record that is there is read. -/
theorem run_readMember_failure {value : BodyM Value} {name : String} {ty : Ty}
    {failure : Unlowerable} :
    (frame.readMember base value id name ty).run before ≠ .ok (.error failure) after := by
  intro done
  obtain ⟨record, between, _, done⟩ := (attempt_lift_bind _ _ _ _ _).mp done
  obtain ⟨seen, _, done⟩ := (attempt_check_bind _ _ _ _ _).mp done
  obtain ⟨address, middle, _, done⟩ := (attempt_lift_bind _ _ _ _ _).mp done
  obtain ⟨_, _, impossible⟩ := (lift_attempt_build _ _ _ _).mp done
  cases impossible

/-- A stored member has no value that can be read when its base is existential. -/
theorem run_memberWith_dispatch (found : frame.program.decl id = .ok decl)
    (stored : decl.kind.isStored = true) (value : BodyM Value) :
    (frame.memberWith base value id).run before =
        .ok (.error (.existentialDispatch decl.name base.ty)) after ↔
      base.ty.isExistential = true ∧ after = before := by
  constructor
  · intro done
    obtain ⟨own, found_again, done⟩ := (attempt_check_bind _ _ _ _ _).mp done
    obtain rfl := Except.ok.inj (found.symm.trans ((lift_answer _ _).mp found_again))
    dsimp only at done
    split at done
    next routine kind =>
      rw [kind] at stored
      cases stored
    next =>
      simp only [stored, Bool.not_true, Bool.false_eq_true, if_false] at done
      split at done
      next existential =>
        obtain ⟨_, rfl⟩ := run_fail_bind done
        exact ⟨existential, rfl⟩
      next => exact (run_readMember_failure done).elim
  · rintro ⟨existential, rfl⟩
    refine (attempt_check_bind _ _ _ _ _).mpr ⟨decl, (lift_answer _ _).mpr found, ?_⟩
    dsimp only
    split
    next routine kind =>
      rw [kind] at stored
      cases stored
    next =>
      simp only [stored, existential, Bool.not_true, Bool.false_eq_true, if_false, if_true]
      rfl

/-- With a receiver at hand, a call fails for nothing that is reported. -/
theorem run_callWith_failure {params : List Ty} {argCheck : List Ty → CheckM Unit}
    {argValues : List Ty → BodyM (List Value)} {result : OperandType} {receiver : List Value}
    {failure : Unlowerable} :
    (frame.callWith id params argCheck argValues result receiver).run before ≠
      .ok (.error failure) after := by
  intro done
  obtain ⟨_, _, done⟩ := (attempt_check_bind _ _ _ _ _).mp done
  obtain ⟨args, _, _, done⟩ := (attempt_lift_bind _ _ _ _ _).mp done
  obtain ⟨function, _, _, done⟩ := (attempt_lift_bind _ _ _ _ _).mp done
  obtain ⟨_, _, impossible⟩ := (lift_attempt_build _ _ _ _).mp done
  cases impossible

/-- A method of an existential base is not called. -/
theorem run_methodWith_dispatch {routine : Routine} (found : frame.program.decl id = .ok decl)
    (value : BodyM Value) (argCheck : List Ty → CheckM Unit)
    (argValues : List Ty → BodyM (List Value)) (result : OperandType) :
    (frame.methodWith base value id routine argCheck argValues result).run before =
        .ok (.error (.existentialDispatch decl.name base.ty)) after ↔
      base.ty.isExistential = true ∧ after = before := by
  constructor
  · intro done
    obtain ⟨own, found_again, done⟩ := (attempt_check_bind _ _ _ _ _).mp done
    obtain rfl := Except.ok.inj (found.symm.trans ((lift_answer _ _).mp found_again))
    dsimp only at done
    split at done
    next existential =>
      obtain ⟨_, rfl⟩ := run_fail_bind done
      exact ⟨existential, rfl⟩
    next =>
      obtain ⟨ty, _, done⟩ := (attempt_check_bind _ _ _ _ _).mp done
      cases signed : ty.asFunction? with
      | none =>
        rw [signed] at done
        obtain ⟨impossible, _⟩ := (attempt_throw _ _ _ _).mp done
        cases impossible
      | some funType =>
        rw [signed] at done
        dsimp only at done
        split at done
        · exact (run_callWith_failure done).elim
        split at done
        · obtain ⟨receiver, _, _, done⟩ := (attempt_lift_bind _ _ _ _ _).mp done
          exact (run_callWith_failure done).elim
        · obtain ⟨receiver, _, _, done⟩ := (attempt_lift_bind _ _ _ _ _).mp done
          exact (run_callWith_failure done).elim
  · rintro ⟨existential, rfl⟩
    refine (attempt_check_bind _ _ _ _ _).mpr ⟨decl, (lift_answer _ _).mpr found, ?_⟩
    simp only [existential, if_true]
    rfl

/-- What a call of a method is refused for is found out before anything is lowered. -/
theorem run_call_dispatch {routine method : Routine} (owned : frame.routine = .ok routine)
    (found : frame.program.decl id = .ok decl) (listed : decl.routine? = some method)
    (note calleeNote : Note) (args : List Expr) :
    (frame.value (.call note (.member calleeNote base id) args)).run before =
        .ok (.error (.existentialDispatch decl.name base.ty)) after ↔
      base.ty.isExistential = true ∧ after = before := by
  have seen : frame.contextualize note.ty = .ok (note.ty.contextualized routine.env) :=
    (check_bind _ _ _).mpr ⟨routine, owned, rfl⟩
  have named : frame.method? id = .ok (some method) :=
    (lift_answer _ _).mpr ((check_bind _ _ _).mpr ⟨decl, found, congrArg Except.ok listed⟩)
  rw [value, attempt_check_bind]
  constructor
  · rintro ⟨_, _, done⟩
    obtain ⟨_, again, done⟩ := (attempt_check_bind _ _ _ _ _).mp done
    obtain rfl := Except.ok.inj (named.symm.trans again)
    exact (run_methodWith_dispatch found _ _ _ _).mp done
  · intro refused
    refine ⟨_, seen, (attempt_check_bind _ _ _ _ _).mpr ⟨_, named, ?_⟩⟩
    exact (run_methodWith_dispatch found _ _ _ _).mpr refused

/--
A stored member and a method of a base are refused exactly when the function sees the base in a
container, at once and with nothing emitted: read as a value, taken as a location, and called. What is
of error type is not lowered to a location in the first place. The base is not of a generic type that
the function knows to be something of known layout.
-/
theorem dispatch_refused_iff {routine : Routine} (owned : frame.routine = .ok routine)
    (keeps : routine.env.KeepsContainer base.ty) (found : frame.program.decl id = .ok decl)
    (before after : Activation) :
    (decl.kind.isStored = true → ∀ note,
      ((frame.value (.member note base id)).run before =
          .ok (.error (.existentialDispatch decl.name base.ty)) after ↔
        (base.ty.contextualized routine.env).isExistential = true ∧ after = before) ∧
      ((frame.location (.member note base id)).run before =
          .ok (.error (.existentialDispatch decl.name base.ty)) after ↔
        (note.ty.isError = false ∧ (base.ty.contextualized routine.env).isExistential = true) ∧
          after = before)) ∧
    ∀ method, decl.routine? = some method → ∀ note calleeNote args,
      ((frame.value (.call note (.member calleeNote base id) args)).run before =
          .ok (.error (.existentialDispatch decl.name base.ty)) after ↔
        (base.ty.contextualized routine.env).isExistential = true ∧ after = before) := by
  rw [Ty.isExistential_contextualized keeps]
  refine ⟨fun stored note => ⟨?_, run_location_member_dispatch found stored note⟩, ?_⟩
  · rw [value]
    exact run_memberWith_dispatch found stored _
  · intro method listed note calleeNote args
    exact run_call_dispatch owned found listed note calleeNote args

end Frame

open Assembly in
/-- A function reads a member of a value of a generic type, and calls a method of it. -/
def dispatching (substitutions : List (DeclId × Ty)) : Assembly Unit := do
  let main ← addModule "main"
  let point ← addProduct main "Point"
  let x ← addStoredProperty point "x" .int
  let get ← addMethod point "get" [] .int false
  let read ← addFunction main "read" [] .int
  let param ← addGenericParam read "T"
  setEnv read ⟨[param], substitutions⟩
  let ty ← ask (·.declaredType param)
  let (binding, p) ← addLocalVar read "p" ty none
  let base ← ask (·.refExpr p Span.unknown)
  let method ← ask (·.memberExpr base get Span.unknown)
  let member ← ask (·.memberExpr base x Span.unknown)
  setBody read ⟨[.decl binding, .expr (.ofCall method [] Span.unknown),
    .returned (some member) Span.unknown], Span.unknown⟩

open Assembly in
theorem dispatching_assembled (substitutions : List (DeclId × Ty)) :
    (dispatching substitutions).built.Assembled := by
  refine Preserves.built ?_
  refine .bind (Offered.addModule _).assembles fun main => ?_
  refine .bind (Offered.addProduct _ _).assembles fun point => ?_
  refine .bind (Offered.addStoredProperty _ _ _).assembles fun x => ?_
  refine .bind (Offered.addMethod _ _ _ _ _).assembles fun get => ?_
  refine .bind (Offered.addFunction _ _ _ _).assembles fun read => ?_
  refine .bind (Offered.addGenericParam _ _).assembles fun param => ?_
  refine .bind (Offered.setEnv _ _).assembles fun _ => ?_
  refine .bind (.ask _) fun ty => ?_
  refine .bind (Offered.addLocalVar _ _ _ _).assembles fun binding => ?_
  refine .bind (.ask _) fun base => ?_
  refine .bind (.ask _) fun method => ?_
  refine .bind (.ask _) fun member => ?_
  exact (Offered.setBody _ _).assembles

/-- The function that reads a member and calls a method. -/
def readingFrame (substitutions : List (DeclId × Ty)) : Frame :=
  ⟨⟨(dispatching substitutions).built, Options.standard⟩, ⟨6⟩⟩

/-- The base of both, a local of the generic type. -/
def readingBase : Expr := .ref ⟨.genericParam ⟨⟨7⟩, "T"⟩, Span.unknown⟩ ⟨8⟩

/-- The substitution that makes the generic type known. -/
def knownPoint : List (DeclId × Ty) := [(⟨7⟩, .product ⟨⟨1⟩, "Point"⟩)]

/-- Nothing is known of the generic type, and neither the member nor the method is reached. -/
theorem dispatch_refused_iff_unknown :
    ∃ routine member method own, (readingFrame []).routine = .ok routine ∧
      routine.env.KeepsContainer readingBase.ty ∧
      (readingBase.ty.contextualized routine.env).isExistential = true ∧
      (readingFrame []).program.decl ⟨2⟩ = .ok member ∧ member.kind.isStored = true ∧
      (readingFrame []).program.decl ⟨4⟩ = .ok method ∧ method.routine? = some own ∧
      ∀ before (note calleeNote : Note) args,
        ((readingFrame []).value (.member note readingBase ⟨2⟩)).run before =
          .ok (.error (.existentialDispatch member.name readingBase.ty)) before ∧
        (note.ty.isError = false →
          ((readingFrame []).location (.member note readingBase ⟨2⟩)).run before =
            .ok (.error (.existentialDispatch member.name readingBase.ty)) before) ∧
        ((readingFrame []).value (.call note (.member calleeNote readingBase ⟨4⟩) args)).run before =
          .ok (.error (.existentialDispatch method.name readingBase.ty)) before := by
  have seen : (readingFrame []).routine.toOption.map (·.env.substitutions) = some [] := by
    decide +kernel
  have stored : ((readingFrame []).program.decl ⟨2⟩).toOption.map (·.kind.isStored) = some true := by
    decide +kernel
  have called : ((readingFrame []).program.decl ⟨4⟩).toOption.map (·.routine?.isSome) =
      some true := by
    decide +kernel
  obtain ⟨routine, owned, free⟩ := ok_of_map seen
  obtain ⟨member, found, stored⟩ := ok_of_map stored
  obtain ⟨method, found_method, called⟩ := ok_of_map called
  obtain ⟨own, listed⟩ := Option.isSome_iff_exists.mp called
  have keeps : routine.env.KeepsContainer readingBase.ty := by
    intro nominal replacement _ given
    rw [GenericEnv.substitution?, free] at given
    cases given
  have contained : (readingBase.ty.contextualized routine.env).isExistential = true :=
    Ty.isExistential_contextualized keeps
  refine ⟨routine, member, method, own, owned, keeps, contained, found, stored, found_method, listed,
    fun before note calleeNote args => ?_⟩
  have members := (Frame.dispatch_refused_iff owned keeps found before before).1 stored note
  have methods := (Frame.dispatch_refused_iff owned keeps found_method before before).2 own listed
  exact ⟨members.1.mpr ⟨contained, rfl⟩, fun checked => members.2.mpr ⟨⟨checked, contained⟩, rfl⟩,
    (methods note calleeNote args).mpr ⟨contained, rfl⟩⟩

/--
The function knows that the base is a product, and yet takes it for a container: neither the member
nor the method is reached, and both are reported.
-/
theorem known_point_refused :
    (dispatching knownPoint).built.Assembled ∧
    (∃ routine member method own, (readingFrame knownPoint).routine = .ok routine ∧
      readingBase.ty.contextualized routine.env = .product ⟨⟨1⟩, "Point"⟩ ∧
      (readingFrame knownPoint).program.decl ⟨2⟩ = .ok member ∧ member.kind.isStored = true ∧
      (readingFrame knownPoint).program.decl ⟨4⟩ = .ok method ∧ method.routine? = some own ∧
      ∀ before (note calleeNote : Note) args,
        ((readingFrame knownPoint).value (.member note readingBase ⟨2⟩)).run before =
          .ok (.error (.existentialDispatch member.name readingBase.ty)) before ∧
        (note.ty.isError = false →
          ((readingFrame knownPoint).location (.member note readingBase ⟨2⟩)).run before =
            .ok (.error (.existentialDispatch member.name readingBase.ty)) before) ∧
        ((readingFrame knownPoint).value
            (.call note (.member calleeNote readingBase ⟨4⟩) args)).run before =
          .ok (.error (.existentialDispatch method.name readingBase.ty)) before) ∧
    ∃ lowered, lower (dispatching knownPoint).built ⟨0⟩ Options.standard = .ok lowered ∧
      lowered.report.diagnostics.map Diagnostic.message =
        ["cannot lower expression: member 'get' of existential type T cannot be dispatched",
          "cannot lower expression: member 'x' of existential type T cannot be dispatched"] := by
  have seen : (readingFrame knownPoint).routine.toOption.map (fun routine =>
      readingBase.ty.contextualized routine.env) = some (.product ⟨⟨1⟩, "Point"⟩) := by
    decide +kernel
  have stored : ((readingFrame knownPoint).program.decl ⟨2⟩).toOption.map (·.kind.isStored) =
      some true := by
    decide +kernel
  have called : ((readingFrame knownPoint).program.decl ⟨4⟩).toOption.map (·.routine?.isSome) =
      some true := by
    decide +kernel
  have lowers : (lower (dispatching knownPoint).built ⟨0⟩ Options.standard).toOption.map
      (·.report.diagnostics.map Diagnostic.message) =
        some ["cannot lower expression: member 'get' of existential type T cannot be dispatched",
          "cannot lower expression: member 'x' of existential type T cannot be dispatched"] := by
    decide +kernel
  obtain ⟨routine, owned, product⟩ := ok_of_map seen
  obtain ⟨member, found, stored⟩ := ok_of_map stored
  obtain ⟨method, found_method, called⟩ := ok_of_map called
  obtain ⟨own, listed⟩ := Option.isSome_iff_exists.mp called
  refine ⟨dispatching_assembled _, ⟨routine, member, method, own, owned, product, found, stored,
    found_method, listed, fun before note calleeNote args => ⟨?_, fun checked => ?_, ?_⟩⟩,
    ok_of_map lowers⟩
  · rw [Frame.value]
    exact (Frame.run_memberWith_dispatch found stored _).mpr ⟨rfl, rfl⟩
  · exact (Frame.run_location_member_dispatch found stored note).mpr ⟨⟨checked, rfl⟩, rfl⟩
  · exact (Frame.run_call_dispatch owned found_method listed note calleeNote args).mpr ⟨rfl, rfl⟩

end Lowering
