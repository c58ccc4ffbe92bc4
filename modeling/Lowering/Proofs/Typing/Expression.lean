import Lowering.Pass.Expression
import Lowering.Proofs.Pass.Invariant
import Lowering.Proofs.Typing.Signature

/-
This file follows the lowering of an expression. It keeps every invariant and the locals, and the
value or the location that it yields has the type of the expression.
-/

namespace Lowering

open IR

namespace Frame

variable (frame : Frame)

/-- Without substitutions a type is the same inside the function. -/
theorem contextualize_eq_self (monomorphic : frame.program.Monomorphic) {ty seen : Ty}
    (done : frame.contextualize ty = .ok seen) : seen = ty := by
  obtain ⟨routine, asked, done⟩ := (check_bind _ _ _).mp done
  obtain rfl := (check_pure _ _).mp done
  obtain ⟨decl, found, given⟩ := (check_bind _ _ _).mp asked
  cases listed : decl.routine? with
  | none => simp [listed] at given
  | some own =>
    obtain rfl : own = routine := by simpa [listed] using given
    have found := Program.decl_eq_ok.mp ((lift_answer _ _).mp found)
    exact Ty.contextualized_eq_self (monomorphic decl (Program.mem_decls found) own listed) ty

instance (expr : Expr) (target : Ty) : Blameless (frame.needsCoercion expr target) := by
  unfold needsCoercion
  split
  · exact Blameless.bind fun _ => inferInstance
  · infer_instance

instance (id : DeclId) : Blameless (frame.method? id) :=
  inferInstanceAs (Blameless (liftM (frame.program.routine? id)))

instance (params : List Ty) (args : List Expr) : Blameless (requireArity params args) := by
  unfold requireArity
  split
  · infer_instance
  · exact .abort

/-- The function takes no receiver, and these are its captures. -/
structure Encloses (captures : List DeclId) : Prop where
  free : ∃ decl routine, frame.program.find? frame.owner = some decl ∧
    decl.routine? = some routine ∧ routine.isMember = false
  captured : frame.program.captures frame.owner = .ok captures

/-- The value of an expression has its type; that of one of error type is an error. -/
structure Yields (locals : Locals) (expr : Expr) (value : Value) : Prop where
  error : expr.ty.isError = true → value.isError = true
  typed : frame.program.Judges locals expr → value.Has (.lower expr.ty)

end Frame

namespace Invariant

variable {frame : Frame} (kept : Invariant frame.toJob) {locals : Locals}

theorem emitReport (failure : Unlowerable) (span : Span) :
    Evaluates kept.toContract locals (BodyM.report failure span) fun _ => True :=
  .lift (kept.keeps_report _)

/-- A local that is an address is the location of its declaration. -/
theorem has_local {note : Note} {id : DeclId} {value : Value}
    (judged : frame.program.Judges locals (.ref note id)) (bound : locals.get? id = some value)
    (place : (value.isAddress || value.isError) = true) : value.Has (.address note.ty.base) := by
  cases judged.types with
  | ref found ty =>
    rcases (judged.bound id value bound).ty_or_error found with error | typed
    · exact Or.inl error
    · rcases Bool.or_eq_true_iff.mp place with address | error
      · have owned := Ty.base_of_isOwned (judged.declared.borrows.owned found)
        have address : value.type.isAddress = true := address
        exact Or.inr (by rw [ty, owned, ← typed, OperandType.address, ← address])
      · exact Or.inl error

theorem location (expr : Expr) :
    Attempts kept.toContract locals (frame.location expr) fun value =>
      frame.program.Judges locals expr → value.Has (.address expr.ty.base) := by
  unfold Frame.location
  split
  · exact .pure fun _ => Or.inl rfl
  · cases expr with
    | ref note id =>
      refine .local_bind id ?_
      cases bound : locals.get? id with
      | some value =>
        dsimp only
        split
        next place => exact .pure fun judged => has_local judged bound place
        next => exact .fail _ _
      | none =>
        refine .ask_bind fun decl _ => ?_
        split
        · exact .fail _ _
        · exact .fail _ _
    | member note base id =>
      refine .ask_bind fun decl found => ?_
      have base_ih := location base
      by_cases stored : decl.kind.isStored = true
      · simp only [stored, Bool.not_true, Bool.false_eq_true, if_false]
        split
        · exact .fail_bind _ _ _
        · refine .bind base_ih fun record _ => .check_bind fun ty seen => ?_
          refine (Attempts.lift (.lift (kept.keeps_recordMemberAddr record id decl.name ty))).mono
            fun value typed judged => Or.inr (typed.trans ?_)
          have found := Program.decl_eq_ok.mp found
          have same := frame.contextualize_eq_self judged.declared.monomorphic seen
          have base := judged.declared.borrows.base_eq found stored judged.spared
          cases judged.types with
          | member _ other noted =>
            obtain rfl := Option.some.inj (found.symm.trans other)
            have noted : note.ty = decl.ty.base := noted
            show OperandType.address ty = .address note.ty.base
            rw [noted, base, base, same]
      · simp only [stored, Bool.not_false, if_true]
        exact .fail_bind _ _ _
    | addressOf note operand =>
      refine (location operand).mono fun value typed judged => ?_
      have typed := typed judged.operand
      cases judged.types with
      | addressOf types noted other =>
        have noted : note.ty = .inout operand.ty := noted
        show value.Has (.address note.ty.base)
        rw [noted, show (Ty.inout operand.ty).base = operand.ty from rfl,
          ← types.base_eq judged.declared.borrows other]
        exact typed
    | _ => exact .fail _ _

theorem emitLocation (expr : Expr) :
    Evaluates kept.toContract locals (frame.emitLocation expr) fun value =>
      frame.program.Judges locals expr → value.Has (.address expr.ty.base) := by
  refine Attempts.recover (kept.location expr) fun failure => ?_
  exact .bind (kept.emitReport failure expr.span) fun _ _ => .pure fun _ => Or.inl rfl

theorem captureValues (captures : List DeclId) :
    Attempts kept.toContract locals (frame.captureValues captures)
      (List.Forall₂ (fun capture value => locals.get? capture = some value) captures) := by
  induction captures with
  | nil => exact .pure .nil
  | cons capture rest rest_ih =>
    refine .local_bind capture ?_
    cases bound : locals.get? capture with
    | some value => exact .bind rest_ih fun _ found => .pure (.cons bound found)
    | none => exact .ask_bind fun _ _ => .fail _ _

/-- The function, which is no member, may be closed over what is bound to its own captures. -/
def Covers (kept : Invariant frame.toJob) (locals : Locals) : Prop :=
  ∀ {pass : Pass} {captures : List DeclId} {signature : Signature} {function : Value}
    {args : List Value}, kept.Holds pass → frame.Encloses captures →
    List.Forall₂ (fun capture value => locals.get? capture = some value) captures args →
    frame.signature frame.owner = .ok signature → function.type = .object signature.funType →
    kept.Closes pass function args

section Reference

variable (covers : kept.Covers locals)

include covers

/-- A reference yields an object of the type of its declaration, without inout. -/
theorem reference (id : DeclId) :
    Attempts kept.toContract locals (frame.reference id) fun value =>
      frame.program.Typed → frame.program.TypesLocals locals →
        ∀ decl, frame.program.find? id = some decl → value.Has (.object decl.ty.base) := by
  refine .local_bind id ?_
  cases bound : locals.get? id with
  | some value =>
    dsimp only
    split
    next place =>
      refine (Attempts.lift (.lift (kept.keeps_load value))).mono
        fun loaded same _ typed decl found => Or.inr (same.trans ?_)
      exact congrArg OperandType.object ((typed id value bound).ty_of_location found place)
    next object =>
      refine .pure fun _ typed decl found => ?_
      exact (typed id value bound).has_object found (by simpa using object)
  | none =>
    refine .ask_bind fun decl found => ?_
    have found := Program.decl_eq_ok.mp found
    cases kind : decl.kind with
    | function routine =>
      have listed : decl.routine? = some routine := by simp [Decl.routine?, kind, DeclKind.routine?]
      have finished {value : Value} (typed : frame.program.Typed)
          (same : value.type = .object decl.ty) (other : Decl)
          (again : frame.program.find? id = some other) : value.Has (.object other.ty.base) := by
        obtain rfl := Option.some.inj (found.symm.trans again)
        exact Or.inr (by rw [same, typed.signed.base_eq found listed])
      dsimp only
      split
      · exact .pure fun typed _ => finished typed rfl
      · split
        · exact .fail_bind _ _ _
        next free =>
          refine .ask_bind fun captures known => ?_
          split
          next none =>
            refine (Attempts.lift (.lift (kept.keeps_declare id))).mono ?_
            rintro value ⟨signature, signed, same⟩ typed _
            have captureless : frame.program.captures id = .ok [] := by
              rw [known, List.isEmpty_iff.mp none]
            exact finished typed (same.trans (congrArg OperandType.object
              (Job.funType_of_captures_nil typed found listed (by simpa using free) captureless
                signed)))
          next =>
            split
            · exact .fail_bind _ _ _
            next own =>
              obtain rfl : id = frame.owner := by simpa using own
              refine .bind (kept.captureValues captures) fun args bound => ?_
              refine .bind (.lift (.lift (kept.keeps_declare _))) fun function declared => ?_
              obtain ⟨signature, signed, same⟩ := declared
              refine .check_bind fun ty seen => ?_
              have encloses : frame.Encloses captures :=
                ⟨⟨decl, routine, found, listed, by simpa using free⟩, known⟩
              have closes (pass : Pass) (holds : kept.Holds pass) :
                  kept.Closes pass function args :=
                covers holds encloses bound signed same
              refine (Attempts.lift (.lift (kept.keeps_partialApply closes ty))).mono ?_
              intro value same typed _
              rw [frame.contextualize_eq_self typed.monomorphic seen] at same
              exact finished typed same
    | _ =>
      dsimp only
      split
      · exact .fail _ _
      · exact .fail _ _

theorem emitReference (id : DeclId) (span : Span) :
    Evaluates kept.toContract locals (frame.emitReference id span) fun _ => True := by
  refine Attempts.recover ((kept.reference covers id).mono fun _ _ => trivial) fun failure => ?_
  exact .bind (kept.emitReport failure span) fun _ _ => .ask_bind fun _ _ => .pure trivial

end Reference

/-- An expression of error type yields an error, and so does one that fails. -/
theorem emitWith (expr : Expr) {lowered : Attempt Value}
    (attempted : Attempts kept.toContract locals lowered fun value =>
      frame.program.Judges locals expr → value.Has (.lower expr.ty)) :
    Evaluates kept.toContract locals (Frame.emitWith expr lowered) (frame.Yields locals expr) := by
  unfold Frame.emitWith
  split
  · exact .pure ⟨fun _ => rfl, fun _ => Or.inl rfl⟩
  next sound =>
    have mild (value : Value)
        (typed : frame.program.Judges locals expr → value.Has (.lower expr.ty)) :
        frame.Yields locals expr value :=
      ⟨fun error => (sound error).elim, typed⟩
    refine Attempts.recover (attempted.mono mild) fun failure => ?_
    refine .bind (kept.emitReport failure expr.span) fun _ _ => .pure ?_
    exact ⟨fun _ => rfl, fun _ => Or.inl rfl⟩

theorem copyFrom? (expr : Expr) (location : Value) (ty : Ty) :
    Evaluates kept.toContract locals (frame.copyFrom? expr location ty) fun _ => True := by
  unfold Frame.copyFrom?
  split
  · exact .pure trivial
  · refine .bind (kept.location expr) fun result _ => ?_
    cases result with
    | error => exact .pure trivial
    | ok source =>
      dsimp only
      split
      · exact .pure trivial
      · have copied (source : Value) : Evaluates kept.toContract locals
            (do
              BuildM.copyAddr source location
              return true) fun _ => True :=
          .bind (.lift (kept.keeps_copyAddr source location)) fun _ _ => .pure trivial
        split
        · exact .bind (.lift (kept.keeps_unsafeCastAddr source location.type.ty))
            fun cast _ => copied cast
        · exact copied source

section Value

variable {expr : Expr} {value : BodyM Value} {given : Value → Prop}
  (evaluated : Evaluates kept.toContract locals value given)

include evaluated

theorem assignWith (location : Value) :
    Evaluates kept.toContract locals (frame.assignWith expr value location) fun _ => True := by
  unfold Frame.assignWith
  split
  · exact Sustains.discard evaluated
  · refine .check_bind fun ty _ => .bind (kept.copyFrom? expr location ty) fun copied _ => ?_
    split
    · exact .bind evaluated fun _ _ => .lift _ (kept.keeps_assignValue _ _ _)
    · exact .pure trivial

/-- The value comes out of a temporary location of the type. -/
theorem coerceWith (target : Ty) :
    Evaluates kept.toContract locals (frame.coerceWith expr value target) fun value =>
      value.type = .object target := by
  refine .bind (.lift (kept.keeps_allocStack target)) fun temporary typed => ?_
  refine .bind (kept.assignWith evaluated temporary) fun _ _ => ?_
  refine (Evaluates.lift (kept.keeps_load temporary)).mono fun value loaded => ?_
  rw [loaded, typed.1]
  rfl

theorem spill : Evaluates kept.toContract locals (frame.spill expr value) fun _ => True := by
  refine .bind evaluated fun value _ => .check_bind fun ty _ => ?_
  refine .bind (.lift _ (kept.keeps_allocStack ty)) fun temporary _ => ?_
  exact .bind (.lift _ (kept.keeps_store _ _)) fun _ _ => .pure trivial

/-- What is read of a record has the type of the member. -/
theorem readMember (base : Expr) (id : DeclId) (name : String) (ty : Ty) :
    Attempts kept.toContract locals (frame.readMember base value id name ty) fun value =>
      ∃ seen, frame.contextualize ty = .ok seen ∧ value.type = .object seen := by
  refine .bind (.lift (Attempts.recover ((kept.location base).mono fun _ _ => trivial)
    fun _ => kept.spill evaluated)) fun record _ => .check_bind fun seen given => ?_
  refine .bind (.lift (.lift (kept.keeps_recordMemberAddr record id name seen)))
    fun address placed => ?_
  refine (Attempts.lift (.lift (kept.keeps_load address))).mono fun value loaded => ?_
  refine ⟨seen, given, loaded.trans ?_⟩
  rw [placed]
  rfl

/-- A stored member yields an object of its type. -/
theorem memberWith (base : Expr) (id : DeclId) :
    Attempts kept.toContract locals (frame.memberWith base value id) fun value =>
      frame.program.Typed → ¬ frame.program.IsBorrowed id →
        ∀ decl, frame.program.find? id = some decl → value.Has (.object decl.ty.base) := by
  refine .ask_bind fun decl found => ?_
  have found := Program.decl_eq_ok.mp found
  cases kind : decl.kind with
  | function => exact .fail_bind _ _ _
  | «variable» hasStorage =>
    cases hasStorage with
    | false => exact .fail_bind _ _ _
    | true =>
      have stored : decl.kind.isStored = true := by rw [kind]; rfl
      by_cases existential : base.ty.isExistential = true
      · simp only [existential, if_true]
        exact .fail_bind _ _ _
      · simp only [existential]
        refine (kept.readMember evaluated base id decl.name decl.ty).mono
          fun value read typed other again found_again => ?_
        obtain ⟨ty, seen, is⟩ := read
        obtain rfl := Option.some.inj (found.symm.trans found_again)
        rw [typed.borrows.base_eq found stored other]
        exact Or.inr (frame.contextualize_eq_self typed.monomorphic seen ▸ is)
  | _ => exact .fail_bind _ _ _

variable {argCheck : List Ty → CheckM Unit} [∀ params, Blameless (argCheck params)]
  {argValues : List Ty → BodyM (List Value)}
  (all : ∀ params, Evaluates kept.toContract locals (argValues params) fun _ => True)

omit evaluated in
include all in
theorem callWith (id : DeclId) (params : List Ty) (result : OperandType) (receiver : List Value) :
    Attempts kept.toContract locals
      (frame.callWith id params argCheck argValues result receiver) fun value =>
        value.type = result := by
  refine .check_bind fun _ _ => .bind (.lift (all params)) fun args _ => ?_
  refine .bind (.lift (.lift (kept.keeps_declare id))) fun function _ => ?_
  exact .lift (.lift (kept.keeps_apply function (receiver ++ args) result))

include all

theorem methodWith (base : Expr) (id : DeclId) (routine : Routine) (result : OperandType) :
    Attempts kept.toContract locals
      (frame.methodWith base value id routine argCheck argValues result) fun value =>
        value.type = result := by
  refine .ask_bind fun decl _ => ?_
  simp only
  split
  · exact .fail_bind _ _ _
  · refine .check_bind fun ty _ => ?_
    cases ty.asFunction? with
    | none => exact .fail _ _
    | some funType =>
      simp only
      split
      · exact kept.callWith all id _ result []
      · split
        · exact .bind (.lift (kept.emitLocation base)) fun receiver _ =>
            kept.callWith all id _ result [receiver]
        · exact .bind (.lift evaluated) fun receiver _ =>
            kept.callWith all id _ result [receiver]

theorem applyWith (callee : Expr) (result : OperandType) :
    Attempts kept.toContract locals (frame.applyWith callee value argCheck argValues result) fun value =>
      value.Has result := by
  refine .check_bind fun ty _ => ?_
  cases ty.asFunction? with
  | none => exact .fail _ _
  | some funType =>
    refine .bind (.lift evaluated) fun function _ => ?_
    split
    · exact .pure (Or.inl rfl)
    · refine .check_bind fun _ _ => .bind (.lift (all funType.params)) fun args _ => ?_
      exact (Attempts.lift (.lift (kept.keeps_apply function args result))).mono fun _ => Or.inr

end Value

/-- An argument has the type of its parameter, or it is made to. -/
theorem argumentWith (param : Ty) {arg : Expr} {value : BodyM Value}
    (evaluated : Evaluates kept.toContract locals value (frame.Yields locals arg)) :
    Evaluates kept.toContract locals (frame.argumentWith param arg value) fun value =>
      frame.program.Judges locals arg → arg.ty = param ∨ param.isExistential = true →
        value.Has (.lower param) := by
  have coerced (owned : ∀ base, param ≠ .inout base) :
      Evaluates kept.toContract locals
        (do
          if ← frame.needsCoercion arg param then frame.coerceWith arg value param else value)
        fun value => frame.program.Judges locals arg →
          arg.ty = param ∨ param.isExistential = true → value.Has (.lower param) := by
    have lowered : OperandType.lower param = .object param := by
      cases param with
      | inout base => exact (owned base rfl).elim
      | _ => rfl
    refine .check_bind fun needed asked => ?_
    split
    next =>
      refine (kept.coerceWith evaluated param).mono fun value typed _ _ => Or.inr ?_
      rw [typed, lowered]
    next fits =>
      refine evaluated.mono fun value yields judged fitting => ?_
      rcases fitting with same | existential
      · exact same ▸ yields.typed judged
      · by_cases error : arg.ty.isError = true
        · exact Or.inl (yields.error error)
        · -- What is not coerced to a container has its type already.
          simp only [Frame.needsCoercion, existential, error, Bool.not_false, Bool.and_true, if_true]
            at asked
          obtain ⟨ty, seen, answered⟩ := (check_bind _ _ _).mp asked
          have answer := (check_pure _ _).mp answered
          have same : ty = param := by
            by_contra apart
            exact fits (by simpa [apart] using answer.symm)
          rw [frame.contextualize_eq_self judged.declared.monomorphic seen] at same
          exact same ▸ yields.typed judged
  cases param with
  | inout base =>
    refine (kept.emitLocation arg).mono fun value typed judged fitting => ?_
    rcases fitting with same | existential
    · have typed := typed judged
      rw [same] at typed
      exact typed
    · cases existential
  | _ => exact coerced fun _ => Ty.noConfusion

/-- A call yields an object of its type. -/
theorem lower_of_call {note : Note} {callee : Expr} {args : List Expr} {ty : Ty} {value : Value}
    (seen : frame.contextualize note.ty = .ok ty) (typed : value.Has (.object ty))
    (judged : frame.program.Judges locals (.call note callee args)) :
    value.Has (.lower note.ty) := by
  have owned := judged.types.owned judged.declared.borrows fun _ _ same => nomatch same
  rw [frame.contextualize_eq_self judged.declared.monomorphic seen] at typed
  exact (Ty.lower_of_isOwned owned).symm ▸ typed

/-- A member reference has the type of the member. -/
theorem member {note : Note} {base : Expr} {value : BodyM Value} {given : Value → Prop}
    (evaluated : Evaluates kept.toContract locals value given) (id : DeclId) :
    Attempts kept.toContract locals (frame.memberWith base value id) fun value =>
      frame.program.Judges locals (.member note base id) → value.Has (.lower note.ty) := by
  refine (kept.memberWith evaluated base id).mono fun value typed judged => ?_
  cases judged.types with
  | member _ found ty =>
    have lowered := Ty.lower_of_isOwned (judged.declared.borrows.owned found)
    exact (congrArg OperandType.lower ty).trans lowered ▸
      typed judged.declared judged.spared _ found

mutual

theorem value (covers : kept.Covers locals) (expr : Expr) :
    Attempts kept.toContract locals (frame.value expr) fun value =>
      frame.program.Judges locals expr → value.Has (.lower expr.ty) := by
  cases expr with
  | bool note given | int note given | float note given | string note given =>
    refine .pure fun judged => Or.inr ?_
    cases judged.types
    next ty => exact (congrArg OperandType.lower ty).symm
  | ref note id =>
    refine (kept.reference covers id).mono fun value typed judged => ?_
    cases judged.types with
    | ref found ty =>
      have lowered := Ty.lower_of_isOwned (judged.declared.borrows.owned found)
      exact (congrArg OperandType.lower ty).trans lowered ▸
        typed judged.declared judged.bound _ found
  | member note base id => exact kept.member (kept.emitWith base (value covers base)) id
  | call note callee args =>
    have all (params : List Ty) :
        Evaluates kept.toContract locals (frame.arguments params args) fun _ => True :=
      (arguments covers params args).mono fun _ _ => trivial
    rw [Frame.value]
    refine .check_bind fun ty seen => ?_
    cases callee with
    | member calleeNote base id =>
      have base_evaluated := kept.emitWith base (value covers base)
      refine .check_bind fun found _ => ?_
      cases found with
      | some routine =>
        refine (kept.methodWith base_evaluated all base id routine (.object ty)).mono ?_
        exact fun value typed => lower_of_call seen (Or.inr typed)
      | none =>
        have callee_evaluated := kept.emitWith (.member calleeNote base id)
          (kept.member base_evaluated id)
        exact (kept.applyWith callee_evaluated all _ (.object ty)).mono
          fun value => lower_of_call seen
    | bool | int | float | string | ref | call | assign | addressOf | error =>
      exact (kept.applyWith (kept.emitWith _ (value covers _)) all _ (.object ty)).mono
        fun value => lower_of_call seen
  | assign note target source =>
    refine .bind (.lift (kept.emitLocation target)) fun location _ => ?_
    refine .bind (.lift (kept.assignWith (kept.emitWith source (value covers source)) location))
      fun _ _ => .pure fun judged => Or.inr ?_
    cases judged.types with
    | assign _ _ ty => exact (congrArg OperandType.lower ty).symm
  | addressOf note operand =>
    refine (kept.location operand).mono fun value typed judged => ?_
    have typed := typed judged.operand
    cases judged.types with
    | addressOf types ty other =>
      rw [types.base_eq judged.declared.borrows other] at typed
      exact (congrArg OperandType.lower ty).symm ▸ typed
  | error note => exact .pure fun _ => Or.inl rfl

theorem arguments (covers : kept.Covers locals) (params : List Ty) (args : List Expr) :
    Evaluates kept.toContract locals (frame.arguments params args) fun values =>
      values.length = min params.length args.length ∧
        ∀ (place : Nat) value param arg, values[place]? = some value →
          params[place]? = some param → args[place]? = some arg →
            frame.program.Judges locals arg → arg.ty = param ∨ param.isExistential = true →
              value.Has (.lower param) := by
  cases args with
  | nil =>
    cases params <;> exact .pure ⟨by simp, fun _ _ _ _ impossible => nomatch impossible⟩
  | cons arg args =>
    cases params with
    | nil => exact .pure ⟨by simp, fun _ _ _ _ impossible => nomatch impossible⟩
    | cons param params =>
      rw [Frame.arguments]
      refine .bind (kept.argumentWith param (kept.emitWith arg (value covers arg))) fun first typed => ?_
      refine .bind (arguments covers params args) fun rest ⟨count, all⟩ => .pure ⟨by simp [count], ?_⟩
      intro place value own given inside takes passes judged fitting
      cases place with
      | zero =>
        obtain rfl : first = value := by simpa using inside
        obtain rfl : param = own := by simpa using takes
        obtain rfl : arg = given := by simpa using passes
        exact typed judged fitting
      | succ place =>
        exact all place value own given (by simpa using inside) (by simpa using takes)
          (by simpa using passes) judged fitting

end

section Covered

variable (covers : kept.Covers locals)

include covers

theorem emitValue (expr : Expr) :
    Evaluates kept.toContract locals (frame.emitValue expr) (frame.Yields locals expr) :=
  kept.emitWith expr (kept.value covers expr)

theorem emitAssign (expr : Expr) (location : Value) :
    Evaluates kept.toContract locals (frame.emitAssign expr location) fun _ => True :=
  kept.assignWith (kept.emitValue covers expr) location

theorem emitCoerced (expr : Expr) (target : Ty) :
    Evaluates kept.toContract locals (frame.emitCoerced expr target) fun value =>
      value.type = .object target :=
  kept.coerceWith (kept.emitValue covers expr) target

end Covered

end Invariant

end Lowering
