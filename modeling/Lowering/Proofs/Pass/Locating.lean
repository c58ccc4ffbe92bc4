import Lowering.Proofs.Pass.Reference

/-
This file says what an attempt to lower an expression to a location does. It goes down through
stored members and addresses to a variable, and selects each of the members on its way back.
-/

namespace Lowering

open IR

/-- Only a variable, a member or the address of one can denote a location. -/
def Expr.mayDenote : Expr → Bool
  | .ref .. | .member .. | .addressOf .. => true
  | _ => false

namespace Frame

variable {frame : Frame} {before after : Activation}

/-- How an expression comes to a location, or why it comes to none. -/
inductive Locates (frame : Frame) (before : Activation) :
    Expr → Except Unlowerable Value → Activation → Prop
  | flawed {expr : Expr} (flawed : expr.ty.isError = true) :
    Locates frame before expr (.ok (Value.error (.address .error))) before
  | bound {note : Note} {id : DeclId} {value : Value}
    (checked : (Expr.ref note id).ty.isError = false) (found : before.locals.get? id = some value)
    (place : (value.isAddress || value.isError) = true) :
    Locates frame before (.ref note id) (.ok value) before
  | object {note : Note} {id : DeclId} {value : Value}
    (checked : (Expr.ref note id).ty.isError = false) (found : before.locals.get? id = some value)
    (object : (value.isAddress || value.isError) = false) :
    Locates frame before (.ref note id) (.error (.notAddressable note.ty)) before
  | missing {note : Note} {id : DeclId} {decl : Decl}
    (checked : (Expr.ref note id).ty.isError = false) (missing : before.locals.get? id = none)
    (declared : frame.program.decl id = .ok decl) :
    Locates frame before (.ref note id)
      (.error (if isLocalKind decl.kind then .unbound decl.name else .notAddressable note.ty))
      before
  /-- A stored member is selected from the location of its base. -/
  | member {note : Note} {base : Expr} {id : DeclId} {decl : Decl} {record value : Value} {ty : Ty}
    {between after : Activation} (checked : (Expr.member note base id).ty.isError = false)
    (declared : frame.program.decl id = .ok decl) (stored : decl.kind.isStored = true)
    (concrete : base.ty.isExistential = false)
    (located : Locates frame before base (.ok record) between)
    (seen : frame.contextualize decl.ty = .ok ty)
    (selected : (liftM (BuildM.recordMemberAddr record id decl.name ty) : BodyM Value) between =
      .ok value after) :
    Locates frame before (.member note base id) (.ok value) after
  | placeless {note : Note} {base : Expr} {id : DeclId} {decl : Decl} {failure : Unlowerable}
    {after : Activation} (checked : (Expr.member note base id).ty.isError = false)
    (declared : frame.program.decl id = .ok decl) (stored : decl.kind.isStored = true)
    (concrete : base.ty.isExistential = false)
    (located : Locates frame before base (.error failure) after) :
    Locates frame before (.member note base id) (.error failure) after
  | dispatched {note : Note} {base : Expr} {id : DeclId} {decl : Decl}
    (checked : (Expr.member note base id).ty.isError = false)
    (declared : frame.program.decl id = .ok decl) (stored : decl.kind.isStored = true)
    (existential : base.ty.isExistential = true) :
    Locates frame before (.member note base id)
      (.error (.existentialDispatch decl.name base.ty)) before
  | computed {note : Note} {base : Expr} {id : DeclId} {decl : Decl}
    (checked : (Expr.member note base id).ty.isError = false)
    (declared : frame.program.decl id = .ok decl) (computed : decl.kind.isStored = false) :
    Locates frame before (.member note base id) (.error (.notAddressable note.ty)) before
  | addressOf {note : Note} {operand : Expr} {result : Except Unlowerable Value}
    {after : Activation} (checked : (Expr.addressOf note operand).ty.isError = false)
    (located : Locates frame before operand result after) :
    Locates frame before (.addressOf note operand) result after
  | other {expr : Expr} (checked : expr.ty.isError = false) (other : expr.mayDenote = false) :
    Locates frame before expr (.error (.notAddressable expr.ty)) before

theorem locates_of_run (expr : Expr) {after : Activation} {result : Except Unlowerable Value}
    (done : (frame.location expr).run before = .ok result after) :
    frame.Locates before expr result after := by
  rw [Frame.location.eq_def] at done
  split at done
  next flawed =>
    obtain ⟨rfl, rfl⟩ := (run_pure _ _ _ _).mp done
    exact .flawed flawed
  next checked =>
  have checked : expr.ty.isError = false := eq_false_of_ne_true checked
  cases expr with
  | ref note id =>
    have done := run_local?_bind.mp done
    cases found : before.locals.get? id with
    | some value =>
      rw [found] at done
      dsimp only at done
      split at done
      next place =>
        obtain ⟨rfl, rfl⟩ := (run_pure _ _ _ _).mp done
        exact .bound checked found place
      next object =>
        obtain ⟨rfl, rfl⟩ := (attempt_throw _ _ _ _).mp done
        exact .object checked found (eq_false_of_ne_true object)
    | none =>
      rw [found] at done
      obtain ⟨decl, declared, done⟩ := (attempt_check_bind _ _ _ _ _).mp done
      have missing := Locates.missing checked found ((lift_answer _ _).mp declared)
      split at done
      next plain =>
        obtain ⟨rfl, rfl⟩ := (attempt_throw _ _ _ _).mp done
        rwa [if_pos plain] at missing
      next other =>
        obtain ⟨rfl, rfl⟩ := (attempt_throw _ _ _ _).mp done
        rwa [if_neg other] at missing
  | member note base id =>
    obtain ⟨decl, declared, done⟩ := (attempt_check_bind _ _ _ _ _).mp done
    have declared := (lift_answer _ _).mp declared
    dsimp only at done
    split at done
    next computed =>
      obtain ⟨rfl, rfl⟩ := run_fail_bind done
      exact .computed checked declared (by simpa using computed)
    next stored =>
    have stored : decl.kind.isStored = true := by simpa using stored
    split at done
    next existential =>
      obtain ⟨rfl, rfl⟩ := run_fail_bind done
      exact .dispatched checked declared stored existential
    next concrete =>
    have concrete : base.ty.isExistential = false := eq_false_of_ne_true concrete
    cases result with
    | ok value =>
      obtain ⟨record, between, located, done⟩ := (attempt_bind _ _ _ _ _).mp done
      obtain ⟨ty, seen, done⟩ := (attempt_check_bind _ _ _ _ _).mp done
      obtain ⟨_, selected, same⟩ := (lift_attempt_build _ _ _ _).mp done
      obtain rfl := Except.ok.inj same
      exact .member checked declared stored concrete (locates_of_run base located) seen selected
    | error failure =>
      obtain located | ⟨record, between, _, done⟩ := (attempt_bind_error _ _ _ _ _).mp done
      · exact .placeless checked declared stored concrete (locates_of_run base located)
      · obtain ⟨ty, _, done⟩ := (attempt_check_bind _ _ _ _ _).mp done
        obtain ⟨_, _, impossible⟩ := (lift_attempt_build _ _ _ _).mp done
        cases impossible
  | addressOf note operand => exact .addressOf checked (locates_of_run operand done)
  | bool | int | float | string | call | assign | error =>
    obtain ⟨rfl, rfl⟩ := (attempt_throw _ _ _ _).mp done
    exact .other checked rfl

theorem Locates.run {expr : Expr} {result : Except Unlowerable Value}
    (located : frame.Locates before expr result after) :
    (frame.location expr).run before = .ok result after := by
  induction located with
  | flawed flawed =>
    rw [Frame.location.eq_def, if_pos flawed]
    rfl
  | bound checked found place =>
    rw [Frame.location.eq_def, if_neg (ne_true_of_eq_false checked)]
    refine run_local?_bind.mpr ?_
    rw [found]
    dsimp only
    rw [if_pos place]
    rfl
  | object checked found object =>
    rw [Frame.location.eq_def, if_neg (ne_true_of_eq_false checked)]
    refine run_local?_bind.mpr ?_
    rw [found]
    dsimp only
    rw [if_neg (ne_true_of_eq_false object)]
    rfl
  | missing checked missing declared =>
    rw [Frame.location.eq_def, if_neg (ne_true_of_eq_false checked)]
    refine run_local?_bind.mpr ?_
    rw [missing]
    refine (attempt_check_bind _ _ _ _ _).mpr ⟨_, (lift_answer _ _).mpr declared, ?_⟩
    split <;> rfl
  | member checked declared stored concrete _ seen selected base_ih =>
    rw [Frame.location.eq_def, if_neg (ne_true_of_eq_false checked)]
    refine (attempt_check_bind _ _ _ _ _).mpr ⟨_, (lift_answer _ _).mpr declared, ?_⟩
    simp only [stored, concrete, Bool.not_true, Bool.false_eq_true, if_false]
    refine (attempt_bind _ _ _ _ _).mpr ⟨_, _, base_ih, ?_⟩
    exact (attempt_check_bind _ _ _ _ _).mpr
      ⟨_, seen, (lift_attempt_build _ _ _ _).mpr ⟨_, selected, rfl⟩⟩
  | placeless checked declared stored concrete _ base_ih =>
    rw [Frame.location.eq_def, if_neg (ne_true_of_eq_false checked)]
    refine (attempt_check_bind _ _ _ _ _).mpr ⟨_, (lift_answer _ _).mpr declared, ?_⟩
    simp only [stored, concrete, Bool.not_true, Bool.false_eq_true, if_false]
    exact (attempt_bind_error _ _ _ _ _).mpr (Or.inl base_ih)
  | dispatched checked declared stored existential =>
    rw [Frame.location.eq_def, if_neg (ne_true_of_eq_false checked)]
    refine (attempt_check_bind _ _ _ _ _).mpr ⟨_, (lift_answer _ _).mpr declared, ?_⟩
    simp only [stored, existential, Bool.not_true, Bool.false_eq_true, if_false, if_true]
    rfl
  | computed checked declared computed =>
    rw [Frame.location.eq_def, if_neg (ne_true_of_eq_false checked)]
    refine (attempt_check_bind _ _ _ _ _).mpr ⟨_, (lift_answer _ _).mpr declared, ?_⟩
    simp only [computed, Bool.not_false, if_true]
    rfl
  | addressOf checked _ operand_ih =>
    rw [Frame.location.eq_def, if_neg (ne_true_of_eq_false checked)]
    exact operand_ih
  | @other expr checked other =>
    rw [Frame.location.eq_def, if_neg (ne_true_of_eq_false checked)]
    cases expr with
    | ref | member | addressOf => cases other
    | bool | int | float | string | call | assign | error => rfl

/-- An attempt at a location ends in one of these ways. -/
theorem run_location {expr : Expr} {result : Except Unlowerable Value} :
    (frame.location expr).run before = .ok result after ↔ frame.Locates before expr result after :=
  ⟨locates_of_run expr, Locates.run⟩

/-- Nothing is emitted for an expression that denotes no location. -/
theorem Locates.eq_of_error {expr : Expr} {failure : Unlowerable}
    (located : frame.Locates before expr (.error failure) after) : after = before := by
  generalize fails : Except.error failure = result at located
  induction located with
  | flawed | bound | member => cases fails
  | addressOf _ _ operand_ih => exact operand_ih fails
  | placeless _ _ _ _ _ base_ih => exact base_ih fails
  | object | missing | dispatched | computed | other => rfl

end Frame

end Lowering
