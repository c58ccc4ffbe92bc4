import Lowering.Pass.Expression
import Lowering.Proofs.Pass.Location

/-
This file carries policies through the lowering of expressions, by induction on the expression. What
lowers an operand is taken with the policy that it keeps wherever it starts.
-/

namespace Lowering

open IR

namespace Frame

variable {frame : Frame}

theorem contextualize_eq_ok {ty seen : Ty} (given : frame.contextualize ty = .ok seen) :
    ∃ env : GenericEnv, seen = ty.contextualized env := by
  unfold Frame.contextualize at given
  obtain ⟨routine, _, given⟩ := (check_bind _ _ _).mp given
  exact ⟨routine.env, ((check_pure _ _).mp given).symm⟩

theorem decl_of_method? {id : DeclId} {routine : Routine}
    (named : frame.method? id = .ok (some routine)) :
    ∃ decl, frame.program.decl id = .ok decl ∧ decl.routine? = some routine := by
  have named := (lift_answer _ _).mp named
  unfold Program.routine? at named
  obtain ⟨decl, found, listed⟩ := (check_bind _ _ _).mp named
  exact ⟨decl, found, (check_pure _ _).mp listed⟩

end Frame

namespace Policy

variable {frame : Frame} {policy : Policy frame.toJob} {expr base callee : Expr}
  {value : BodyM Value} {result : OperandType}

theorem Keeps.emitWith {lowered : Attempt Value} (occurs : frame.program.Occurs expr)
    (before : Activation) (kept : policy.Tries lowered before (policy.Yields expr)) :
    policy.Keeps (Frame.emitWith expr lowered) before (policy.Yields expr) := by
  unfold Frame.emitWith
  split
  next flawed =>
    exact .pure (yields_error expr
      (policy.usable_error _ (Or.inr (Or.inr ⟨expr, occurs, Or.inl flawed⟩))))
  next =>
    refine Tries.recover kept ?_
    intro failure between _
    refine .mono (.report_error failure _ _) ?_
    rintro value after ⟨rfl, usable⟩
    exact yields_error expr usable

theorem Keeps.copyFrom? (occurs : frame.program.Occurs expr) {location : Value} (ty : Ty)
    (before : Activation) (target : policy.Usable before.pass location) :
    policy.Keeps (frame.copyFrom? expr location ty) before fun _ _ => True := by
  unfold Frame.copyFrom?
  split
  · exact .pure trivial
  · refine .bind (Tries.location expr occurs before) ?_
    intro found between steady located
    cases found with
    | error failure => exact .pure trivial
    | ok source =>
      have source_usable := (located source rfl).1
      simp only
      split
      · exact .pure trivial
      · split
        · refine .bind (.lift (.unsafeCastAddr source_usable _)) ?_
          intro cast middle later temporary
          refine .bind (.lift (.copyAddr temporary.1
            (policy.usable_of_steady (steady.trans later) target))) ?_
          intro _ last _ _
          exact .pure trivial
        · simp only [pure_bind]
          refine .bind (.lift (.copyAddr source_usable
            (policy.usable_of_steady steady target))) ?_
          intro _ last _ _
          exact .pure trivial

theorem Keeps.assignWith (occurs : frame.program.Occurs expr) {location : Value}
    (kept : ∀ before, policy.Keeps value before (policy.Yields expr)) (before : Activation)
    (target : policy.Usable before.pass location) :
    policy.Keeps (frame.assignWith expr value location) before fun _ _ => True := by
  unfold Frame.assignWith
  split
  · exact .discard (kept before)
  · refine .check_bind ?_
    intro ty _
    refine .bind (.copyFrom? occurs ty before target) ?_
    intro copied between steady _
    split
    · refine .bind (kept between) ?_
      intro given middle later yields
      exact .lift (.assignValue yields.1
        (policy.usable_of_steady (steady.trans later) target) ty)
    · exact .pure trivial

theorem Keeps.coerceWith (occurs : frame.program.Occurs expr)
    (kept : ∀ before, policy.Keeps value before (policy.Yields expr)) (target : Ty)
    (before : Activation) :
    policy.Keeps (frame.coerceWith expr value target) before
      fun value after => policy.Temporary after.pass value := by
  refine .bind (.lift (.allocStack target)) ?_
  intro room between _ temporary
  refine .bind (.assignWith occurs kept between temporary.1) ?_
  intro _ middle steady _
  exact .lift (.load (policy.usable_of_steady steady temporary.1))

theorem Keeps.argumentWith (occurs : frame.program.Occurs expr)
    (kept : ∀ before, policy.Keeps value before (policy.Yields expr)) (param : Ty)
    (before : Activation) :
    policy.Keeps (frame.argumentWith param expr value) before
      fun value after => policy.Usable after.pass value := by
  unfold Frame.argumentWith
  split
  · exact .mono (.emitLocation expr occurs before) fun _ _ bindable => bindable.1
  · refine .check_bind ?_
    intro coerced _
    split
    · exact .mono (.coerceWith occurs kept param before) fun _ _ temporary => temporary.1
    · exact .mono (kept before) fun _ _ yields => yields.1

theorem Keeps.spill (kept : ∀ before, policy.Keeps value before (policy.Yields expr))
    (before : Activation) :
    policy.Keeps (frame.spill expr value) before
      fun value after => policy.Bindable after.pass value := by
  refine .bind (kept before) ?_
  intro given between _ yields
  refine .check_bind ?_
  intro ty _
  refine .bind (.lift (.allocStack ty)) ?_
  intro room middle steady temporary
  refine .bind (.lift (.store (policy.usable_of_steady steady yields.1) temporary.1)) ?_
  intro _ last later _
  exact .pure (temporary.bindable.of_steady later)

theorem Tries.readMember (occurs : frame.program.Occurs base)
    (kept : ∀ before, policy.Keeps value before (policy.Yields base)) (id : DeclId) (name : String)
    (ty : Ty) (before : Activation) :
    policy.Tries (frame.readMember base value id name ty) before
      fun value after => policy.Temporary after.pass value := by
  have located := Tries.recover (.location base occurs before)
    fun _ between _ => .spill kept between
  refine .bind (.lift located) ?_
  intro record between _ bindable
  refine .check_bind ?_
  intro ty _
  refine .bind (.lift (.lift (.recordMemberAddr bindable.1 id name ty))) ?_
  intro address middle _ temporary
  exact .lift (.lift (.load temporary.1))

theorem Tries.memberWith (occurs : frame.program.Occurs base)
    (kept : ∀ before, policy.Keeps value before (policy.Yields base)) (id : DeclId)
    (before : Activation) :
    policy.Tries (frame.memberWith base value id) before
      fun value after => policy.Temporary after.pass value := by
  refine .ask_bind ?_
  intro decl _
  simp only
  split
  · exact .fail_bind _ _
  · split
    · exact .fail_bind _ _
    · split
      · exact .fail_bind _ _
      · exact .readMember occurs kept id decl.name decl.ty before

/-- How a call lowers its arguments: as many as the callee takes, from left to right. -/
structure Arguments (policy : Policy frame.toJob) (argCheck : List Ty → CheckM Unit)
    (argValues : List Ty → BodyM (List Value)) (count : Nat) : Prop where
  checked : ∀ params, argCheck params = .ok () → params.length = count
  keeps : ∀ params, params.length = count → ∀ before, policy.Keeps (argValues params) before
    fun values after => values.length = count ∧ ∀ value ∈ values, policy.Usable after.pass value

section Calls

variable {argCheck : List Ty → CheckM Unit} {argValues : List Ty → BodyM (List Value)}
  {count : Nat}

/-- A method is called with its receiver, and any other function with its arguments alone. -/
theorem Tries.callWith {id : DeclId} {decl : Decl} {routine : Routine} {funType : FunType}
    {env : GenericEnv} (found : frame.program.decl id = .ok decl)
    (listed : decl.routine? = some routine)
    (callable : (decl.ty.contextualized env).asFunction? = some funType)
    (arguments : policy.Arguments argCheck argValues count) {receiver : List Value}
    (length : receiver.length = if routine.isMember then 1 else 0)
    (usable : ∀ value ∈ receiver, policy.Usable before.pass value) :
    policy.Tries (frame.callWith id funType.params argCheck argValues result receiver) before
      fun value after => policy.Temporary after.pass value := by
  refine .check_bind ?_
  intro _ checked
  have arity := arguments.checked _ checked
  refine .bind (.lift (arguments.keeps _ arity before)) ?_
  intro args middle steady ⟨counted, all⟩
  refine .bind (.lift (.lift (Visits.declare id).maintains)) ?_
  intro function last later declared
  refine .lift (.lift (.apply (policy.usable_declared declared) ?_ ?_ result))
  · intro value inside
    rcases List.mem_append.mp inside with first | rest
    · exact all_usable (steady.trans later) usable value first
    · exact all_usable later all value rest
  · refine Or.inr (Or.inl ⟨id, decl, routine, funType, env, found, listed, declared,
      callable, ?_⟩)
    rw [List.length_append, length, counted, arity]

theorem Tries.methodWith (occurs : frame.program.Occurs base)
    (kept : ∀ before, policy.Keeps value before (policy.Yields base)) {id : DeclId}
    {routine : Routine} (named : frame.method? id = .ok (some routine))
    (arguments : policy.Arguments argCheck argValues count) (before : Activation) :
    policy.Tries (frame.methodWith base value id routine argCheck argValues result) before
      fun value after => policy.Temporary after.pass value := by
  obtain ⟨decl, found, listed⟩ := Frame.decl_of_method? named
  refine .ask_bind ?_
  intro again found_again
  obtain rfl : decl = again := by simpa [found] using found_again
  simp only
  split
  · exact .fail_bind _ _
  · refine .check_bind ?_
    intro ty contextual
    obtain ⟨env, rfl⟩ := Frame.contextualize_eq_ok contextual
    cases callable : (decl.ty.contextualized env).asFunction? with
    | none => exact .fail _
    | some funType =>
      simp only
      split
      next apart =>
        refine .callWith found listed callable arguments ?_ fun _ inside => nomatch inside
        simpa using apart
      next member =>
        have member : routine.isMember = true := by simpa using member
        split
        · refine .bind (.lift (.emitLocation base occurs before)) ?_
          intro location between _ bindable
          exact .callWith found listed callable arguments (by simp [member])
            (by simpa using bindable.1)
        · refine .bind (.lift (kept before)) ?_
          intro receiver between _ yields
          exact .callWith found listed callable arguments (by simp [member])
            (by simpa using yields.1)

theorem Tries.applyWith (occurs : frame.program.Occurs callee)
    (kept : ∀ before, policy.Keeps value before (policy.Yields callee))
    (arguments : policy.Arguments argCheck argValues count) (before : Activation) :
    policy.Tries (frame.applyWith callee value argCheck argValues result) before
      fun value after => policy.Bindable after.pass value := by
  refine .check_bind ?_
  intro ty contextual
  obtain ⟨env, rfl⟩ := Frame.contextualize_eq_ok contextual
  cases callable : (callee.ty.contextualized env).asFunction? with
  | none => exact .fail _
  | some funType =>
    refine .bind (.lift (kept before)) ?_
    intro function between _ ⟨usable, refers⟩
    split
    next failed =>
      exact .pure ⟨policy.usable_error_again result usable failed, isLocal_error result⟩
    next =>
      refine .check_bind ?_
      intro _ checked
      have arity := arguments.checked _ checked
      refine .bind (.lift (arguments.keeps _ arity between)) ?_
      intro args middle steady ⟨counted, all⟩
      refine .mono (.lift (.lift (.apply (policy.usable_of_steady steady usable) all ?_ result)))
        fun _ _ temporary => temporary.bindable
      exact Or.inl ⟨callee, funType, env, occurs, refers.of_grows steady.grows, callable,
        counted.trans arity.symm⟩

end Calls

theorem requireArity_eq_ok {params : List Ty} {args : List Expr}
    (checked : Frame.requireArity params args = .ok ()) : params.length = args.length := by
  unfold Frame.requireArity at checked
  split at checked
  next same => exact same
  next => exact ((check_abort _ _).mp checked).elim

mutual

theorem Tries.value (expr : Expr) (occurs : frame.program.Occurs expr) (before : Activation) :
    policy.Tries (frame.value expr) before (policy.Yields expr) := by
  cases expr with
  | bool note value =>
    exact .pure (yields_literal before _ ⟨rfl, rfl, fun name => by simp [Value.bool]⟩)
  | int note value =>
    exact .pure (yields_literal before _ ⟨rfl, rfl, fun name => by simp [Value.int]⟩)
  | float note value =>
    exact .pure (yields_literal before _ ⟨rfl, rfl, fun name => by simp [Value.float]⟩)
  | string note value =>
    exact .pure (yields_literal before _ ⟨rfl, rfl, fun name => by simp [Value.string]⟩)
  | ref note id => exact .reference note id before
  | member note base id =>
    refine .mono (.memberWith occurs.base ?_ id before) fun _ _ temporary => temporary.yields _
    exact fun between => .emitWith occurs.base between (Tries.value base occurs.base between)
  | call note callee args =>
    have arguments : policy.Arguments (fun params => Frame.requireArity params args)
        (fun params => frame.arguments params args) args.length :=
      ⟨fun _ => requireArity_eq_ok,
        fun params length => Keeps.arguments params args length fun _ => occurs.arg⟩
    rw [Frame.value]
    refine .check_bind ?_
    intro ty _
    cases callee with
    | member calleeNote base id =>
      have base_occurs := occurs.callee.base
      have base_kept (between : Activation) :=
        Keeps.emitWith base_occurs between (Tries.value base base_occurs between)
      refine .check_bind ?_
      intro found named
      cases found with
      | some routine =>
        exact .mono (.methodWith base_occurs base_kept named arguments before)
          fun _ _ temporary => temporary.yields _
      | none =>
        refine .mono (.applyWith occurs.callee ?_ arguments before)
          fun _ _ bindable => bindable.yields _
        intro between
        exact .emitWith occurs.callee between (.mono (.memberWith base_occurs base_kept id between)
          fun _ _ temporary => temporary.yields _)
    | bool | int | float | string | ref | call | assign | addressOf | error =>
      refine .mono (.applyWith occurs.callee ?_ arguments before)
        fun _ _ bindable => bindable.yields _
      exact fun between => .emitWith occurs.callee between
        (Tries.value _ occurs.callee between)
  | assign note target source =>
    refine .bind (.lift (.emitLocation target occurs.target before)) ?_
    intro location between _ bindable
    have source_kept (between : Activation) :=
      Keeps.emitWith occurs.source between (Tries.value source occurs.source between)
    refine .bind (.lift (.assignWith occurs.source source_kept between bindable.1)) ?_
    intro _ last _ _
    exact .pure (yields_literal last _ ⟨rfl, rfl, fun name => by simp [Value.unit]⟩)
  | addressOf note operand =>
    exact .mono (.location operand occurs.operand before) fun _ _ bindable => bindable.yields _
  | error note =>
    exact .pure (yields_error _
      (policy.usable_error _ (Or.inr (Or.inr ⟨_, occurs, Or.inr ⟨note, rfl⟩⟩))))

theorem Keeps.arguments (params : List Ty) (args : List Expr)
    (length : params.length = args.length)
    (occurs : ∀ arg ∈ args, frame.program.Occurs arg) (before : Activation) :
    policy.Keeps (frame.arguments params args) before fun values after =>
      values.length = args.length ∧ ∀ value ∈ values, policy.Usable after.pass value := by
  cases args with
  | nil =>
    rw [List.length_nil, List.length_eq_zero_iff] at length
    subst length
    simp only [Frame.arguments]
    exact .pure ⟨rfl, fun _ inside => nomatch inside⟩
  | cons arg args =>
    cases params with
    | nil => simp at length
    | cons param params =>
      have arg_occurs := occurs arg (List.mem_cons_self ..)
      have arg_kept (between : Activation) :=
        Keeps.emitWith arg_occurs between (Tries.value arg arg_occurs between)
      rw [Frame.arguments]
      refine .bind (.argumentWith arg_occurs arg_kept param before) ?_
      intro first between _ usable
      refine .bind (Keeps.arguments params args (by simpa using length)
        (fun later inside => occurs later (List.mem_cons_of_mem _ inside)) between) ?_
      intro rest last steady ⟨counted, all⟩
      refine .pure ⟨by simp [counted], ?_⟩
      intro value inside
      rcases List.mem_cons.mp inside with rfl | later
      · exact policy.usable_of_steady steady usable
      · exact all value later

end

theorem Keeps.emitValue (expr : Expr) (occurs : frame.program.Occurs expr) (before : Activation) :
    policy.Keeps (frame.emitValue expr) before (policy.Yields expr) :=
  .emitWith occurs before (.value expr occurs before)

theorem Keeps.emitAssign (expr : Expr) (occurs : frame.program.Occurs expr) {location : Value}
    (before : Activation) (target : policy.Usable before.pass location) :
    policy.Keeps (frame.emitAssign expr location) before fun _ _ => True :=
  .assignWith occurs (.emitValue expr occurs) before target

theorem Keeps.emitCoerced (expr : Expr) (occurs : frame.program.Occurs expr) (target : Ty)
    (before : Activation) :
    policy.Keeps (frame.emitCoerced expr target) before
      fun value after => policy.Temporary after.pass value :=
  .coerceWith occurs (.emitValue expr occurs) target before

end Policy

end Lowering
