import Lowering.Proofs.Pass.Calling
import Lowering.Proofs.Program.Assembled

/-
This file shows that lowering an expression writes its calls once and in their order. An expression is
tried as a location before it is lowered as a value, but what denotes a location makes no call.
-/

namespace Lowering

open IR

namespace Frame

variable {frame : Frame} {expr base callee : Expr} {value : BodyM Value}
  {lowered : Attempt Value}

/-- An expression that denotes a location makes no call. -/
theorem Ventures.location {premise : Prop} (expr : Expr) (sound : frame.program.Sound expr) :
    frame.Ventures premise (frame.location expr) [] fun value =>
      value.isError = false ∧ expr.calls = [] := by
  rw [Frame.location.eq_def, sound.isError]
  simp only [Bool.false_eq_true, if_false]
  cases expr with
  | ref note id =>
    refine idle_bind (lift (.local? id)) fun found => ?_
    cases found with
    | some value =>
      simp only
      split
      · exact pure fun given => ⟨given.2 value rfl, rfl⟩
      · exact fail _
    | none =>
      refine ask_bind fun decl _ => ?_
      split <;> exact fail _
  | member note base id =>
    refine ask_bind fun decl _ => ?_
    split
    · exact fail_bind _ _
    split
    · exact fail_bind _ _
    refine idle_bind (Ventures.location base sound.base) fun record => check_bind fun ty _ => ?_
    exact (lift (.idle (.recordMemberAddr record id decl.name ty))).imp
      fun given _ met => ⟨met, given.2.2⟩
  | addressOf note operand => exact Ventures.location operand sound.operand
  | bool | int | float | string | call | assign | error => exact fail _

/-- An expression that denotes no location leaves everything as it is. -/
theorem Performs.location {premise : Prop} (sound : frame.program.Sound expr) :
    frame.Performs premise (frame.location expr).run [] fun result =>
      ∀ value, result = .ok value → value.isError = false ∧ expr.calls = [] where
  goes := (Ventures.location expr sound : frame.Ventures premise _ _ _).goes
  calls before result after holds clean done same := by
    cases result with
    | ok value =>
      obtain ⟨calls, met⟩ := (Ventures.location expr sound).calls _ _ _ holds clean done same
      exact ⟨calls, fun _ same => Except.ok.inj same ▸ met⟩
    | error failure =>
      obtain rfl := (run_location.mp done).eq_of_error
      exact ⟨.refl frame _, nofun⟩

theorem Performs.emitLocation {premise : Prop} (sound : frame.program.Sound expr) :
    frame.Performs premise (frame.emitLocation expr) expr.calls fun value => value.isError = false := by
  refine .recover (.location sound) (fun value _ found => ?_) fun failure => .report _ _ _
  exact (found value rfl).symm

theorem Ventures.captureValues {premise : Prop} (captures : List DeclId) :
    frame.Ventures premise (frame.captureValues captures) [] fun _ => True := by
  induction captures generalizing premise with
  | nil => exact .pure fun _ => trivial
  | cons capture rest rest_ih =>
    refine idle_bind (lift (.local? capture)) fun found => ?_
    cases found with
    | none => exact ask_bind fun decl _ => fail _
    | some value => exact idle_bind rest_ih fun values => .pure fun _ => trivial

theorem Ventures.reference {premise : Prop} (id : DeclId) :
    frame.Ventures premise (frame.reference id) [] fun value => value.isError = false := by
  refine idle_bind (lift (.local? id)) fun found => ?_
  cases found with
  | some value =>
    dsimp only
    split
    · exact lift (.idle (.load value))
    · exact .pure fun given => given.2 value rfl
  | none =>
    refine ask_bind fun decl _ => ?_
    cases decl.kind with
    | function routine =>
      dsimp only
      split
      · exact .pure fun _ => rfl
      split
      · exact fail_bind _ _
      refine ask_bind fun captures _ => ?_
      split
      · exact lift (.declare id)
      split
      · exact fail_bind _ _
      refine idle_bind (Ventures.captureValues captures) fun args => ?_
      refine idle_bind (lift (.declare id)) fun function => check_bind fun ty _ => ?_
      exact lift (.idle (.partialApply function args ty))
    | _ =>
      dsimp only
      split <;> exact fail _

theorem Performs.emitWith {premise : Prop} (sound : frame.program.Sound expr)
    (ventures : frame.Ventures premise lowered expr.calls fun value => value.isError = false) :
    frame.Performs premise (Frame.emitWith expr lowered) expr.calls fun value =>
      value.isError = false := by
  unfold Frame.emitWith
  rw [sound.isError]
  exact recover_report ventures _ _

/-- What is copied denotes a location, and what is not copied has not been lowered yet. -/
theorem Performs.copyFrom? {premise : Prop} (sound : frame.program.Sound expr) (location : Value)
    (ty : Ty) :
    frame.Performs premise (frame.copyFrom? expr location ty) [] fun copied =>
      copied = true → expr.calls = [] := by
  unfold Frame.copyFrom?
  split
  · exact .pure nofun
  refine idle_bind (.location sound) fun found => ?_
  cases found with
  | error failure => exact .pure nofun
  | ok source =>
    dsimp only
    split
    · exact .pure nofun
    split
    · refine idle_bind (.idle (.unsafeCastAddr source location.type.ty)) fun cast => ?_
      refine idle_bind (.idle (.copyAddr cast location)) fun _ => .pure fun given _ => ?_
      exact (given.1.1.2 source rfl).2
    · rw [pure_bind]
      refine idle_bind (.idle (.copyAddr source location)) fun _ => .pure fun given _ => ?_
      exact (given.1.2 source rfl).2

section Values

variable (sound : frame.program.Sound expr)
  (performs : frame.Performs True value expr.calls fun value => value.isError = false)

include sound performs

theorem Performs.assignWith {premise : Prop} (location : Value) :
    frame.Performs premise (frame.assignWith expr value location) expr.calls fun _ => True := by
  unfold Frame.assignWith
  split
  · exact performs.always.discard
  refine check_bind fun ty _ => idle_bind (.copyFrom? sound location ty) fun copied => ?_
  cases copied with
  | true => exact (Performs.pure fun _ => trivial).congr fun given => (given.2 rfl).symm
  | false => exact performs.always.bind_idle fun given => .idle (.assignValue given location ty)

theorem Performs.coerceWith {premise : Prop} (target : Ty) :
    frame.Performs premise (frame.coerceWith expr value target) expr.calls fun value =>
      value.isError = false := by
  refine idle_bind (.idle (.allocStack target)) fun temporary => ?_
  exact (Performs.assignWith sound performs temporary).bind_idle fun _ => .idle (.load temporary)

theorem Performs.argumentWith {premise : Prop} (param : Ty) :
    frame.Performs premise (frame.argumentWith param expr value) expr.calls fun value =>
      value.isError = false := by
  unfold Frame.argumentWith
  split
  · exact .emitLocation sound
  refine check_bind fun coerced _ => ?_
  split
  · exact .coerceWith sound performs param
  · exact performs.always

omit sound in
theorem Performs.spill {premise : Prop} :
    frame.Performs premise (frame.spill expr value) expr.calls fun value => value.isError = false := by
  refine performs.always.bind_idle fun given => check_bind fun ty _ => ?_
  refine idle_bind (.idle (.allocStack ty)) fun temporary => ?_
  exact idle_bind (.idle (.store given temporary)) fun _ => .pure fun given => given.1.2

theorem Ventures.readMember {premise : Prop} (id : DeclId) (name : String) (ty : Ty) :
    frame.Ventures premise (frame.readMember expr value id name ty) expr.calls fun value =>
      value.isError = false := by
  have record {premise : Prop} : frame.Performs premise
      ((frame.location expr).recover fun _ => frame.spill expr value) expr.calls fun value =>
        value.isError = false :=
    .recover (.location sound) (fun value _ found => (found value rfl).symm) fun _ => .spill performs
  refine (lift record).bind_idle fun record => check_bind fun ty _ => ?_
  refine idle_bind (lift (.idle (.recordMemberAddr record id name ty))) fun address => ?_
  exact lift (.idle (.load address))

theorem Ventures.memberWith {premise : Prop} (id : DeclId) :
    frame.Ventures premise (frame.memberWith expr value id) expr.calls fun value =>
      value.isError = false := by
  refine ask_bind fun decl _ => ?_
  dsimp only
  split
  · exact fail_bind _ _
  split
  · exact fail_bind _ _
  split
  · exact fail_bind _ _
  exact .readMember sound performs id decl.name decl.ty

end Values

section Calls

variable {call : Expr} {argCheck : List Ty → CheckM Unit} {argValues : List Ty → BodyM (List Value)}
  {argCalls : List Expr} {result : OperandType}
  (performs : frame.Performs True value base.calls fun value => value.isError = false)
  (arguments : ∀ params, argCheck params = .ok () →
    frame.Performs True (argValues params) argCalls fun _ => True)

omit performs in
include arguments in
theorem Ventures.callWith {premise : Prop} (id : DeclId) (params : List Ty)
    (receiver : List Value) (returns : premise → frame.Returns call result) :
    frame.Ventures premise (frame.callWith id params argCheck argValues result receiver)
      (argCalls ++ [call]) fun value => value.isError = false := by
  refine check_bind fun _ checked => ?_
  refine bind (lift (arguments _ checked).always) fun args => ?_
  refine idle_bind (lift (.declare id)) fun function => ?_
  exact lift (.build (.apply function (receiver ++ args) result)
    fun given => .cons (returns given.1.1) .nil)

include performs arguments

/-- A call that is written stands after those of its arguments. -/
theorem Ventures.methodWith {premise : Prop} (sound : frame.program.Sound base) (id : DeclId)
    {routine : Routine} (member : routine.isMember = true)
    (returns : premise → frame.Returns call result) :
    frame.Ventures premise (frame.methodWith base value id routine argCheck argValues result)
      (base.calls ++ argCalls ++ [call]) fun value => value.isError = false := by
  refine ask_bind fun decl _ => ?_
  dsimp only
  split
  · exact fail_bind _ _
  refine check_bind fun ty _ => ?_
  cases ty.asFunction? with
  | none => exact fail _
  | some funType =>
    dsimp only
    rw [List.append_assoc, member]
    split
    · contradiction
    split
    · exact bind (lift (.emitLocation sound)) fun receiver =>
        callWith arguments id _ [receiver] fun given => returns given.1
    · exact bind (lift performs.always) fun receiver =>
        callWith arguments id _ [receiver] fun given => returns given.1

/-- The arguments come after what is called. -/
theorem Ventures.applyWith {premise : Prop} (callee : Expr)
    (returns : premise → frame.Returns call result) :
    frame.Ventures premise (frame.applyWith callee value argCheck argValues result)
      (base.calls ++ argCalls ++ [call]) fun value => value.isError = false := by
  refine check_bind fun ty _ => ?_
  cases ty.asFunction? with
  | none => exact fail _
  | some funType =>
    dsimp only
    rw [List.append_assoc]
    refine bind (lift performs.always) fun function => ?_
    split
    next flawed =>
      refine never _ fun given => ?_
      rw [given.2] at flawed
      cases flawed
    refine check_bind fun _ checked => ?_
    refine bind (lift (arguments _ checked).always) fun args => ?_
    exact lift (.build (.apply function args result) fun given => .cons (returns given.1.1) .nil)

end Calls

mutual

theorem Ventures.value {premise : Prop} (expr : Expr) (sound : frame.program.Sound expr) :
    frame.Ventures premise (frame.value expr) expr.calls fun value => value.isError = false := by
  cases expr with
  | bool | int | float | string => exact .pure fun _ => rfl
  | ref note id => exact .reference id
  | member note base id =>
    exact .memberWith sound.base (.emitWith sound.base (Ventures.value base sound.base)) id
  | call note callee args =>
    have arguments (params : List Ty) (checked : requireArity params args = .ok ()) :
        frame.Performs True (frame.arguments params args) (Expr.callsAll args) fun _ => True :=
      Performs.arguments params args (Policy.requireArity_eq_ok checked) fun _ => sound.arg
    rw [Frame.value]
    refine .check_bind fun ty seen => ?_
    cases callee with
    | member calleeNote base id =>
      have base_sound := sound.callee.base
      have performs : frame.Performs True (emitWith base (frame.value base)) base.calls fun value =>
          value.isError = false :=
        .emitWith base_sound (Ventures.value base base_sound)
      refine .check_bind fun found named => ?_
      cases found with
      | some routine =>
        have member := sound.isMember ((lift_answer _ _).mp named)
        exact .methodWith performs arguments base_sound id member fun _ => ⟨ty, seen, rfl⟩
      | none =>
        exact .applyWith (.emitWith sound.callee (.memberWith base_sound performs id)) arguments _
          fun _ => ⟨ty, seen, rfl⟩
    | bool | int | float | string | ref | call | assign | addressOf | error =>
      exact .applyWith (.emitWith sound.callee (Ventures.value _ sound.callee)) arguments _
        fun _ => ⟨ty, seen, rfl⟩
  | assign note target source =>
    have performs : frame.Performs True (emitWith source (frame.value source)) source.calls
        fun value => value.isError = false :=
      .emitWith sound.source (Ventures.value source sound.source)
    refine .bind (.lift (.emitLocation sound.target)) fun location => ?_
    exact .bind_idle (.lift (.assignWith sound.source performs location)) fun _ => .pure fun _ => rfl
  | addressOf note operand => exact .settle (.location operand sound.operand)
  | error note => exact sound.not_error.elim

theorem Performs.arguments {premise : Prop} (params : List Ty) (args : List Expr)
    (length : params.length = args.length) (sound : ∀ arg ∈ args, frame.program.Sound arg) :
    frame.Performs premise (frame.arguments params args) (Expr.callsAll args) fun _ => True := by
  cases args with
  | nil =>
    rw [List.length_nil, List.length_eq_zero_iff] at length
    subst length
    simp only [Frame.arguments]
    exact .pure fun _ => trivial
  | cons arg args =>
    cases params with
    | nil => cases length
    | cons param params =>
      have first_sound := sound arg (List.mem_cons_self ..)
      have first : frame.Performs True (emitWith arg (frame.value arg)) arg.calls fun value =>
          value.isError = false :=
        .emitWith first_sound (Ventures.value arg first_sound)
      rw [Frame.arguments]
      refine .bind (.argumentWith first_sound first param) fun given => ?_
      refine .bind_idle (Performs.arguments params args (Nat.succ.inj length)
        fun other later => sound other (List.mem_cons_of_mem _ later)) fun rest => ?_
      exact .pure fun _ => trivial

end

/--
If the value of an expression is emitted and nothing is reported, the calls that are written are those
of the expression, each once and in order, and each returns the type of its expression.
-/
theorem emitValue_calls (sound : frame.program.Sound expr) {before after : Activation} {value : Value}
    (clean : ∀ id value, before.locals.get? id = some value → value.isError = false)
    (done : frame.emitValue expr before = .ok value after)
    (silent : after.pass.report = before.pass.report) :
    ∃ written, before.pass.builder.Writes written after.pass.builder ∧
      List.Forall₂ frame.Returns expr.calls (Instruction.applied written) := by
  have performs : frame.Performs True (frame.emitValue expr) expr.calls fun value =>
      value.isError = false :=
    .emitWith sound (.value expr sound)
  exact (performs.calls _ _ _ trivial clean done silent).1

end Frame

open Assembly in
/-- A receiver is made by a call, and so is the base of a member. -/
def chaining : Assembly Unit := do
  let main ← addModule "main"
  let pair ← addProduct main "Pair"
  let x ← addStoredProperty pair "x" .int
  let get ← addMethod pair "get" [⟨none, "n", .int⟩] .int false
  let ty ← ask (·.declaredType pair)
  let make ← addFunction main "make" [⟨none, "n", .int⟩] ty
  let sum ← addFunction main "sum" [⟨none, "a", .int⟩, ⟨none, "b", .int⟩] .int
  let outer ← addFunction main "outer" [] .int
  let one := Expr.int ⟨.int, Span.unknown⟩ 1
  let made := Expr.ofCall (← ask (·.refExpr make Span.unknown)) [one] Span.unknown
  let method ← ask (·.memberExpr made get Span.unknown)
  let property ← ask (·.memberExpr made x Span.unknown)
  let first := Expr.ofCall method [one] Span.unknown
  let whole := Expr.ofCall (← ask (·.refExpr sum Span.unknown)) [first, property] Span.unknown
  setBody outer ⟨[.expr whole], Span.unknown⟩

/-- An empty block is open, and no local is bound. -/
def Activation.fresh : Activation :=
  let function := (Function.declared "outer" ⟨[], .object .int⟩).addBlock []
  ⟨⟨⟨⟨"main", [function.2], []⟩, some ⟨"outer", function.1.label⟩⟩, Names.empty, Report.empty⟩,
    Table.empty⟩

theorem emitValue_calls_chaining :
    ∃ decl expr value after, chaining.built.find? ⟨12⟩ = some decl ∧ decl.exprs.head? = some expr ∧
      chaining.built.Sound expr ∧ expr.calls.map (·.ty.text) = ["Pair", "Int", "Pair", "Int"] ∧
      (∀ id value, Activation.fresh.locals.get? id = some value → value.isError = false) ∧
      Frame.emitValue ⟨⟨chaining.built, Options.standard⟩, ⟨12⟩⟩ expr Activation.fresh =
        .ok value after ∧
      after.pass.report = Activation.fresh.pass.report ∧
      ∃ written, Activation.fresh.pass.builder.Writes written after.pass.builder ∧
        List.Forall₂ (Frame.Returns ⟨⟨chaining.built, Options.standard⟩, ⟨12⟩⟩) expr.calls
          (Instruction.applied written) := by
  let emit (expr : Expr) :=
    Frame.emitValue ⟨⟨chaining.built, Options.standard⟩, ⟨12⟩⟩ expr Activation.fresh
  have seen : ((chaining.built.find? ⟨12⟩).bind (·.exprs.head?)).map (fun expr =>
      (decide (∀ inner ∈ expr.walk, Program.fails inner = false),
        decide (∀ inner ∈ expr.walk, chaining.built.dispatches inner = true),
        expr.calls.map (·.ty.text), match emit expr with
          | .ok _ after => some after.pass.report
          | .error _ _ => none)) =
        some (true, true, ["Pair", "Int", "Pair", "Int"], some Report.empty) := by
    decide +kernel
  obtain ⟨expr, held, seen⟩ := Option.map_eq_some_iff.mp seen
  obtain ⟨decl, found, listed⟩ := Option.bind_eq_some_iff.mp held
  obtain ⟨checked, seen⟩ := Prod.mk.inj seen
  obtain ⟨dispatched, seen⟩ := Prod.mk.inj seen
  obtain ⟨calls, seen⟩ := Prod.mk.inj seen
  have sound : chaining.built.Sound expr := ⟨of_decide_eq_true checked, of_decide_eq_true dispatched⟩
  have clean (id : DeclId) (value : Value) (bound : Activation.fresh.locals.get? id = some value) :
      value.isError = false := by
    cases bound
  cases done : emit expr with
  | error => simp [done] at seen
  | ok value after =>
    rw [done] at seen
    have silent := Option.some.inj seen
    exact ⟨decl, expr, value, after, found, listed, sound, calls, clean, done, silent,
      Frame.emitValue_calls sound clean done silent⟩

end Lowering
