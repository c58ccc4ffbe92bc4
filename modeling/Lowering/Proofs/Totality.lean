import Lowering.Proofs.Pass.Finishing
import Lowering.Proofs.Reaching

/-
This file shows that lowering an expression always returns, well typed or not: whatever is wrong with
the expression is reported, and the block that is written stays open.
-/

namespace Lowering

open IR

/-- The declaration that an expression itself names. -/
def Expr.named? : Expr → Option DeclId
  | .ref _ id | .member _ _ id => some id
  | _ => none

/-- A callee has its own type, except that a function that is called as a member has its declared one. -/
def Program.calleeTy (program : Program) : Expr → Ty
  | .member note _ id =>
    match program.find? id with
    | some decl => if decl.routine?.isSome then decl.ty else note.ty
    | none => note.ty
  | callee => callee.ty

namespace Program

variable {program : Program} {id : DeclId} {decl : Decl} (found : program.find? id = some decl)
  (note : Note) (base : Expr)

include found

theorem calleeTy_method (isSome : decl.routine?.isSome = true) :
    program.calleeTy (.member note base id) = decl.ty := by
  simp [calleeTy, found, isSome]

theorem calleeTy_member (isNone : decl.routine? = none) :
    program.calleeTy (.member note base id) = note.ty := by
  simp [calleeTy, found, isNone]

end Program

/-- Where the callee has a function type, the arguments are as many as its parameters. -/
def Frame.Counts (frame : Frame) (callee : Expr) (args : List Expr) : Prop :=
  ∀ ty funType, frame.contextualize (frame.program.calleeTy callee) = .ok ty →
    ty.asFunction? = some funType → funType.params.length = args.length

/-- What the expression names is there, and every call in it gives as many arguments as it should. -/
structure Frame.Suits (frame : Frame) (expr : Expr) : Prop where
  there : ∀ inner ∈ expr.walk, ∀ id ∈ inner.named?, id.index < frame.program.size
  counts : ∀ note callee args, .call note callee args ∈ expr.walk → frame.Counts callee args

namespace Frame.Suits

variable {frame : Frame} {expr inner : Expr}

theorem of_mem (suits : frame.Suits expr) (below : inner ∈ expr.walk) : frame.Suits inner where
  there other deeper := suits.there other (Expr.mem_walk_trans expr below deeper)
  counts note callee args deeper :=
    suits.counts note callee args (Expr.mem_walk_trans expr below deeper)

theorem find? {id : DeclId} (suits : frame.Suits expr) (named : expr.named? = some id) :
    ∃ decl, frame.program.find? id = some decl :=
  Program.find?_of_lt (suits.there expr expr.mem_walk_self id named)

theorem call {note : Note} {callee : Expr} {args : List Expr}
    (suits : frame.Suits (.call note callee args)) : frame.Counts callee args :=
  suits.counts note callee args (Expr.mem_walk_self _)

theorem base {note : Note} {id : DeclId} (suits : frame.Suits (.member note expr id)) :
    frame.Suits expr :=
  suits.of_mem (List.mem_cons_of_mem _ expr.mem_walk_self)

theorem operand {note : Note} (suits : frame.Suits (.addressOf note expr)) : frame.Suits expr :=
  suits.of_mem (List.mem_cons_of_mem _ expr.mem_walk_self)

theorem target {note : Note} {value : Expr} (suits : frame.Suits (.assign note expr value)) :
    frame.Suits expr :=
  suits.of_mem (List.mem_cons_of_mem _ (List.mem_append_left _ expr.mem_walk_self))

theorem source {note : Note} {target : Expr} (suits : frame.Suits (.assign note target expr)) :
    frame.Suits expr :=
  suits.of_mem (List.mem_cons_of_mem _ (List.mem_append_right _ expr.mem_walk_self))

theorem callee {note : Note} {args : List Expr} (suits : frame.Suits (.call note expr args)) :
    frame.Suits expr :=
  suits.of_mem (List.mem_cons_of_mem _ (List.mem_append_left _ expr.mem_walk_self))

theorem arg {note : Note} {callee : Expr} {args : List Expr}
    (suits : frame.Suits (.call note callee args)) (listed : expr ∈ args) : frame.Suits expr := by
  refine suits.of_mem (List.mem_cons_of_mem _ (List.mem_append_right _ ?_))
  rw [Expr.walkAll_eq_flatMap]
  exact List.mem_flatMap.mpr ⟨expr, listed, expr.mem_walk_self⟩

end Frame.Suits

/-- The program answers what is asked of it, and the function whose body is lowered is there. -/
structure Frame.Ready (frame : Frame) : Prop where
  complete : frame.program.Complete
  owned : ∃ decl routine, frame.program.find? frame.owner = some decl ∧ decl.routine? = some routine

namespace Frame

variable {frame : Frame} {expr base callee : Expr} {value : BodyM Value}
  {lowered : Attempt Value}

/-- Every type is seen inside the function. -/
theorem Ready.contextualize (ready : frame.Ready) (ty : Ty) :
    ∃ seen, frame.contextualize ty = .ok seen := by
  obtain ⟨decl, routine, found, listed⟩ := ready.owned
  have own : ∃ own, frame.routine = .ok own := by
    refine check_bind_ok ((lift_answer _ _).mpr (Program.decl_eq_ok.mpr found)) ?_
    rw [listed]
    exact ⟨routine, rfl⟩
  obtain ⟨own, given⟩ := own
  exact check_bind_ok given ⟨_, rfl⟩

variable (ready : frame.Ready)

include ready

/-- What an expression denotes is an address, or stands for one. -/
theorem Decides.location (expr : Expr) (suits : frame.Suits expr) :
    frame.Decides (frame.location expr) Value.Addressable := by
  rw [Frame.location.eq_def]
  split
  · exact pure (.error _)
  cases expr with
  | ref note id =>
    obtain ⟨decl, found⟩ := suits.find? rfl
    refine bind (lift (.local? id)) fun held _ => ?_
    cases held with
    | some value =>
      simp only
      split
      next usable => exact pure usable
      next => exact fail _
    | none =>
      refine ask_bind (Program.decl_eq_ok.mpr found) ?_
      split <;> exact fail _
  | member note base id =>
    obtain ⟨decl, found⟩ := suits.find? rfl
    obtain ⟨ty, seen⟩ := ready.contextualize decl.ty
    refine ask_bind (Program.decl_eq_ok.mpr found) ?_
    dsimp only
    split
    · exact fail_bind _ _
    split
    · exact fail_bind _ _
    refine bind (Decides.location base suits.base) fun record usable => check_bind seen ?_
    exact (lift (.build (.recordMemberAddr usable id decl.name ty))).mono fun _ => .of_type
  | addressOf note operand => exact Decides.location operand suits.operand
  | bool | int | float | string | call | assign | error => exact fail _

theorem Finishes.emitLocation (suits : frame.Suits expr) :
    frame.Finishes (frame.emitLocation expr) Value.Addressable :=
  recover_report (.location ready expr suits) _ (.error _)

omit ready in
theorem Decides.captureValues (captures : List DeclId)
    (there : ∀ capture ∈ captures, ∃ own, frame.program.find? capture = some own) :
    frame.Decides (frame.captureValues captures) fun _ => True := by
  induction captures with
  | nil => exact .pure trivial
  | cons capture rest rest_ih =>
    obtain ⟨own, found⟩ := there capture (List.mem_cons_self ..)
    refine bind (lift (.local? capture)) fun held _ => ?_
    cases held with
    | none => exact ask_bind (Program.decl_eq_ok.mpr found) (fail _)
    | some value =>
      refine bind (rest_ih fun later inside => there later (List.mem_cons_of_mem _ inside))
        fun values _ => .pure trivial

/-- A function that is referred to has captures and can be declared. -/
theorem Decides.reference {id : DeclId} (there : ∃ decl, frame.program.find? id = some decl) :
    frame.Decides (frame.reference id) fun _ => True := by
  obtain ⟨decl, found⟩ := there
  refine bind (lift (.local? id)) fun held _ => ?_
  cases held with
  | some value =>
    dsimp only
    split
    next loads =>
      have usable : value.Addressable := Bool.or_eq_true_iff.mpr (Or.inl (Bool.and_eq_true_iff.mp loads).1)
      exact (lift (.build (.load usable))).mono fun _ _ => trivial
    next => exact .pure trivial
  | none =>
    refine ask_bind (Program.decl_eq_ok.mpr found) ?_
    cases kind : decl.kind with
    | function routine =>
      have listed : decl.routine? = some routine := by simp [Decl.routine?, DeclKind.routine?, kind]
      obtain ⟨captures, captured, held⟩ := ready.complete.captures found listed
      obtain ⟨ty, seen⟩ := ready.contextualize decl.ty
      have declares := Finishes.declare ready.complete found listed
      dsimp only
      split
      · exact .pure trivial
      split
      · exact fail_bind _ _
      refine ask_bind captured ?_
      split
      · exact lift declares
      split
      · exact fail_bind _ _
      refine bind (Decides.captureValues captures held) fun args _ => ?_
      refine bind (lift declares) fun function _ => check_bind seen ?_
      exact (lift (.build (.partialApply function args ty))).mono fun _ _ => trivial
    | _ =>
      dsimp only
      split <;> exact fail _

omit ready in
theorem Finishes.emitWith (decides : frame.Decides lowered fun _ => True) :
    frame.Finishes (Frame.emitWith expr lowered) fun _ => True := by
  unfold Frame.emitWith
  split
  · exact .pure trivial
  · exact recover_report decides _ trivial

theorem Finishes.copyFrom? (suits : frame.Suits expr) {location : Value}
    (usable : location.Addressable) (ty : Ty) :
    frame.Finishes (frame.copyFrom? expr location ty) fun _ => True := by
  unfold Frame.copyFrom?
  split
  · exact .pure trivial
  refine bind (Decides.location ready expr suits) fun result found => ?_
  cases result with
  | error failure => exact .pure trivial
  | ok source =>
    have readable := found source rfl
    dsimp only
    split
    · exact .pure trivial
    split
    · refine bind (.build (.unsafeCastAddr readable location.type.ty)) fun cast typed => ?_
      exact bind (.build (.copyAddr usable (.of_type typed))) fun _ _ => .pure trivial
    · rw [pure_bind]
      exact bind (.build (.copyAddr usable readable)) fun _ _ => .pure trivial

section Values

variable (suits : frame.Suits expr) (finishes : frame.Finishes value fun _ => True)

include suits finishes

theorem Finishes.assignWith {location : Value} (usable : location.Addressable) :
    frame.Finishes (frame.assignWith expr value location) fun _ => True := by
  unfold Frame.assignWith
  split
  · exact finishes.discard
  obtain ⟨ty, seen⟩ := ready.contextualize expr.ty
  refine check_bind seen (bind (Finishes.copyFrom? ready suits usable ty) fun copied _ => ?_)
  cases copied with
  | true => exact Finishes.pure trivial
  | false => exact bind finishes fun given _ => .build (.assignValue usable given ty)

theorem Finishes.coerceWith (target : Ty) :
    frame.Finishes (frame.coerceWith expr value target) fun _ => True := by
  refine bind (.build (.allocStack target)) fun temporary typed => ?_
  refine bind (Finishes.assignWith ready suits finishes (.of_type typed)) fun _ _ => ?_
  exact (Finishes.build (.load (.of_type typed))).mono fun _ _ => trivial

theorem Finishes.argumentWith (param : Ty) :
    frame.Finishes (frame.argumentWith param expr value) fun _ => True := by
  unfold Frame.argumentWith
  split
  · exact (Finishes.emitLocation ready suits).mono fun _ _ => trivial
  obtain ⟨ty, seen⟩ := ready.contextualize expr.ty
  have known : ∃ needed, frame.needsCoercion expr param = .ok needed := by
    unfold Frame.needsCoercion
    split
    · exact check_bind_ok seen ⟨_, rfl⟩
    · exact ⟨_, rfl⟩
  obtain ⟨needed, given⟩ := known
  refine check_bind given ?_
  split
  · exact Finishes.coerceWith ready suits finishes param
  · exact finishes

omit suits in
theorem Finishes.spill : frame.Finishes (frame.spill expr value) Value.Addressable := by
  obtain ⟨ty, seen⟩ := ready.contextualize expr.ty
  refine bind finishes fun given _ => check_bind seen ?_
  refine bind (.build (.allocStack ty)) fun temporary typed => ?_
  exact bind (.build (.store (.of_type typed) given)) fun _ _ => .pure (.of_type typed)

theorem Decides.readMember (id : DeclId) (name : String) (ty : Ty) :
    frame.Decides (frame.readMember expr value id name ty) fun _ => True := by
  obtain ⟨seen, given⟩ := ready.contextualize ty
  have record : frame.Finishes ((frame.location expr).recover fun _ => frame.spill expr value)
      Value.Addressable :=
    .recover (.location ready expr suits) fun _ => .spill ready finishes
  refine bind (lift record) fun record usable => check_bind given ?_
  refine bind (lift (.build (.recordMemberAddr usable id name seen))) fun address typed => ?_
  exact (lift (.build (.load (.of_type typed)))).mono fun _ _ => trivial

theorem Decides.memberWith {id : DeclId} (there : ∃ decl, frame.program.find? id = some decl) :
    frame.Decides (frame.memberWith expr value id) fun _ => True := by
  obtain ⟨decl, found⟩ := there
  refine ask_bind (Program.decl_eq_ok.mpr found) ?_
  dsimp only
  split
  · exact fail_bind _ _
  split
  · exact fail_bind _ _
  split
  · exact fail_bind _ _
  exact .readMember ready suits finishes id decl.name decl.ty

end Values

section Calls

variable {argCheck : List Ty → CheckM Unit} {argValues : List Ty → BodyM (List Value)}
  (finishes : frame.Finishes value fun _ => True)
  (arguments : ∀ params, frame.Finishes (argValues params) fun _ => True)

omit finishes in
include arguments in
theorem Decides.callWith {id : DeclId} {decl : Decl} (found : frame.program.find? id = some decl)
    {routine : Routine} (listed : decl.routine? = some routine) {params : List Ty}
    (checked : argCheck params = .ok ()) (result : OperandType) (receiver : List Value) :
    frame.Decides (frame.callWith id params argCheck argValues result receiver) fun _ => True := by
  refine check_bind checked ?_
  refine bind (lift (arguments params)) fun args _ => ?_
  refine bind (lift (.declare ready.complete found listed)) fun function _ => ?_
  exact (lift (.build (.apply function (receiver ++ args) result))).mono fun _ _ => trivial

include finishes arguments

theorem Decides.methodWith (suits : frame.Suits base) {id : DeclId} {decl : Decl}
    (found : frame.program.find? id = some decl) {routine : Routine}
    (listed : decl.routine? = some routine)
    (checked : ∀ ty funType, frame.contextualize decl.ty = .ok ty → ty.asFunction? = some funType →
      argCheck funType.params = .ok ()) (result : OperandType) :
    frame.Decides (frame.methodWith base value id routine argCheck argValues result)
      fun _ => True := by
  obtain ⟨ty, seen⟩ := ready.contextualize decl.ty
  refine ask_bind (Program.decl_eq_ok.mpr found) ?_
  dsimp only
  split
  · exact fail_bind _ _
  refine check_bind seen ?_
  cases callable : ty.asFunction? with
  | none => exact fail _
  | some funType =>
    have called :=
      callWith ready arguments found listed (checked ty funType seen callable) result
    dsimp only
    split
    · exact called []
    split
    · exact bind (lift (.emitLocation ready suits)) fun receiver _ => called [receiver]
    · exact bind (lift finishes) fun receiver _ => called [receiver]

theorem Decides.applyWith (callee : Expr)
    (checked : ∀ ty funType, frame.contextualize callee.ty = .ok ty →
      ty.asFunction? = some funType → argCheck funType.params = .ok ()) (result : OperandType) :
    frame.Decides (frame.applyWith callee value argCheck argValues result) fun _ => True := by
  obtain ⟨ty, seen⟩ := ready.contextualize callee.ty
  refine check_bind seen ?_
  cases callable : ty.asFunction? with
  | none => exact fail _
  | some funType =>
    dsimp only
    refine bind (lift finishes) fun function _ => ?_
    split
    · exact .pure trivial
    refine check_bind (checked ty funType seen callable) ?_
    refine bind (lift (arguments funType.params)) fun args _ => ?_
    exact (lift (.build (.apply function args result))).mono fun _ _ => trivial

end Calls

omit ready in
/-- A call that counts its arguments passes the check. -/
theorem Counts.requireArity {args : List Expr} (counts : frame.Counts callee args) {ty : Ty}
    {funType : FunType} (seen : frame.contextualize (frame.program.calleeTy callee) = .ok ty)
    (callable : ty.asFunction? = some funType) :
    Frame.requireArity funType.params args = .ok () :=
  if_pos (counts ty funType seen callable)

mutual

theorem Decides.value (expr : Expr) (suits : frame.Suits expr) :
    frame.Decides (frame.value expr) fun _ => True := by
  cases expr with
  | bool | int | float | string | error => exact .pure trivial
  | ref note id => exact .reference ready (suits.find? rfl)
  | member note base id =>
    have finishes : frame.Finishes (emitWith base (frame.value base)) fun _ => True :=
      .emitWith (Decides.value base suits.base)
    exact .memberWith ready suits.base finishes (suits.find? rfl)
  | call note callee args =>
    have arguments (params : List Ty) : frame.Finishes (frame.arguments params args) fun _ => True :=
      Finishes.arguments params args fun _ => suits.arg
    obtain ⟨ty, seen⟩ := ready.contextualize note.ty
    rw [Frame.value]
    refine .check_bind seen ?_
    cases callee with
    | member calleeNote base id =>
      obtain ⟨decl, found⟩ := suits.callee.find? rfl
      have base_suits := suits.callee.base
      have finishes : frame.Finishes (emitWith base (frame.value base)) fun _ => True :=
        .emitWith (Decides.value base base_suits)
      have named : frame.method? id = .ok decl.routine? :=
        (lift_answer _ _).mpr ((check_bind _ _ _).mpr ⟨decl, Program.decl_eq_ok.mpr found, rfl⟩)
      refine .check_bind named ?_
      cases listed : decl.routine? with
      | some routine =>
        refine .methodWith ready finishes arguments base_suits found listed ?_ _
        intro ty funType seen
        rw [← Program.calleeTy_method found calleeNote base (by rw [listed]; rfl)] at seen
        exact suits.call.requireArity seen
      | none =>
        refine .applyWith ready (.emitWith (.memberWith ready base_suits finishes ⟨decl, found⟩))
          arguments _ ?_ _
        intro ty funType seen
        refine suits.call.requireArity ?_
        rw [Program.calleeTy_member found calleeNote base listed]
        exact seen
    | bool | int | float | string | ref | call | assign | addressOf | error =>
      refine .applyWith ready (.emitWith (Decides.value _ suits.callee)) arguments _ ?_ _
      intro ty funType seen callable
      exact suits.call.requireArity seen callable
  | assign note target source =>
    have finishes : frame.Finishes (emitWith source (frame.value source)) fun _ => True :=
      .emitWith (Decides.value source suits.source)
    refine .bind (.lift (.emitLocation ready suits.target)) fun location usable => ?_
    refine .bind (.lift (.assignWith ready suits.source finishes usable)) fun _ _ => ?_
    exact .pure trivial
  | addressOf note operand =>
    exact (Decides.location ready operand suits.operand).mono fun _ _ => trivial

theorem Finishes.arguments (params : List Ty) (args : List Expr)
    (suits : ∀ arg ∈ args, frame.Suits arg) :
    frame.Finishes (frame.arguments params args) fun _ => True := by
  cases params with
  | nil =>
    simp only [Frame.arguments]
    exact .pure trivial
  | cons param params =>
    cases args with
    | nil =>
      simp only [Frame.arguments]
      exact .pure trivial
    | cons arg args =>
      have first := suits arg (List.mem_cons_self ..)
      have finishes : frame.Finishes (emitWith arg (frame.value arg)) fun _ => True :=
        .emitWith (Decides.value arg first)
      rw [Frame.arguments]
      refine .bind (.argumentWith ready first finishes param) fun value _ => ?_
      refine .bind (Finishes.arguments params args fun other later =>
        suits other (List.mem_cons_of_mem _ later)) fun values _ => ?_
      exact .pure trivial

end

/-- Whether it is asked for as a value or as a location, an expression is lowered. -/
theorem Finishes.emit (suits : frame.Suits expr) {emit : Frame → Expr → BodyM Value}
    (either : emit ∈ [Frame.emitValue, Frame.emitLocation]) :
    frame.Finishes (emit frame expr) fun _ => True := by
  rcases List.mem_pair.mp either with rfl | rfl
  · exact .emitWith (.value ready expr suits)
  · exact (Finishes.emitLocation ready suits).mono fun _ _ => trivial

end Frame

/--
Whatever an expression is like, lowering it returns, as a value and as a location, at every place in the
body of a function where a block is open, and whatever is bound there. It is enough that what the
expression names is there and that its calls give as many arguments as they should, in a program the
declarations of which were made from ones that were there, with plain names, and where no function is
declared inside itself. What cannot be lowered is reported. The block stays open at its place, with all
that it had, and the other blocks and functions are as they were.
-/
theorem lowering_total {job : Job} (assembled : job.program.Assembled)
    (plain : job.program.PlainNames) (founded : job.program.Founded) (sited : job.program.Sited)
    (grounded : job.program.Grounded) {root id : DeclId} {pass : Pass}
    (inside : job.Inside root id pass) {function : Function} {block : Block}
    (place : pass.builder.At function block) {expr : Expr} (suits : Frame.Suits ⟨job, id⟩ expr)
    (locals : Locals) {emit : Frame → Expr → BodyM Value}
    (either : emit ∈ [Frame.emitValue, Frame.emitLocation]) :
    ∃ value after later longer, emit ⟨job, id⟩ expr ⟨pass, locals⟩ = .ok value after ∧
      after.locals = locals ∧ pass.report.diagnostics <+: after.pass.report.diagnostics ∧
      pass.builder.Lengthens function block after.pass.builder later longer := by
  have complete : job.program.Complete := ⟨plain, founded, sited, grounded, assembled.relies⟩
  have ready : Frame.Ready ⟨job, id⟩ := ⟨complete, inside.routine⟩
  have allotted : job.Allotted pass :=
    (allottedThroughout job plain).holds_inside (fun _ _ _ => trivial) (.start job) inside
  obtain ⟨value, after, done, prolongs, _⟩ :=
    Frame.Finishes.emit ready suits either ⟨pass, locals⟩ ⟨allotted, function, block, place⟩
  obtain ⟨later, longer, lengthens⟩ := prolongs.builder function block place
  exact ⟨value, after, later, longer, done, prolongs.locals, prolongs.report, lengthens⟩

open Assembly in
/-- A function, and another one that takes an argument and has this body. -/
def referring (stmts : List Stmt) : Assembly Unit := do
  let main ← addModule "main"
  let first ← addFunction main "f" [] .unit
  let second ← addFunction main "h" [⟨none, "n", .int⟩] .unit
  setBody first ⟨[], Span.unknown⟩
  setBody second ⟨stmts, Span.unknown⟩

open Assembly in
theorem referring_assembled (stmts : List Stmt) : (referring stmts).built.Assembled := by
  refine Preserves.built ?_
  refine .bind (Offered.addModule _).assembles fun main => ?_
  refine .bind (Offered.addFunction _ _ _ _).assembles fun first => ?_
  refine .bind (Offered.addFunction _ _ _ _).assembles fun second => ?_
  exact .bind (Offered.setBody _ _).assembles fun _ => (Offered.setBody _ _).assembles

/-- The first of the two functions, as it is lowered. -/
def firstFunction (stmts : List Stmt) : Frame :=
  ⟨⟨(referring stmts).built, Options.standard⟩, ⟨1⟩⟩

/-- The pass where the body of the first function begins. -/
def firstPass (stmts : List Stmt) : Pass := (firstFunction stmts).begun ⟨1⟩

/-- What is computed of the two functions tells that the first one is begun at an open block. -/
theorem firstPass_inside {stmts : List Stmt}
    (seen : ((firstFunction stmts).program.find? ⟨0⟩).map
      (fun decl => (decl.kindText, decl.members)) = some ("module", [⟨1⟩, ⟨2⟩]))
    (filled : (firstFunction stmts).routine.toOption.map Routine.isFilled = some true)
    (returns : (((firstFunction stmts).begins ⟨1⟩).run' (Pass.start Options.standard)).isSome = true)
    (defines : ((BuildM.allocStack .unit).run' (firstPass stmts).builder).isSome = true) :
    (firstFunction stmts).Inside ⟨0⟩ ⟨1⟩ (firstPass stmts) ∧
      ∃ function block, (firstPass stmts).builder.At function block := by
  obtain ⟨_, _, defined⟩ := ok_of_run' defines
  obtain ⟨function, block, place, _⟩ := BuildM.run_define defined
  exact ⟨.first seen filled returns, function, block, place⟩

/-- The second function, as the first one refers to it. -/
def secondFunction : Expr := .ref ⟨.function [.int] .unit, Span.unknown⟩ ⟨2⟩

/-- It is called with a parameter of its own, which is not bound in the first function. -/
def unboundCall : Expr :=
  .call ⟨.unit, Span.unknown⟩ secondFunction [.ref ⟨.int, Span.unknown⟩ ⟨3⟩]

theorem suits_unboundCall : (firstFunction []).Suits unboundCall where
  there := by decide +kernel
  counts := by
    intro note callee args below
    obtain ⟨_, rfl, rfl⟩ : note = ⟨.unit, Span.unknown⟩ ∧ callee = secondFunction ∧
        args = [.ref ⟨.int, Span.unknown⟩ ⟨3⟩] := by
      simpa [unboundCall, secondFunction, Expr.walk, Expr.walkAll] using below
    intro ty funType seen callable
    have known : (firstFunction []).contextualize (.function [.int] .unit) =
        .ok (.function [.int] .unit) := rfl
    obtain rfl := Except.ok.inj (known.symm.trans seen)
    obtain rfl := Option.some.inj callable
    rfl

/-- The argument is reported, and the call is lowered nevertheless. -/
theorem lowering_total_referring :
    (firstFunction []).program.Assembled ∧ (firstFunction []).program.PlainNames ∧
      (firstFunction []).program.Founded ∧ (firstFunction []).program.Sited ∧
      (firstFunction []).program.Grounded ∧ (firstFunction []).Inside ⟨0⟩ ⟨1⟩ (firstPass []) ∧
      (firstFunction []).Suits unboundCall ∧
      ∃ function block value after later longer, (firstPass []).builder.At function block ∧
        (firstFunction []).emitValue unboundCall ⟨firstPass [], Table.empty⟩ = .ok value after ∧
        after.locals = Table.empty ∧
        (firstPass []).report.diagnostics <+: after.pass.report.diagnostics ∧
        (firstPass []).builder.Lengthens function block after.pass.builder later longer := by
  have assembled := referring_assembled []
  have plain : (firstFunction []).program.PlainNames := by decide +kernel
  have founded : (firstFunction []).program.Founded := by decide +kernel
  have sited : (firstFunction []).program.Sited := by decide +kernel
  have owning : (firstFunction []).program.OwnsLocals := by decide +kernel
  have grounded := (owning.ranks founded).grounded
  have begun : (firstFunction []).Inside ⟨0⟩ ⟨1⟩ (firstPass []) ∧
      ∃ function block, (firstPass []).builder.At function block :=
    firstPass_inside (by decide +kernel) (by decide +kernel) (by decide +kernel) (by decide +kernel)
  obtain ⟨inside, function, block, place⟩ := begun
  obtain ⟨value, after, later, longer, whole⟩ := lowering_total assembled plain founded sited
    grounded inside place suits_unboundCall Table.empty (List.mem_cons_self ..)
  exact ⟨assembled, plain, founded, sited, grounded, inside, suits_unboundCall, function, block,
    value, after, later, longer, place, whole⟩

/-- Why a run stopped, if it did. -/
def stopped? {E S A : Type} : EStateM.Result E S A → Option E
  | .ok .. => none
  | .error error _ => some error

theorem error_of_stopped? {E S A : Type} {result : EStateM.Result E S A} {error : E}
    (stops : stopped? result = some error) : ∃ after, result = .error error after := by
  cases result with
  | ok => cases stops
  | error own after => exact ⟨after, congrArg (EStateM.Result.error · after) (Option.some.inj stops)⟩

/-- With this statement in the second function, a reference to it stops the lowering of the first. -/
structure ReferenceStops (stmt : Stmt) (error : QueryError) : Prop where
  assembled : (firstFunction [stmt]).program.Assembled
  plain : (firstFunction [stmt]).program.PlainNames
  inside : (firstFunction [stmt]).Inside ⟨0⟩ ⟨1⟩ (firstPass [stmt])
  place : ∃ function block, (firstPass [stmt]).builder.At function block
  suits : (firstFunction [stmt]).Suits secondFunction
  stops : ∃ after, (firstFunction [stmt]).emitValue secondFunction ⟨firstPass [stmt], Table.empty⟩ =
    .error (.query error) after

/-- The second function refers to what is not there, or it is declared inside itself. -/
def stopping : List (Stmt × QueryError) :=
  [(.expr (.ref ⟨.unit, Span.unknown⟩ ⟨9⟩), .dangling ⟨9⟩), (.decl ⟨2⟩, .endless ⟨2⟩)]

theorem stopping_stops : ∀ stop ∈ stopping, ReferenceStops stop.1 stop.2 := by
  have plain : ∀ stop ∈ stopping, (firstFunction [stop.1]).program.PlainNames := by decide +kernel
  have seen : ∀ stop ∈ stopping, ((firstFunction [stop.1]).program.find? ⟨0⟩).map
      (fun decl => (decl.kindText, decl.members)) = some ("module", [⟨1⟩, ⟨2⟩]) := by
    decide +kernel
  have filled : ∀ stop ∈ stopping,
      (firstFunction [stop.1]).routine.toOption.map Routine.isFilled = some true := by
    decide +kernel
  have returns : ∀ stop ∈ stopping, (((firstFunction [stop.1]).begins ⟨1⟩).run'
      (Pass.start Options.standard)).isSome = true := by decide +kernel
  have defines : ∀ stop ∈ stopping,
      ((BuildM.allocStack .unit).run' (firstPass [stop.1]).builder).isSome = true := by
    decide +kernel
  have there : ∀ stop ∈ stopping, 2 < (firstFunction [stop.1]).program.size := by decide +kernel
  have stops : ∀ stop ∈ stopping, stopped? ((firstFunction [stop.1]).emitValue secondFunction
      ⟨firstPass [stop.1], Table.empty⟩) = some (.query stop.2) := by
    decide +kernel
  intro stop listed
  obtain ⟨inside, place⟩ := firstPass_inside (seen stop listed) (filled stop listed)
    (returns stop listed) (defines stop listed)
  refine ⟨referring_assembled _, plain stop listed, inside, place, ⟨?_, ?_⟩,
    error_of_stopped? (stops stop listed)⟩
  · intro inner below id named
    obtain rfl := List.mem_singleton.mp below
    obtain rfl := Option.some.inj named
    exact there stop listed
  · intro note callee args below
    cases List.mem_singleton.mp below

/-- A reference to a function asks for its captures, and those are not always found. -/
theorem referring_stops :
    ReferenceStops (.expr (.ref ⟨.unit, Span.unknown⟩ ⟨9⟩)) (.dangling ⟨9⟩) ∧
      ReferenceStops (.decl ⟨2⟩) (.endless ⟨2⟩) :=
  ⟨stopping_stops _ (List.mem_cons_self ..), stopping_stops _ (List.mem_of_mem_tail
    (List.mem_cons_self ..))⟩

end Lowering
