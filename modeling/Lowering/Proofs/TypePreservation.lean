import Lowering.Proofs.Pass.Descent
import Lowering.Proofs.Typing.Entry
import Lowering.Proofs.Typing.Signed
import Lowering.Proofs.Typing.Statement

/-
This file shows that lowering preserves types: in every activation that a body is lowered in,
values, locations and arguments have the types of the expressions that they come from.
-/

namespace Lowering

open IR

/--
The activations in which the body of a function is lowered, from its entry on. Whatever lowers the
declarations inside the body does not matter.
-/
inductive Frame.Reached (frame : Frame) : Activation → Prop
  | entered {routine : Routine} {name : String} {signature : Signature} {before after : Pass}
    {locals : Locals} (owned : frame.routine = .ok routine) (ordinary : routine.isBuiltin = false)
    (signed : frame.toJob.signature frame.owner = .ok signature)
    (done : frame.toJob.enter frame.owner routine name signature before = .ok locals after) :
    frame.Reached ⟨after, locals⟩
  | stmt {nested : DeclId → PassM Unit} {stmt : Stmt} {flow : Flow} {before after : Activation}
    (reached : frame.Reached before)
    (done : frame.emitStmt nested stmt before = .ok flow after) : frame.Reached after
  /-- The variables of a pattern are there before its initializer. -/
  | variable {id : DeclId} {outer : Decl} {location : Value} {before after : Activation}
    (reached : frame.Reached before) (listed : outer ∈ frame.program.decls.toList)
    (named : id ∈ outer.introduced) (done : frame.emitLocalVar id before = .ok location after) :
    frame.Reached after
  /-- Within an expression, and within a nested declaration, the locals stay as they are. -/
  | step {A : Type} {step : PassM A} {value : A} {before after : Activation}
    (reached : frame.Reached before)
    (done : (liftM step : BodyM A) before = .ok value after) : frame.Reached after

namespace Frame

variable {frame : Frame} {here : DeclId → Prop}

/-- What a body binds has the type of its declaration, which is never a receiver. -/
theorem Introduces.typesValue {id : DeclId} {value : Value} (typed : frame.program.Typed)
    (introduces : frame.Introduces here id value) : frame.program.TypesValue id value := by
  have located {decl : Decl} {ty : Ty} (found : frame.program.find? id = some decl)
      (base : decl.ty.base = decl.ty) (seen : frame.contextualize decl.ty = .ok ty)
      (same : value.type = .address ty) : frame.program.TypesValue id value := by
    refine ⟨decl, found, Or.inr ?_⟩
    rw [same, base, frame.contextualize_eq_self typed.monomorphic seen]
    rfl
  cases introduces with
  | failed found _ _ error => exact ⟨_, found, Or.inl error⟩
  | «variable» found brought stored seen given =>
    obtain ⟨_, outer, _, present, named⟩ := brought
    have other := typed.binds outer (Program.mem_decls present) id named
    exact located found (typed.borrows.base_eq found stored other) seen given.1
  | closure found listed _ _ _ seen given =>
    exact located found (typed.signed.base_eq found listed) seen given.1

/-- Every local has the type of its declaration. -/
theorem Reached.typesLocals (typed : frame.program.Typed) {activation : Activation}
    (reached : frame.Reached activation) : frame.program.TypesLocals activation.locals := by
  let kept := Invariant.unconditional frame.toJob
  have footing : kept.Footing frame.program.TypesLocals fun _ => True :=
    .of_free (Invariant.unconditional_free _) fun bound introduces =>
      bound.insert (introduces.typesValue typed)
  induction reached with
  | entered owned ordinary signed done =>
    obtain ⟨decl, found, listed⟩ := decl_of_routine owned
    exact Job.enter_typed typed (Program.decl_eq_ok.mp found) listed ordinary signed done
  | @stmt nested stmt _ _ _ _ done reached_ih =>
    have below (id : DeclId) : kept.Keeps (nested id) fun _ => True :=
      ⟨fun _ _ _ _ _ => ⟨trivial, trivial⟩, fun _ _ _ _ _ => trivial⟩
    have continues := kept.continues_emitStmt footing below stmt fun _ _ => trivial
    exact (continues.ok _ _ _ ⟨trivial, reached_ih⟩ done).1.2
  | «variable» _ listed named done reached_ih =>
    obtain ⟨place, present⟩ := Program.exists_find?_of_mem listed
    have continues := kept.continues_emitLocalVar footing ⟨place, _, trivial, present, named⟩
    exact (continues.ok _ _ _ ⟨trivial, reached_ih⟩ done).1.2
  | step _ done reached_ih =>
    obtain ⟨pass, _, rfl⟩ := (lift_pass _ _ _ _).mp done
    exact reached_ih

end Frame

namespace Job

variable {job : Job} {nested : DeclId → PassM Unit} {id : DeclId} {decl : Decl}
  {routine : Routine} {body : Body} {before after : Pass}

/-- The body of a function is lowered in an activation that is reached. -/
theorem emitRoutine_reaches (found : job.program.decl id = .ok decl)
    (listed : decl.routine? = some routine) (given : routine.body = some body)
    (ordinary : routine.isBuiltin = false) (formed : before.builder.module.WellFormed)
    (holds : (naming job).Holds before)
    (done : job.emitRoutine nested id before = .ok () after) :
    ∃ start last, Frame.Reached ⟨job, id⟩ start ∧
      Frame.emitBody ⟨job, id⟩ nested routine start = .ok () last := by
  obtain ⟨name, function, middle, last, _, _, _, _, signed, _, _, filled, _⟩ :=
    run_emitRoutine found listed given ordinary formed holds done
  rw [fill_eq_enter] at filled
  obtain ⟨locals, between, enters, filled⟩ := (run_bind _ _ _ _ _).mp filled
  obtain ⟨ending, ran, _⟩ := (run_activate _ _ _ _ _).mp filled
  have owned : Frame.routine ⟨job, id⟩ = .ok routine := Frame.routine_eq_ok found listed
  exact ⟨_, ending, .entered owned ordinary signed enters, ran⟩

end Job

/--
A value has the type of its expression, and a location is the address of one of the type, without
inout. An argument has the type of its parameter if its own type is that, or if it is packed into a
container.
-/
theorem preserves_types {frame : Frame}
    (assembled : frame.program.Assembled) (monomorphic : frame.program.Monomorphic)
    (borrows : frame.program.BorrowsOutermost) (binds : frame.program.BindsNoReceiver)
    {activation : Activation} (reached : frame.Reached activation) :
    (∀ expr, frame.program.Types expr → frame.program.SparesReceivers expr →
      (∀ value after, frame.emitValue expr activation = .ok value after →
        value.Has (.lower expr.ty)) ∧
      (∀ value after, (frame.location expr).run activation = .ok (.ok value) after →
        value.Has (.address expr.ty.base)) ∧
      ∀ value after, frame.emitLocation expr activation = .ok value after →
        value.Has (.address expr.ty.base)) ∧
    ∀ params args values after,
      (∀ arg ∈ args, frame.program.Types arg ∧ frame.program.SparesReceivers arg) →
      List.Forall₂ (fun arg param => arg.ty = param ∨ param.isExistential = true) args params →
      frame.arguments params args activation = .ok values after →
        List.Forall₂ (fun value param => value.Has (.lower param)) values params := by
  have typed : frame.program.Typed := ⟨assembled.signed, monomorphic, borrows, binds⟩
  have bound := reached.typesLocals typed
  let kept := Invariant.unconditional frame.toJob
  have covers : kept.Covers activation.locals := fun _ _ _ _ _ => trivial
  refine ⟨fun expr types spares => ?_, ?_⟩
  · have judged : frame.program.Judges activation.locals expr := ⟨typed, bound, types, spares⟩
    refine ⟨?_, ?_, ?_⟩
    · intro value after done
      exact ((kept.emitValue covers expr).ok activation value after ⟨trivial, rfl⟩ done).2.typed judged
    · intro value after done
      exact ((kept.location expr).ok activation _ after ⟨trivial, rfl⟩ done).2 value rfl judged
    · intro value after done
      exact ((kept.emitLocation expr).ok activation value after ⟨trivial, rfl⟩ done).2 judged
  · intro params args values after all fitting done
    obtain ⟨count, each⟩ :=
      ((kept.arguments covers params args).ok activation values after ⟨trivial, rfl⟩ done).2
    obtain ⟨same, fits⟩ := List.forall₂_iff_get.mp fitting
    refine List.forall₂_iff_get.mpr ⟨by rw [count, same, Nat.min_self], ?_⟩
    intro place inside within
    have passed : place < args.length := same ▸ within
    have arg := List.getElem_mem passed
    refine each place _ _ args[place] (List.getElem?_eq_getElem inside)
      (List.getElem?_eq_getElem within) (List.getElem?_eq_getElem passed) ?_
      (fits place passed within)
    exact ⟨typed, bound, (all _ arg).1, (all _ arg).2⟩

namespace Frame

/-- What a step would do as the first one of a body. -/
def first {A : Type} (frame : Frame) (step : BodyM A) : PassM A := do
  discard <| frame.declare frame.owner
  let name ← NamesM.functionName frame.program frame.owner
  let routine ← frame.routine
  let signature ← frame.signature frame.owner
  let locals ← frame.enter frame.owner routine name signature
  PassM.activate locals step

/-- Such a step starts in an activation that is reached. -/
theorem run_first {frame : Frame} {A B : Type} {step : BodyM A}
    {view : A → B} {seen : B} {before : Pass}
    (ordinary : frame.routine.toOption.map Routine.isBuiltin = some false)
    (ran : ((frame.first step).run' before).map view = some seen) :
    ∃ start value after, frame.Reached start ∧ step start = .ok value after ∧
      view value = seen := by
  obtain ⟨value, ran, same⟩ := Option.map_eq_some_iff.mp ran
  unfold EStateM.run' at ran
  cases done : (frame.first step) before with
  | error abort after =>
    rw [EStateM.run, done] at ran
    cases ran
  | ok given after =>
    rw [EStateM.run, done] at ran
    obtain rfl := Option.some.inj ran
    obtain ⟨_, _, _, done⟩ := (run_bind _ _ _ _ _).mp done
    obtain ⟨name, _, _, done⟩ := (run_bind _ _ _ _ _).mp done
    obtain ⟨routine, owned, done⟩ := (run_check_bind _ _ _ _ _).mp done
    obtain ⟨signature, signed, done⟩ := (run_check_bind _ _ _ _ _).mp done
    obtain ⟨locals, entered, enters, done⟩ := (run_bind _ _ _ _ _).mp done
    obtain ⟨last, ran, _⟩ := (run_activate _ _ _ _ _).mp done
    rw [owned] at ordinary
    exact ⟨⟨entered, locals⟩, given, last,
      .entered owned (Option.some.inj ordinary) signed enters, ran, same⟩

end Frame

open Assembly in
/-- A function borrows a product with a stored member. -/
def borrowing : Assembly Unit := do
  let main ← addModule "main"
  let product ← addProduct main "P"
  discard <| addStoredProperty product "x" .int
  let ty ← ask (·.declaredType product)
  discard <| addFunction main "f" [⟨none, "p", .inout ty⟩, ⟨none, "n", .int⟩] .int

open Assembly in
theorem borrowing_assembled : borrowing.built.Assembled := by
  refine Preserves.built ?_
  refine .bind (Offered.addModule _).assembles fun main => ?_
  refine .bind (Offered.addProduct _ _).assembles fun product => ?_
  refine .bind (.map (Offered.addStoredProperty _ _ _).assembles) fun _ => ?_
  refine .bind (.ask _) fun ty => ?_
  exact .map (Offered.addFunction _ _ _ _).assembles

/-- The product of the programs here. -/
def someProduct : Ty := .product ⟨⟨1⟩, "P"⟩

/-- The function of the programs here. -/
def someFunction (program : Program) : Frame := ⟨⟨program, Options.standard⟩, ⟨4⟩⟩

/-- The first parameter of the function. -/
def someParameter : Expr := .ref ⟨someProduct, Span.unknown⟩ ⟨5⟩

/-- What the parameter stores. -/
def storedMember : Expr := .member ⟨.int, Span.unknown⟩ someParameter ⟨2⟩

/-- The parameter is passed on, along with what it stores. -/
def passedOn : List Expr := [.ofAddress someParameter Span.unknown, storedMember]

theorem types_passedOn : ∀ arg ∈ passedOn,
    borrowing.built.Types arg ∧ borrowing.built.SparesReceivers arg := by
  have param : borrowing.built.refExpr ⟨5⟩ Span.unknown = .ok someParameter := rfl
  have stored : borrowing.built.memberExpr someParameter ⟨2⟩ Span.unknown = .ok storedMember := rfl
  have spares : ∀ arg ∈ passedOn, borrowing.built.SparesReceivers arg := by decide +kernel
  have typed := Program.types_refExpr param
  intro arg inside
  refine ⟨?_, spares arg inside⟩
  rcases List.mem_pair.mp inside with rfl | rfl
  · exact typed.ofAddress fun _ _ => nofun
  · exact typed.memberExpr stored

theorem preserves_types_borrowing :
    borrowing.built.Assembled ∧ borrowing.built.Monomorphic ∧ borrowing.built.BorrowsOutermost ∧
      borrowing.built.BindsNoReceiver ∧
      ∃ start values after, (someFunction borrowing.built).Reached start ∧
        (someFunction borrowing.built).arguments [.inout someProduct, .int] passedOn start =
          .ok values after ∧
        values.map Value.isError = [false, false] ∧
        List.Forall₂ (fun value param => value.Has (.lower param)) values
          [.inout someProduct, .int] := by
  have monomorphic : borrowing.built.Monomorphic := by decide +kernel
  have borrows : borrowing.built.BorrowsOutermost := by decide +kernel
  have binds : borrowing.built.BindsNoReceiver := by decide +kernel
  have ran : (((someFunction borrowing.built).first
      ((someFunction borrowing.built).arguments [.inout someProduct, .int] passedOn)).run'
        (Pass.start Options.standard)).map (·.map Value.isError) = some [false, false] := by
    decide +kernel
  obtain ⟨start, values, after, reached, done, sound⟩ :=
    Frame.run_first (by decide +kernel) ran
  refine ⟨borrowing_assembled, monomorphic, borrows, binds, start, values, after, reached, done,
    sound, ?_⟩
  exact (preserves_types borrowing_assembled monomorphic borrows binds reached).2 _ _ values after
    types_passedOn (.cons (Or.inl rfl) (.cons (Or.inl rfl) .nil)) done

open Assembly in
/-- A function binds the receiver of a constructor, which is no variable of its own. -/
def misplacing : Assembly Unit := do
  let main ← addModule "main"
  let product ← addProduct main "P"
  let constructor ← addConstructor product []
  let receiver : DeclId := ⟨constructor.index + 1⟩
  let ty ← ask (·.declaredType product)
  let function ← addFunction main "f" [⟨none, "p", ty⟩] ty
  let binding ← addLocalBinding function (.named receiver) ty none
  let reference ← ask (·.refExpr receiver Span.unknown)
  setBody function ⟨[.decl binding, .returned (some reference) Span.unknown], Span.unknown⟩

open Assembly in
theorem misplacing_assembled : misplacing.built.Assembled := by
  refine Preserves.built ?_
  refine .bind (Offered.addModule _).assembles fun main => ?_
  refine .bind (Offered.addProduct _ _).assembles fun product => ?_
  refine .bind (Offered.addConstructor _ _).assembles fun constructor => ?_
  refine .bind (.ask _) fun ty => ?_
  refine .bind (Offered.addFunction _ _ _ _).assembles fun function => ?_
  refine .bind (Offered.addLocalBinding _ _ _ _).assembles fun binding => ?_
  refine .bind (.ask _) fun reference => ?_
  exact (Offered.setBody _ _).assembles

/-- The receiver as it is, and as a member of the parameter. -/
def misplacedName : Expr := .ref ⟨someProduct, Span.unknown⟩ ⟨3⟩

def misplacedMember : Expr := .member ⟨someProduct, Span.unknown⟩ someParameter ⟨3⟩

/-- The receiver of another function is stored as inout, as a member and as a variable. -/
theorem misplacing_disagrees :
    misplacing.built.Assembled ∧ misplacing.built.Monomorphic ∧
      misplacing.built.BorrowsOutermost ∧
      (misplacing.built.Types misplacedMember ∧
        ∃ start value after, (someFunction misplacing.built).Reached start ∧
          (someFunction misplacing.built).emitValue misplacedMember start = .ok value after ∧
          ¬value.Has (.lower misplacedMember.ty)) ∧
      misplacing.built.Types misplacedName ∧
        ∃ start value after, (someFunction misplacing.built).Reached start ∧
          (someFunction misplacing.built).emitValue misplacedName start = .ok value after ∧
          ¬value.Has (.lower misplacedName.ty) := by
  have param : misplacing.built.refExpr ⟨5⟩ Span.unknown = .ok someParameter := rfl
  have member : misplacing.built.memberExpr someParameter ⟨3⟩ Span.unknown = .ok misplacedMember :=
    rfl
  have name : misplacing.built.refExpr ⟨3⟩ Span.unknown = .ok misplacedName := rfl
  have ordinary : (someFunction misplacing.built).routine.toOption.map Routine.isBuiltin =
      some false := by decide +kernel
  let nested := (someFunction misplacing.built).emitDecl
  have apart {value : Value}
      (seen : (value.isError, value.type) = (false, .object (.inout someProduct))) :
      ¬value.Has (.lower someProduct) := by
    obtain ⟨sound, type⟩ := Prod.mk.inj seen
    rintro (error | same)
    · rw [sound] at error
      cases error
    · rw [type] at same
      cases same
  refine ⟨misplacing_assembled, by decide +kernel, by decide +kernel,
    ⟨(Program.types_refExpr param).memberExpr member, ?_⟩, Program.types_refExpr name, ?_⟩
  · have ran : (((someFunction misplacing.built).first
        ((someFunction misplacing.built).emitValue misplacedMember)).run'
          (Pass.start Options.standard)).map (fun value => (value.isError, value.type)) =
            some (false, .object (.inout someProduct)) := by
      decide +kernel
    obtain ⟨start, value, after, reached, done, seen⟩ := Frame.run_first ordinary ran
    exact ⟨start, value, after, reached, done, apart seen⟩
  · have ran : (((someFunction misplacing.built).first (do
          discard <| (someFunction misplacing.built).emitStmt nested (.decl ⟨6⟩)
          (someFunction misplacing.built).emitValue misplacedName)).run'
            (Pass.start Options.standard)).map (fun value => (value.isError, value.type)) =
              some (false, .object (.inout someProduct)) := by
      decide +kernel
    obtain ⟨start, value, after, reached, done, seen⟩ := Frame.run_first ordinary ran
    obtain ⟨_, middle, bound, done⟩ := (run_bind _ _ _ _ _).mp done
    obtain ⟨flow, bound, _⟩ := (run_map _ _ _ _ _).mp bound
    exact ⟨middle, value, after, .stmt reached bound, done, apart seen⟩

end Lowering
