import Lowering.Pass.Function
import Lowering.Proofs.Pass.Reference
import Lowering.Proofs.Program.Nesting
import Lowering.Proofs.Typing.Expression

/-
This file follows the statements of a function body. They keep every invariant, and they bind
nothing but locations: of variables that a pattern introduces, and of closures.
-/

namespace Lowering

open IR

/-- One of the declarations introduces the variable. -/
def Program.Brings (program : Program) (here : DeclId → Prop) (id : DeclId) : Prop :=
  ∃ place outer, here place ∧ program.find? place = some outer ∧ id ∈ outer.introduced

/-- What the declarations of a body bind: a location of the type, unless that is the error type. -/
inductive Frame.Introduces (frame : Frame) (here : DeclId → Prop) (id : DeclId) (value : Value) :
    Prop
  | failed {decl : Decl} (found : frame.program.find? id = some decl)
    (brought : frame.program.Brings here id) (error : decl.ty.isError = true)
    (given : value.isError = true)
  | variable {decl : Decl} {ty : Ty} (found : frame.program.find? id = some decl)
    (brought : frame.program.Brings here id) (stored : decl.kind.isStored = true)
    (seen : frame.contextualize decl.ty = .ok ty)
    (given : value.type = .address ty ∧ value.isError = false)
  | closure {decl : Decl} {routine : Routine} {captures : List DeclId} {ty : Ty}
    (found : frame.program.find? id = some decl) (listed : decl.routine? = some routine)
    (declared : here id) (captured : frame.program.captures id = .ok captures)
    (nonempty : captures ≠ []) (seen : frame.contextualize decl.ty = .ok ty)
    (given : value.type = .address ty ∧ value.isError = false)

namespace Invariant

variable {frame : Frame} (kept : Invariant frame.toJob) {bound : Locals → Prop}
  {here : DeclId → Prop}

/-- What is known of the locals lasts, and it allows the closures that a body makes. -/
structure Footing (bound : Locals → Prop) (here : DeclId → Prop) : Prop where
  grows : ∀ {locals : Locals} {id : DeclId} {value : Value}, bound locals →
    frame.Introduces here id value → bound (locals.insert id value)
  covers : ∀ {locals : Locals}, bound locals → kept.Covers locals
  closes : ∀ {id : DeclId} {captures : List DeclId} {span : Span} {args : List Value}
    {function : Value} {signature : Signature} {before middle reached : Activation}, here id →
    frame.program.captures id = .ok captures → kept.Holds before.pass → bound before.locals →
    captures.mapM (fun capture => frame.emitReference capture span) before = .ok args middle →
    frame.signature id = .ok signature → function.type = .object signature.funType →
    Frame.Silent middle reached → kept.Closes reached.pass function args

variable {kept} in
/-- Where closures are of no account, it is enough that what is known lasts. -/
theorem Footing.of_free (free : kept.Free)
    (grows : ∀ {locals : Locals} {id : DeclId} {value : Value}, bound locals →
      frame.Introduces here id value → bound (locals.insert id value)) :
    kept.Footing bound here where
  grows := grows
  covers _ _ _ _ _ _ _ _ _ _ _ := free _ _ _
  closes _ _ _ _ _ _ _ _ := free _ _ _

/-- A step of a body keeps the invariant and what is known of the locals. -/
def Continues (bound : Locals → Prop) {A : Type} (step : BodyM A) : Prop :=
  Runs (kept.under bound) step fun _ => True

theorem continues_warnUnreachable (stmt : Stmt) :
    kept.Continues bound (frame.warnUnreachable stmt) := by
  unfold Frame.warnUnreachable
  split
  · exact .ask_bind fun _ _ => Runs.lift bound (kept.keeps_report _)
  · exact .pure trivial

section Footing

variable (footing : kept.Footing bound here)

include footing

theorem continues_emitReturn (value : Option Expr) :
    kept.Continues bound (frame.emitReturn value) := by
  have emitValue (expr : Expr) : kept.Continues bound (frame.emitValue expr) :=
    .evaluate bound fun _ known => kept.emitValue (footing.covers known) expr
  refine .check_bind fun routine _ => ?_
  split
  · cases value with
    | some expr => exact .discard (emitValue expr)
    | none => exact .pure trivial
  · refine .check_bind fun result _ => ?_
    have returned (value : Value) : kept.Continues bound (BuildM.ret value) :=
      Runs.lift bound (kept.keeps_ret value)
    cases value with
    | none => exact returned Value.unit
    | some expr =>
      refine .check_bind fun needed _ => ?_
      split
      · exact .bind (.evaluate bound fun _ known =>
          kept.emitCoerced (footing.covers known) expr result) fun value _ => returned value
      · exact .bind (emitValue expr) fun value _ => returned value

theorem continues_bindLocal {id : DeclId} {value : Value}
    (introduces : frame.Introduces here id value) :
    kept.Continues bound (BodyM.bindLocal id value) := by
  constructor
  · intro before _ after holds done
    obtain rfl := (run_modify _ _ _ _).mp done
    exact ⟨⟨holds.1, footing.grows holds.2 introduces⟩, trivial⟩
  · intro before abort after _ stops
    exact ((run_modify_error _ _ _ _).mp stops).elim

theorem continues_emitLocalVar {id : DeclId} (brought : frame.program.Brings here id) :
    kept.Continues bound (frame.emitLocalVar id) := by
  refine .ask_bind fun decl found => ?_
  have found := Program.decl_eq_ok.mp found
  split
  next error =>
    exact .bind (kept.continues_bindLocal footing (.failed found brought error rfl))
      fun _ _ => .pure trivial
  next =>
    cases stored : decl.kind with
    | «variable» hasStorage =>
      cases hasStorage with
      | false => exact .abort_bind _ _ _
      | true =>
        refine .check_bind fun ty seen => ?_
        refine .bind (Runs.lift bound (kept.keeps_allocStack ty)) fun location given => ?_
        have introduces : frame.Introduces here id location :=
          .variable found brought (by rw [stored]; rfl) seen given
        exact .bind (kept.continues_bindLocal footing introduces) fun _ _ => .pure trivial
    | _ => exact .abort_bind _ _ _

theorem continues_emitBinding {place : DeclId} {outer : Decl} {binding : Binding}
    (listed : here place) (found : frame.program.find? place = some outer)
    (kind : outer.kind = .binding binding) : kept.Continues bound (frame.emitBinding binding) := by
  refine .bind (Sustains.mapM _ fun id named => kept.continues_emitLocalVar footing ?_)
    fun locations _ => ?_
  · refine ⟨place, outer, listed, found, ?_⟩
    rw [Decl.introduced, kind]
    exact named
  cases binding.initializer with
  | none => exact .pure trivial
  | some initializer =>
    dsimp only
    split
    · exact .evaluate bound fun _ known => kept.emitAssign (footing.covers known) initializer _
    · exact .discard (.evaluate bound fun _ known =>
        kept.emitValue (footing.covers known) initializer)
    · exact .abort _ _

/-- A closure is bound to a location of the type of its function. -/
theorem continues_bindClosure {id : DeclId} {decl : Decl} {routine : Routine}
    (declared : here id) (found : frame.program.find? id = some decl)
    (listed : decl.routine? = some routine) : kept.Continues bound (frame.bindClosure id) := by
  refine .ask_bind fun captures captured => ?_
  split
  next some_ =>
    refine .ask_bind fun again found_again => ?_
    obtain rfl := Option.some.inj (found.symm.trans (Program.decl_eq_ok.mp found_again))
    have references : kept.Continues bound
        (captures.mapM fun capture => frame.emitReference capture decl.span) :=
      Sustains.mapM _ fun capture _ =>
        Runs.evaluate bound fun _ known => kept.emitReference (footing.covers known) capture _
    refine Sustains.of_ends fun before holds => ?_
    refine references.ends_bind holds fun args middle mapped holds_middle _ => ?_
    -- The closure is made of these arguments, and what comes in between reports nothing.
    refine (Runs.lift bound (kept.keeps_declare id)).ends_bind holds_middle
      fun function second declares holds_second ⟨signature, signed, typed⟩ => ?_
    refine (Runs.lift bound (Sustains.check (frame.contextualize decl.ty))).ends_bind holds_second
      fun ty third asked holds_third seen => ?_
    refine (Runs.lift bound (kept.keeps_allocStack ty)).ends_bind holds_third
      fun location reached allocated holds_reached given => ?_
    have silent : Frame.Silent middle reached := by
      obtain ⟨_, lifted, rfl⟩ := (lift_pass _ _ _ _).mp asked
      obtain ⟨_, rfl⟩ := (lift_check _ _ _ _).mp lifted
      exact (Frame.Silent.declare declares).1.trans (.build allocated)
    have closes := footing.closes declared captured holds.1 holds.2 mapped signed typed silent
    refine Sustains.after (fun closure _ => ?_)
      (.lift (kept.ends_partialApply holds_reached.1 closes ty) holds_reached.2)
    refine .bind (Runs.lift bound (kept.keeps_store closure location)) fun _ _ => ?_
    exact kept.continues_bindLocal footing
      (.closure found listed declared captured (by simpa using some_) seen given)
  · exact .pure trivial

theorem continues_emitLocalDecl {nested : DeclId → PassM Unit}
    (below : ∀ id, kept.Keeps (nested id) fun _ => True) {id : DeclId} (declared : here id) :
    kept.Continues bound (frame.emitLocalDecl nested id) := by
  refine .ask_bind fun decl found => ?_
  have found := Program.decl_eq_ok.mp found
  cases kind : decl.kind with
  | binding binding => exact kept.continues_emitBinding footing declared found kind
  | function routine =>
    have listed : decl.routine? = some routine := by simp [Decl.routine?, kind, DeclKind.routine?]
    dsimp only
    split
    · refine .bind (Runs.lift bound (below id)) fun _ _ => ?_
      exact kept.continues_bindClosure footing declared found listed
    · exact .pure trivial
  | product | view | abstractType | «alias» | typeExtension => exact Runs.lift bound (below id)
  | module | imported | «variable» | parameter | genericParam => exact .abort _ _

omit footing

mutual

theorem continues_emitStmt {nested : DeclId → PassM Unit} (footing : kept.Footing bound here)
    (below : ∀ id, kept.Keeps (nested id) fun _ => True) (stmt : Stmt)
    (inside : ∀ place ∈ stmt.locals, here place) :
    kept.Continues bound (frame.emitStmt nested stmt) := by
  cases stmt with
  | decl id =>
    have declared := inside id (List.mem_singleton_self id)
    exact .bind (kept.continues_emitLocalDecl footing below declared) fun _ _ => .pure trivial
  | block stmts span => exact continues_emitStmts footing below stmts inside
  | returned value span =>
    exact .bind (kept.continues_emitReturn footing value) fun _ _ => .pure trivial
  | expr expr =>
    exact .bind (.discard (.evaluate bound fun _ known =>
      kept.emitValue (footing.covers known) expr)) fun _ _ => .pure trivial

theorem continues_emitStmts {nested : DeclId → PassM Unit} (footing : kept.Footing bound here)
    (below : ∀ id, kept.Keeps (nested id) fun _ => True) (stmts : List Stmt)
    (inside : ∀ place ∈ Stmt.localsAll stmts, here place) :
    kept.Continues bound (frame.emitStmts nested stmts) := by
  cases stmts with
  | nil => exact .pure trivial
  | cons stmt rest =>
    refine .bind (continues_emitStmt footing below stmt fun place listed =>
      inside place (List.mem_append_left _ listed)) fun flow _ => ?_
    cases flow with
    | fallthrough =>
      exact continues_emitStmts footing below rest fun place listed =>
        inside place (List.mem_append_right _ listed)
    | unreachable => exact .pure trivial
    | returned =>
      cases rest with
      | nil => exact .pure trivial
      | cons next _ =>
        exact .bind (kept.continues_warnUnreachable next) fun _ _ => .pure trivial

end

end Footing

theorem continues_emitConstructorEnd (routine : Routine) :
    kept.Continues bound (Frame.emitConstructorEnd routine) := by
  unfold Frame.emitConstructorEnd
  cases routine.self with
  | none => exact .abort _ _
  | some self =>
    refine .local_bind self fun found => ?_
    cases found with
    | none => exact .abort _ _
    | some location =>
      refine .bind (Runs.lift bound (kept.keeps_load location)) fun loaded _ => ?_
      exact Runs.lift bound (kept.keeps_ret loaded)

theorem continues_emitEnd (body : Body) : kept.Continues bound (frame.emitEnd body) := by
  refine .check_bind fun routine _ => ?_
  split
  · exact kept.continues_emitConstructorEnd routine
  · refine .bind .get fun terminated _ => ?_
    split
    · exact .pure trivial
    · refine .check_bind fun result _ => ?_
      split
      · exact Runs.lift bound kept.keeps_halt
      · exact Runs.lift bound (kept.keeps_ret _)
      · exact Runs.lift bound (kept.keeps_report _)

theorem continues_emitMemberStores (receiver : Value) (pairs : List (DeclId × DeclId)) :
    kept.Continues bound (frame.emitMemberStores receiver pairs) := by
  induction pairs with
  | nil => exact .pure trivial
  | cons pair rest rest_ih =>
    obtain ⟨var, param⟩ := pair
    refine .ask_bind fun member _ => .check_bind fun ty _ => ?_
    refine .bind (Runs.lift bound (kept.keeps_recordMemberAddr receiver var member.name ty))
      fun address _ => .local_bind param fun found => ?_
    cases found with
    | none => exact .ask_bind fun _ _ => .abort_bind _ _ _
    | some value => exact .bind (Runs.lift bound (kept.keeps_store value address)) fun _ _ => rest_ih

theorem continues_emitSynthesized : kept.Continues bound frame.emitSynthesized := by
  refine .ask_bind fun decl _ => .check_bind fun routine _ => ?_
  simp only
  split
  · exact .abort_bind _ _ _
  · cases decl.parent with
    | none => exact .abort _ _
    | some parent =>
      refine .ask_bind fun outer _ => ?_
      have finished (receiver : Value) : kept.Continues bound (do
          let vars ← frame.program.storedVars parent
          frame.emitMemberStores receiver (vars.zip routine.params)
          BuildM.ret (← BuildM.load receiver)) := by
        refine .ask_bind fun vars _ => ?_
        refine .bind (kept.continues_emitMemberStores receiver _) fun _ _ => ?_
        refine .bind (Runs.lift bound (kept.keeps_load receiver)) fun loaded _ => ?_
        exact Runs.lift bound (kept.keeps_ret loaded)
      split
      · cases routine.self with
        | none => exact .abort_bind _ _ _
        | some self =>
          refine .local_bind self fun found => ?_
          cases found with
          | none => exact .abort_bind _ _ _
          | some receiver => exact finished receiver
      · exact .abort _ _

theorem continues_emitBody {nested : DeclId → PassM Unit} (footing : kept.Footing bound here)
    (below : ∀ id, kept.Keeps (nested id) fun _ => True) (routine : Routine)
    (inside : ∀ body ∈ routine.body, ∀ place ∈ Stmt.localsAll body.stmts, here place) :
    kept.Continues bound (frame.emitBody nested routine) := by
  unfold Frame.emitBody
  cases given : routine.body with
  | none => exact kept.continues_emitSynthesized
  | some body =>
    refine .bind (.discard (kept.continues_emitStmts footing below body.stmts
      (inside body given))) fun _ _ => ?_
    exact kept.continues_emitEnd body

end Invariant

end Lowering
