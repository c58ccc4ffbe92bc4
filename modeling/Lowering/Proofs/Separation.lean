import Lowering.Proofs.Observance
import Lowering.Proofs.Pass.Reserving

/-
This file keeps the locals of a body apart. Whatever a statement binds, and whatever is bound before
the first one, no two declarations get the same temporary.
-/

namespace Lowering

open IR

namespace Frame

variable {frame : Frame} {before after : Activation}

/-- The slot of a variable is new. -/
theorem apart_emitLocalVar {id : DeclId} {location : Value}
    (ready : (scoping frame.toJob).Ready before) (apart : before.locals.Apart)
    (done : frame.emitLocalVar id before = .ok location after) : after.locals.Apart := by
  obtain ⟨decl, _, ⟨_, rfl, rfl⟩ | ⟨_, _, ty, builder, _, allocated, rfl⟩⟩ :=
    run_emitLocalVar done
  · exact apart.insert (Locals.spares_of_temp? _ rfl) id
  · exact apart.insert (ready.spares_slot allocated) id

theorem apart_mapM (names : List DeclId) {locations : List Value}
    (ready : (scoping frame.toJob).Ready before) (apart : before.locals.Apart)
    (done : names.mapM frame.emitLocalVar before = .ok locations after) :
    after.locals.Apart := by
  induction names generalizing before locations with
  | nil =>
    obtain ⟨rfl, rfl⟩ := (run_pure _ _ _ _).mp done
    exact apart
  | cons name rest rest_ih =>
    obtain ⟨location, between, others, ran, mapped, rfl⟩ := (run_mapM_cons _ _ _ _ _ _).mp done
    have later := (Policy.Keeps.emitLocalVar name before ready location between ran).1
    exact rest_ih later (apart_emitLocalVar ready apart ran) mapped

/-- Nothing is bound by what follows the slots of a pattern. -/
theorem run_emitBinding_locals {binding : Binding} {value : Unit}
    (done : frame.emitBinding binding before = .ok value after) : ∃ locations between,
      binding.pattern.names.mapM frame.emitLocalVar before = .ok locations between ∧
        after.locals = between.locals := by
  let kept := Invariant.unconditional frame.toJob
  obtain ⟨locations, between, mapped, done⟩ := (run_bind _ _ _ _ _).mp done
  refine ⟨locations, between, mapped, ?_⟩
  cases given : binding.initializer with
  | none =>
    rw [given] at done
    obtain ⟨_, rfl⟩ := (run_pure _ _ _ _).mp done
    rfl
  | some initializer =>
    have covers : kept.Covers between.locals := fun _ _ _ _ _ => trivial
    simp only [given] at done
    generalize binding.pattern.single? = single at done
    cases single <;> cases locations
    case some.cons location _ =>
      exact locals_of_evaluates (kept.emitAssign covers initializer location) done
    case none.nil =>
      obtain ⟨_, ran, _⟩ := (run_map _ _ _ _ _).mp done
      exact locals_of_evaluates (kept.emitValue covers initializer) ran
    all_goals exact ((run_ask_abort _ _ _ _).mp done).elim

/-- The slot of a closure is new, and its function may have been lowered in between. -/
theorem apart_bindClosure {id : DeclId} {value : Unit} (ready : (scoping frame.toJob).Ready before)
    (apart : before.locals.Apart) (done : frame.bindClosure id before = .ok value after) :
    after.locals.Apart := by
  let kept := Invariant.unconditional frame.toJob
  let policy := scoping frame.toJob
  have covers (locals : Locals) : kept.Covers locals := fun _ _ _ _ _ => trivial
  obtain ⟨captures, _, done⟩ := (run_ask_bind _ _ _ _ _).mp done
  split at done
  next =>
    obtain ⟨decl, _, done⟩ := (run_ask_bind _ _ _ _ _).mp done
    obtain ⟨args, first, mapped, done⟩ := (run_bind _ _ _ _ _).mp done
    have first_ready := (Policy.Keeps.mapM (fun _ _ => True) (fun _ _ _ _ _ => trivial) captures
      before (fun capture _ start => (Policy.Keeps.emitReference capture decl.span start).mono
        fun _ _ _ => trivial) ready args first mapped).1
    have first_locals : first.locals = before.locals :=
      locals_of_evaluates (Sustains.mapM captures fun capture _ =>
        kept.emitReference (covers _) capture decl.span) mapped
    obtain ⟨function, second, declares, done⟩ := (run_bind _ _ _ _ _).mp done
    have second_ready :=
      (Policy.Keeps.lift (Policy.Visits.declare id).maintains first_ready _ _ declares).1
    obtain ⟨_, _, rfl⟩ := (lift_pass _ _ _ _).mp declares
    obtain ⟨ty, _, done⟩ := (run_ask_bind _ _ _ _ _).mp done
    obtain ⟨slot, third, ran, done⟩ := (run_bind _ _ _ _ _).mp done
    obtain ⟨pass, lifted, rfl⟩ := (lift_pass _ _ _ _).mp ran
    obtain ⟨builder, allocated, rfl⟩ := (lift_build _ _ _ _).mp lifted
    obtain ⟨closure, fourth, ran, done⟩ := (run_bind _ _ _ _ _).mp done
    obtain ⟨_, _, rfl⟩ := (lift_pass _ _ _ _).mp ran
    obtain ⟨_, last, ran, done⟩ := (run_bind _ _ _ _ _).mp done
    obtain ⟨_, _, rfl⟩ := (lift_pass _ _ _ _).mp ran
    obtain rfl := (run_modify _ _ _ _).mp done
    have spares := second_ready.spares_slot allocated
    rw [first_locals] at spares
    show Locals.Apart (first.locals.insert id slot)
    rw [first_locals]
    exact apart.insert spares id
  next =>
    obtain ⟨_, rfl⟩ := (run_pure _ _ _ _).mp done
    exact apart

/-- A return binds nothing. -/
theorem locals_emitReturn {expr : Option Expr} {value : Unit}
    (done : frame.emitReturn expr before = .ok value after) : after.locals = before.locals := by
  let kept := Invariant.unconditional frame.toJob
  have footing : kept.Footing (· = before.locals) fun _ => False := by
    refine .of_free (Invariant.unconditional_free _) fun _ introduces => ?_
    cases introduces with
    | failed _ brought | «variable» _ brought =>
      obtain ⟨_, _, impossible, _⟩ := brought
      exact impossible.elim
    | closure _ _ declared => exact declared.elim
  exact locals_of_evaluates (kept.continues_emitReturn footing expr) done

theorem locals_warnUnreachable {stmt : Stmt} {value : Unit}
    (done : frame.warnUnreachable stmt before = .ok value after) : after.locals = before.locals :=
  locals_of_evaluates ((Invariant.unconditional frame.toJob).continues_warnUnreachable stmt) done

theorem locals_emitValue {expr : Expr} {value : Value}
    (done : frame.emitValue expr before = .ok value after) : after.locals = before.locals :=
  locals_of_evaluates
    ((Invariant.unconditional frame.toJob).emitValue (fun _ _ _ _ _ => trivial) expr) done

section Nested

variable {nested : DeclId → PassM Unit} (below : (scoping frame.toJob).VisitsAll nested)

include below

theorem apart_emitLocalDecl {id : DeclId} {value : Unit}
    (ready : (scoping frame.toJob).Ready before) (apart : before.locals.Apart)
    (done : frame.emitLocalDecl nested id before = .ok value after) : after.locals.Apart := by
  obtain ⟨decl, _, done⟩ := (run_ask_bind _ _ _ _ _).mp done
  cases kind : decl.kind with
  | binding binding =>
    rw [kind] at done
    obtain ⟨locations, between, mapped, same⟩ := run_emitBinding_locals done
    exact same ▸ apart_mapM _ ready apart mapped
  | function routine =>
    rw [kind] at done
    dsimp only at done
    split at done
    · obtain ⟨_, between, lowered, done⟩ := (run_bind _ _ _ _ _).mp done
      have ready := (Policy.Keeps.lift (below id before.pass).maintains ready _ _ lowered).1
      obtain ⟨_, _, rfl⟩ := (lift_pass _ _ _ _).mp lowered
      exact apart_bindClosure ready apart done
    · obtain ⟨_, rfl⟩ := (run_pure _ _ _ _).mp done
      exact apart
  | product | view | abstractType | «alias» | typeExtension =>
    rw [kind] at done
    obtain ⟨_, _, rfl⟩ := (lift_pass _ _ _ _).mp done
    exact apart
  | module | imported | «variable» | parameter | genericParam =>
    rw [kind] at done
    exact ((run_ask_abort _ _ _ _).mp done).elim

end Nested

mutual

/-- A statement leaves different locals at different temporaries, however it ends. -/
theorem apart_emitStmt {nested : DeclId → PassM Unit}
    (below : (scoping frame.toJob).VisitsAll nested) {routine : Routine}
    (owned : frame.routine = .ok routine) (stmt : Stmt)
    (occurs : ∀ expr ∈ stmt.exprs, frame.program.Occurs expr) {before after : Activation}
    {flow : Flow} (ready : (scoping frame.toJob).Ready before) (apart : before.locals.Apart)
    (done : frame.emitStmt nested stmt before = .ok flow after) : after.locals.Apart := by
  cases stmt with
  | decl id =>
    obtain ⟨_, between, ran, done⟩ := (run_bind _ _ _ _ _).mp done
    obtain ⟨_, rfl⟩ := (run_pure _ _ _ _).mp done
    exact apart_emitLocalDecl below ready apart ran
  | block stmts span => exact apart_emitStmts below owned stmts occurs ready apart done
  | returned value span =>
    obtain ⟨_, between, ran, done⟩ := (run_bind _ _ _ _ _).mp done
    obtain ⟨_, rfl⟩ := (run_pure _ _ _ _).mp done
    exact locals_emitReturn ran ▸ apart
  | expr expr =>
    obtain ⟨_, between, ran, done⟩ := (run_bind _ _ _ _ _).mp done
    obtain ⟨_, rfl⟩ := (run_pure _ _ _ _).mp done
    obtain ⟨_, ran, _⟩ := (run_map _ _ _ _ _).mp ran
    exact locals_emitValue ran ▸ apart

theorem apart_emitStmts {nested : DeclId → PassM Unit}
    (below : (scoping frame.toJob).VisitsAll nested) {routine : Routine}
    (owned : frame.routine = .ok routine) (stmts : List Stmt)
    (occurs : ∀ expr ∈ Stmt.exprsAll stmts, frame.program.Occurs expr) {before after : Activation}
    {flow : Flow} (ready : (scoping frame.toJob).Ready before) (apart : before.locals.Apart)
    (done : frame.emitStmts nested stmts before = .ok flow after) : after.locals.Apart := by
  cases stmts with
  | nil =>
    obtain ⟨_, rfl⟩ := (run_pure _ _ _ _).mp done
    exact apart
  | cons stmt rest =>
    have first (expr : Expr) (listed : expr ∈ stmt.exprs) : frame.program.Occurs expr :=
      occurs expr (List.mem_append_left _ listed)
    obtain ⟨left, between, ran, continues⟩ := run_emitStmts_cons done
    have stays := apart_emitStmt below owned stmt first ready apart ran
    rcases continues with ⟨rfl, done⟩ | ⟨_, _, rfl⟩ | ⟨_, _, next, warned⟩
    · have left := Policy.Flows.emitStmt below owned stmt first before ready _ _ ran
      simp only [Policy.Left, or_true, if_true] at left
      exact apart_emitStmts below owned rest
        (fun expr listed => occurs expr (List.mem_append_right _ listed)) left.1 stays done
    · exact stays
    · exact locals_warnUnreachable warned ▸ stays

end

end Frame

namespace Job

variable {job : Job} {root id : DeclId}

/-- Every argument is bound at most once. -/
theorem bindArguments_apart {name : String} (ids : List DeclId) {locals bound : Locals}
    {args : List Value} (apart : locals.Apart) (spares : ∀ arg ∈ args, locals.Spares arg)
    (distinct : (args.map Value.temp?).Nodup)
    (done : job.bindArguments name locals ids args = .ok bound) : bound.Apart := by
  induction ids generalizing locals args with
  | nil =>
    obtain rfl := bindArguments_nil.mp done
    exact apart
  | cons id rest rest_ih =>
    obtain ⟨arg, args, rfl, done⟩ := bindArguments_cons.mp done
    obtain ⟨fresh, distinct⟩ := List.nodup_cons.mp distinct
    obtain ⟨free, others⟩ := List.forall_mem_cons.mp spares
    refine rest_ih (apart.insert free id) (fun other inside => ?_) distinct done
    refine (others other inside).insert (fun _ same => fresh ?_) id
    exact same ▸ List.mem_map_of_mem inside

/-- The receiver is bound to an argument that nothing else gets, or to a slot of its own. -/
theorem bindReceiver_apart {routine : Routine} {name : String} {args others : List Value}
    {locals : Locals} {before after : Pass} (working : before.Working)
    (has : ∀ arg ∈ args, before.Has arg) (distinct : (args.map Value.temp?).Nodup)
    (done : job.bindReceiver name routine args before = .ok (locals, others) after) :
    locals.Apart ∧ (∀ arg ∈ others, locals.Spares arg) ∧ (others.map Value.temp?).Nodup := by
  rcases bindReceiver_cases done with ⟨_, rfl, rfl, _⟩ | ⟨self, receiver, _, _, rfl, rfl, _⟩ |
    ⟨self, decl, slot, builder, _, _, _, _, allocated, rfl, rfl, _⟩
  · exact ⟨Locals.apart_empty, fun arg _ => Locals.spares_empty arg, distinct⟩
  · obtain ⟨fresh, distinct⟩ := List.nodup_cons.mp distinct
    refine ⟨Locals.apart_empty.insert (Locals.spares_empty _) self, fun arg inside => ?_, distinct⟩
    refine (Locals.spares_empty arg).insert (fun _ same => fresh ?_) self
    exact same ▸ List.mem_map_of_mem inside
  · obtain ⟨function, block, place, rfl, _⟩ := BuildM.run_define allocated
    refine ⟨Locals.apart_empty.insert (Locals.spares_empty _) self, fun arg inside => ?_, distinct⟩
    refine (Locals.spares_empty arg).insert (fun _ same => ?_) self
    exact Nat.lt_irrefl _ ((has arg inside).issued working.formed place same)

/-- A body starts with every argument bound at most once. -/
theorem enter_apart {routine : Routine} {name : String} {signature : Signature}
    {before after : Pass} {locals : Locals} (formed : before.builder.module.WellFormed)
    (ordered : (scoping job).Holds before)
    (enters : job.enter id routine name signature before = .ok locals after) : locals.Apart := by
  obtain ⟨label, args, builder, start, rest, captures, created, received, _, given⟩ :=
    run_enter enters
  have has := ((scoping job).block formed ordered created).2
  have distinct : (args.map Value.temp?).Nodup := by
    obtain ⟨_, temps⟩ := BuildM.temps_of_createBlock created
    rw [temps]
    refine List.pairwise_map.mpr (List.Pairwise.imp ?_ List.nodup_range')
    exact fun apart same => apart (Option.some.inj same)
  obtain ⟨apart, spares, distinct⟩ :=
    bindReceiver_apart (Pass.opens_block formed created).working has distinct received
  exact bindArguments_apart _ apart spares distinct given

end Job

end Lowering
