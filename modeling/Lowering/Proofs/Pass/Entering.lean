import Lowering.Pass.Function
import Lowering.Proofs.Program.Occurrence
import Lowering.Proofs.Run

/-
This file takes apart the filling of a function. Its receiver is bound first, and then each capture
and each parameter takes the next argument. The statements of its body come before their end.
-/

namespace Lowering

open IR

namespace Job

variable {job : Job} {name : String}

/-- The receiver is the first argument, or it gets a slot of its own. -/
theorem bindReceiver_cases {routine : Routine} {args others : List Value} {locals : Locals}
    {before after : Pass}
    (done : job.bindReceiver name routine args before = .ok (locals, others) after) :
    (routine.self = none ∧ locals = Table.empty ∧ others = args ∧ after = before) ∨
    (∃ self receiver, routine.self = some self ∧ routine.isMember = true ∧
      args = receiver :: others ∧ locals = Table.empty.insert self receiver ∧ after = before) ∨
    ∃ self decl location builder, routine.self = some self ∧ routine.isMember = false ∧
      routine.isConstructor = true ∧ job.program.find? self = some decl ∧
      BuildM.allocStack (decl.ty.base.contextualized routine.env) before.builder =
        .ok location builder ∧
      locals = Table.empty.insert self location ∧ others = args ∧
      after = { before with builder := builder } := by
  unfold bindReceiver at done
  cases own : routine.self with
  | none =>
    rw [own] at done
    obtain ⟨given, rfl⟩ := (run_pure _ _ _ _).mp done
    obtain ⟨rfl, rfl⟩ := Prod.mk.inj given
    exact Or.inl ⟨rfl, rfl, rfl, rfl⟩
  | some self =>
    rw [own] at done
    dsimp only at done
    split at done
    next member =>
      cases args with
      | nil => exact ((run_check_abort _ _ _ _).mp done).elim
      | cons receiver rest =>
        obtain ⟨given, rfl⟩ := (run_pure _ _ _ _).mp done
        obtain ⟨rfl, rfl⟩ := Prod.mk.inj given
        exact Or.inr (Or.inl ⟨self, receiver, rfl, member, rfl, rfl, rfl⟩)
    next free =>
      split at done
      next constructs =>
        obtain ⟨decl, found, done⟩ := (run_check_bind _ _ _ _ _).mp done
        obtain ⟨location, between, ran, done⟩ := (run_bind _ _ _ _ _).mp done
        obtain ⟨given, rfl⟩ := (run_pure _ _ _ _).mp done
        obtain ⟨rfl, rfl⟩ := Prod.mk.inj given
        obtain ⟨builder, allocated, rfl⟩ := (lift_build _ _ _ _).mp ran
        exact Or.inr (Or.inr ⟨self, decl, location, builder, rfl, eq_false_of_ne_true free,
          constructs, Program.decl_eq_ok.mp ((lift_answer _ _).mp found), allocated, rfl, rfl, rfl⟩)
      next => exact ((run_check_abort _ _ _ _).mp done).elim

theorem bindArguments_nil {args : List Value} {locals bound : Locals} :
    job.bindArguments name locals [] args = .ok bound ↔ bound = locals := by
  cases args <;> exact (check_pure _ _).trans eq_comm

/-- Where there is a declaration there is an argument for it. -/
theorem bindArguments_cons {first : DeclId} {rest : List DeclId} {args : List Value}
    {locals bound : Locals} :
    job.bindArguments name locals (first :: rest) args = .ok bound ↔
      ∃ arg others, args = arg :: others ∧
        job.bindArguments name (locals.insert first arg) rest others = .ok bound := by
  constructor
  · intro done
    cases args with
    | nil =>
      obtain ⟨_, _, aborted⟩ := (check_bind _ _ _).mp done
      exact ((check_abort _ _).mp aborted).elim
    | cons arg others => exact ⟨arg, others, rfl, done⟩
  · rintro ⟨arg, others, rfl, done⟩
    exact done

end Job

namespace Frame

variable {frame : Frame} {nested : DeclId → PassM Unit} {routine : Routine}
  {before after : Activation}

theorem run_emitBody {body : Body} (given : routine.body = some body)
    (done : frame.emitBody nested routine before = .ok () after) :
    ∃ flow between, frame.emitStmts nested body.stmts before = .ok flow between ∧
      frame.emitEnd body between = .ok () after := by
  unfold emitBody at done
  rw [given] at done
  obtain ⟨_, between, ran, done⟩ := (run_bind _ _ _ _ _).mp done
  obtain ⟨flow, ran, _⟩ := (run_map _ _ _ _ _).mp ran
  exact ⟨flow, between, ran, done⟩

/-- The end of a constructor loads the receiver and returns it. -/
theorem emitConstructorEnd_cases (done : emitConstructorEnd routine before = .ok () after) :
    ∃ self location receiver between, routine.self = some self ∧
      before.locals.get? self = some location ∧
      (liftM (BuildM.load location) : BodyM Value) before = .ok receiver between ∧
      (liftM (BuildM.ret receiver) : BodyM Unit) between = .ok () after := by
  unfold emitConstructorEnd at done
  cases own : routine.self with
  | none =>
    rw [own] at done
    exact ((run_ask_abort _ _ _ _).mp done).elim
  | some self =>
    rw [own] at done
    obtain ⟨found, _, asked, done⟩ := (run_bind _ _ _ _ _).mp done
    obtain ⟨bound, rfl⟩ := run_local? asked
    cases found with
    | none => exact ((run_ask_abort _ _ _ _).mp done).elim
    | some location =>
      obtain ⟨receiver, between, loaded, returned⟩ := (run_bind _ _ _ _ _).mp done
      exact ⟨self, location, receiver, between, rfl, bound, loaded, returned⟩

end Frame

end Lowering
