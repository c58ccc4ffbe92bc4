import Lowering.Proofs.Pass.Entering
import Lowering.Proofs.Pass.Statement

/-
This file carries policies through the filling of functions. A body ends its block or reports that
a return is missing, so nothing that a function leaves behind is unaccounted for.
-/

namespace Lowering

open IR

theorem Frame.decl_of_routine {frame : Frame} {routine : Routine}
    (owned : frame.routine = .ok routine) :
    ∃ decl, frame.program.decl frame.owner = .ok decl ∧ decl.routine? = some routine := by
  unfold Frame.routine at owned
  obtain ⟨decl, found, owned⟩ := (check_bind _ _ _).mp owned
  cases listed : decl.routine? with
  | none =>
    rw [listed] at owned
    exact ((check_abort _ _).mp owned).elim
  | some given =>
    rw [listed] at owned
    obtain rfl := (check_pure _ _).mp owned
    exact ⟨decl, (lift_answer _ _).mp found, listed⟩

theorem Frame.routine_eq_ok {frame : Frame} {decl : Decl} {routine : Routine}
    (found : frame.program.decl frame.owner = .ok decl) (listed : decl.routine? = some routine) :
    frame.routine = .ok routine := by
  unfold Frame.routine
  rw [check_bind]
  exact ⟨decl, (lift_answer _ _).mpr found, by rw [listed]; rfl⟩

namespace Policy

variable {frame : Frame} {policy : Policy frame.toJob}

theorem run_isTerminated {before after : Activation} {ended : Bool}
    (done : BodyM.isTerminated before = .ok ended after) :
    ended = before.pass.builder.isTerminated ∧ after = before := by
  unfold BodyM.isTerminated at done
  obtain ⟨_, _, read, done⟩ := (run_bind _ _ _ _ _).mp done
  obtain ⟨rfl, rfl⟩ := (run_get _ _ _).mp read
  obtain ⟨rfl, rfl⟩ := (run_pure _ _ _ _).mp done
  exact ⟨rfl, rfl⟩

theorem Finishes.of_terminated {step : BodyM Unit} {before : Activation}
    (kept : policy.Finishes step before fun _ after => after.pass.builder.isTerminated = true) :
    policy.Finishes step before fun _ _ => True :=
  kept.mono fun _ _ _ => trivial

theorem Finishes.emitConstructorEnd (routine : Routine) (before : Activation) :
    policy.Finishes (Frame.emitConstructorEnd routine) before fun _ _ => True := by
  unfold Frame.emitConstructorEnd
  cases routine.self with
  | none => exact .abort _
  | some self =>
    refine (Keeps.local? self).finishes ?_
    intro found between _ bound
    cases found with
    | none => exact .abort _
    | some location =>
      refine (Keeps.lift (.load (bound location rfl).1)).finishes ?_
      intro receiver last _ temporary
      exact .of_terminated (.ret temporary.1)

/-- A body that is still open ends here, or its function lacks a return. -/
theorem Finishes.emitEnd (body : Body) {routine : Routine} (owned : frame.routine = .ok routine)
    (before : Activation) : policy.Finishes (frame.emitEnd body) before fun _ _ => True := by
  refine .check_bind ?_
  intro again owned_again
  obtain rfl : routine = again := by simpa [owned] using owned_again
  split
  · exact .emitConstructorEnd routine before
  · intro ready value after done
    obtain ⟨function, block, place⟩ := ready.working.opened
    obtain ⟨ended, middle, read, done⟩ := (run_bind _ _ _ _ _).mp done
    obtain ⟨rfl, rfl⟩ := run_isTerminated read
    simp only [place.isTerminated, Bool.false_eq_true, if_false] at done
    suffices finishes : policy.Finishes _ _ fun _ _ => True from finishes ready value after done
    refine .check_bind ?_
    intro result _
    split
    · exact .of_terminated (.terminate rfl (by simp [Instruction.operands]))
    · have literal : Value.unit.IsLiteral := ⟨rfl, rfl, fun name => by simp [Value.unit]⟩
      exact .of_terminated (.ret (policy.usable_literal middle.pass literal))
    · intro ready value after done
      obtain ⟨pass, ran, rfl⟩ := (lift_pass (PassM.report _) _ _ _).mp done
      obtain rfl := (run_modify _ _ _ _).mp ran
      exact ⟨⟨ready.working.formed, policy.report (.missingReturn _) ready.holds,
        middle.pass.closes_report rfl⟩, trivial⟩

/-- Nothing follows a body that ended its block. -/
theorem run_emitEnd_of_terminated {body : Body} {routine : Routine} {before after : Activation}
    {value : Unit} (owned : frame.routine = .ok routine)
    (ordinary : routine.isConstructor = false)
    (ended : before.pass.builder.isTerminated = true)
    (done : frame.emitEnd body before = .ok value after) : after = before := by
  unfold Frame.emitEnd at done
  obtain ⟨again, owned_again, done⟩ := (run_ask_bind _ _ _ _ _).mp done
  obtain rfl : routine = again := by simpa [owned] using owned_again
  simp only [ordinary, Bool.false_eq_true, if_false] at done
  obtain ⟨terminated, _, read, done⟩ := (run_bind _ _ _ _ _).mp done
  obtain ⟨rfl, rfl⟩ := run_isTerminated read
  simp only [ended, if_true] at done
  exact ((run_pure _ _ _ _).mp done).2.symm

theorem Left.emitEnd_grows {flow : Flow} {body : Body} {routine : Routine}
    {before middle after : Activation} {value : Unit}
    (left : policy.Left routine.isConstructor before flow middle)
    (owned : frame.routine = .ok routine) (done : frame.emitEnd body middle = .ok value after) :
    middle.pass.Grows middle.pass.builder.cursor after.pass := by
  unfold Left at left
  split at left
  next =>
    obtain ⟨finished, _⟩ := Finishes.emitEnd body owned middle left.1 value after done
    exact finished.closes.grows
  next ends =>
    have ordinary : routine.isConstructor = false := by simp_all
    obtain rfl := run_emitEnd_of_terminated owned ordinary left.2 done
    exact .refl _ _

theorem Keeps.emitMemberStores {receiver : Value} (pairs : List (DeclId × DeclId))
    (before : Activation) (usable : policy.Usable before.pass receiver) :
    policy.Keeps (frame.emitMemberStores receiver pairs) before fun _ _ => True := by
  induction pairs generalizing before with
  | nil => exact .pure trivial
  | cons pair rest rest_ih =>
    obtain ⟨var, param⟩ := pair
    refine .ask_bind ?_
    intro member _
    refine .check_bind ?_
    intro ty _
    refine .bind (.lift (.recordMemberAddr usable var member.name ty)) ?_
    intro address first first_steady temporary
    refine .bind (.local? param) ?_
    intro found second second_steady bound
    have receiver_usable := policy.usable_of_steady (first_steady.trans second_steady) usable
    have address_usable := policy.usable_of_steady second_steady temporary.1
    cases found with
    | none =>
      refine .ask_bind ?_
      intro decl _
      exact .abort_bind _ _
    | some value =>
      refine .bind (.lift (.store (bound value rfl).1 address_usable)) ?_
      intro _ third third_steady _
      exact rest_ih third (policy.usable_of_steady third_steady receiver_usable)

theorem Finishes.emitSynthesized (before : Activation) :
    policy.Finishes frame.emitSynthesized before fun _ _ => True := by
  refine .ask_bind ?_
  intro decl _
  refine .check_bind ?_
  intro routine _
  simp only
  split
  · exact .abort_bind _ _
  · cases decl.parent with
    | none => exact .abort _
    | some parent =>
      refine .ask_bind ?_
      intro outer _
      split
      · cases routine.self with
        | none => exact .abort_bind _ _
        | some self =>
          refine (Keeps.local? self).finishes ?_
          intro found between _ bound
          cases found with
          | none => exact .abort_bind _ _
          | some receiver =>
            simp only [pure_bind]
            refine .ask_bind ?_
            intro vars _
            have usable := (bound receiver rfl).1
            refine (Keeps.emitMemberStores _ between usable).finishes ?_
            intro _ middle steady _
            refine (Keeps.lift (.load (policy.usable_of_steady steady usable))).finishes ?_
            intro result last _ temporary
            exact .of_terminated (.ret temporary.1)
      · exact .abort _

/-- A body accounts for the block that it is written to. -/
theorem Finishes.emitBody {nested : DeclId → PassM Unit}
    (below : policy.VisitsAll nested) {routine : Routine}
    (owned : frame.routine = .ok routine) (before : Activation) :
    policy.Finishes (frame.emitBody nested routine) before fun _ _ => True := by
  unfold Frame.emitBody
  cases given : routine.body with
  | none => exact .emitSynthesized before
  | some body =>
    obtain ⟨decl, found, listed⟩ := Frame.decl_of_routine owned
    have flows := Flows.emitStmts below owned body.stmts
      (fun _ inside => Program.occurs_body found listed given inside) before
    intro ready value after done
    obtain ⟨_, between, ran, done⟩ := (run_bind _ _ _ _ _).mp done
    obtain ⟨flow, ran, _⟩ := (run_map _ _ _ _ _).mp ran
    have left := flows ready flow between ran
    unfold Left at left
    split at left
    next =>
      obtain ⟨finished, _⟩ := Finishes.emitEnd body owned between left.1 value after done
      exact ⟨⟨finished.formed, finished.holds, left.2.closes finished.closes⟩, trivial⟩
    next ends =>
      have ordinary : routine.isConstructor = false := by simp_all
      obtain rfl := run_emitEnd_of_terminated owned ordinary left.2 done
      exact ⟨left.1, trivial⟩

end Policy

namespace Policy

variable {job : Job} {policy : Policy job} {before : Pass}

/-- A receiver is an argument or a location of its own. -/
theorem Maintains.bindReceiver (name : String) (routine : Routine) {args : List Value}
    (bindable : ∀ arg ∈ args, policy.Bindable before arg) :
    policy.Maintains (job.bindReceiver name routine args) before fun result after =>
      policy.Bound after result.1 ∧ ∀ arg ∈ result.2, policy.Bindable after arg := by
  unfold Job.bindReceiver
  cases routine.self with
  | none => exact .pure ⟨bound_empty before, bindable⟩
  | some self =>
    simp only
    split
    · cases args with
      | nil => exact .abort _
      | cons receiver rest =>
        exact .pure ⟨(bound_empty before).insert self (bindable _ (List.mem_cons_self ..)),
          fun arg inside => bindable arg (List.mem_cons_of_mem _ inside)⟩
    · split
      · refine .ask_bind ?_
        intro decl _
        refine .bind (.allocStack _) ?_
        intro location between steady temporary
        exact .pure ⟨(bound_empty between).insert self temporary.bindable,
          fun arg inside => (bindable arg inside).of_steady steady⟩
      · exact .abort _

theorem bindArguments_bound {name : String} {pass : Pass} (ids : List DeclId)
    {locals bound : Locals} {args : List Value} (start : policy.Bound pass locals)
    (bindable : ∀ arg ∈ args, policy.Bindable pass arg)
    (done : job.bindArguments name locals ids args = .ok bound) : policy.Bound pass bound := by
  induction ids generalizing locals args with
  | nil =>
    obtain rfl := Job.bindArguments_nil.mp done
    exact start
  | cons id rest rest_ih =>
    obtain ⟨arg, others, rfl, done⟩ := Job.bindArguments_cons.mp done
    exact rest_ih (start.insert id (bindable _ (List.mem_cons_self ..)))
      (fun later inside => bindable later (List.mem_cons_of_mem _ inside)) done

/-- The arguments of a block, and a receiver of its own, are what the locals are bound to. -/
theorem Maintains.bindEntry (id : DeclId) (routine : Routine) (name : String) {args : List Value}
    (bindable : ∀ arg ∈ args, policy.Bindable before arg) :
    policy.Maintains (job.bindEntry id routine name args) before fun locals after =>
      policy.Bound after locals := by
  refine .bind (.bindReceiver name routine bindable) ?_
  rintro ⟨locals, args⟩ between _ ⟨bound, bindable⟩
  refine .ask_bind ?_
  intro captures _ working holds value after done
  obtain ⟨given, rfl⟩ := (lift_check _ _ _ _).mp done
  exact ⟨working, holds, .refl between, bindArguments_bound _ bound bindable given⟩

theorem Concludes.activate {A : Type} {locals : Locals} {body : BodyM A}
    (bound : policy.Bound before locals)
    (finishes : policy.Finishes body ⟨before, locals⟩ fun _ _ => True) :
    policy.Concludes (PassM.activate locals body) before := by
  intro working holds value after done
  obtain ⟨activation, ran, rfl⟩ := (run_activate _ _ _ _ _).mp done
  obtain ⟨finished, _⟩ := finishes ⟨working, holds, bound⟩ value activation ran
  exact ⟨finished.formed, finished.holds, finished.closes⟩

section Nested

variable {nested : DeclId → PassM Unit}
  (below : policy.VisitsAll nested)

include below

theorem Visits.fill {id : DeclId} {decl : Decl} {routine : Routine}
    (found : job.program.decl id = .ok decl) (listed : decl.routine? = some routine)
    (name : String) (signature : Signature) :
    policy.Visits (PassM.restoring (job.fill nested id routine name signature)) before
      fun _ _ => True := by
  refine .writing (fun _ _ => rfl) ?_
  intro args middle _ bindable
  refine .bind (.bindEntry id routine name bindable) ?_
  intro locals between _ bound
  refine .activate bound ?_
  have owned : Frame.routine { job with owner := id } = .ok routine :=
    Frame.routine_eq_ok found listed
  exact .emitBody below owned _

theorem Visits.emitRoutine (id : DeclId) (before : Pass) :
    policy.Visits (job.emitRoutine nested id) before fun _ _ => True := by
  refine .ask_bind ?_
  intro decl found
  cases listed : decl.routine? with
  | none => exact .abort _
  | some routine =>
    simp only
    split
    · exact .pure trivial
    · refine .bind (.discard (.declare id)) ?_
      intro _ first _ _
      refine .bind (.functionName id) ?_
      intro name second _ _
      split
      · exact .pure trivial
      · refine .get_bind ?_
        split
        · exact .abort _
        next function _ =>
          split
          · exact .abort_bind _ _
          · exact .fill below found listed name function.signature

end Nested

end Policy

end Lowering
