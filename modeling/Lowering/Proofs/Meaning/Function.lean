import Lowering.Proofs.Meaning.Statement
import Lowering.Proofs.Pass.Function
import Lowering.Proofs.Pass.Signature

/-
This file shows that a function of the fragment runs as its calls do: the arguments are bound, the
body is carried out, and one of the three ends follows it.
-/

namespace Lowering

open IR

namespace Frame

variable {frame : Frame} {start machine : Machine} {before after : Activation} {store : Store}
  {routine : Routine}

/-- A constructor returns what its receiver holds at the end. -/
theorem emitConstructorEnd_ends (live : frame.toJob.Live start before store machine) {given : Unit}
    (done : emitConstructorEnd routine before = .ok given after) :
    ∃ self tree, routine.self = some self ∧ store self = some tree ∧
      after.pass.Ends start (.returned tree) := by
  obtain ⟨self, location, receiver, between, own, bound, loaded, done⟩ :=
    emitConstructorEnd_cases done
  obtain ⟨tree, known, holds⟩ := live.mirrors.values self location bound
  cases holds with
  | object object word =>
    obtain ⟨builder, ran, rfl⟩ := (lift_body _ _ _ _).mp loaded
    obtain ⟨_, _, checked, _⟩ := (run_bind _ _ _ _ _).mp ran
    have addressed := (BuildM.run_requireAddress checked).1
    rw [object, Machine.isError_of_word? word] at addressed
    cases addressed
  | cell cell address concrete word stored =>
    obtain ⟨later, live, _, result⟩ := live.load word stored loaded
    exact ⟨self, tree, own, known, live.ret result done⟩

/-- What follows the statements concludes the call. -/
theorem emitEnd_ends {progress : Progress} {flow : Flow} {result : Ty} {body : Body} {given : Unit}
    (meets : frame.Meets routine.isConstructor start progress flow before)
    (owned : frame.routine = .ok routine) (returns : ∀ ty, frame.returnType = .ok ty → ty = result)
    (terminated : routine.isConstructor = false → flow ≠ .fallthrough →
      before.pass.builder.isTerminated = true)
    (done : frame.emitEnd body before = .ok given after)
    (accepted : after.pass.report.containsError = false) :
    ∃ outcome, routine.conclude result progress = some outcome ∧ after.pass.Ends start outcome := by
  cases constructs : routine.isConstructor with
  | true =>
    have live : ∃ machine, frame.toJob.Live start before progress.store machine := by
      cases meets with
      | falls _ live => exact ⟨_, live⟩
      | goes _ _ _ live => exact ⟨_, live⟩
      | ends _ _ ordinary => simp [constructs] at ordinary
    obtain ⟨machine, live⟩ := live
    obtain ⟨again, owned_again, done⟩ := (run_ask_bind _ _ _ _ _).mp done
    obtain rfl := Except.ok.inj (owned.symm.trans owned_again)
    simp only [constructs, if_true] at done
    obtain ⟨self, tree, own, known, ends⟩ := emitConstructorEnd_ends live done
    exact ⟨.returned tree, by simp [Routine.conclude, constructs, own, known], ends⟩
  | false =>
    cases meets with
    | goes _ _ constructor_ => simp [constructs] at constructor_
    | ends left ended _ ends =>
      obtain rfl := Policy.run_emitEnd_of_terminated owned constructs (terminated constructs left) done
      exact ⟨_, by simp [Routine.conclude, constructs, ended], ends⟩
    | falls open_ live =>
      obtain ⟨function, block, place, _⟩ := live.executes
      obtain ⟨again, owned_again, done⟩ := (run_ask_bind _ _ _ _ _).mp done
      obtain rfl := Except.ok.inj (owned.symm.trans owned_again)
      simp only [constructs, Bool.false_eq_true, if_false] at done
      obtain ⟨ended, between, read, done⟩ := (run_bind _ _ _ _ _).mp done
      obtain ⟨rfl, rfl⟩ := Policy.run_isTerminated read
      rw [place.isTerminated] at done
      obtain ⟨ty, given, done⟩ := (run_ask_bind _ _ _ _ _).mp done
      obtain rfl := returns ty given
      split at done
      · exact ⟨.halted, by simp [Routine.conclude, constructs, open_], live.terminate rfl done⟩
      · exact ⟨.returned .unit, by simp [Routine.conclude, constructs, open_], live.ret rfl done⟩
      · obtain ⟨pass, ran, rfl⟩ := (lift_pass _ _ _ _).mp done
        obtain rfl := (run_modify _ _ _ _).mp ran
        simp [Report.containsError_add, Finding.diagnostic, Diagnostic.isError] at accepted

/-- A body is carried out and concluded. -/
theorem emitBody_ends {nested : DeclId → PassM Unit}
    (below : (naming frame.toJob).VisitsAll nested)
    {decl : Decl} {body : Body}
    (elementary : frame.program.Elementary frame.owner decl routine body)
    (live : frame.toJob.Live start before store machine) {given : Unit}
    (done : frame.emitBody nested routine before = .ok given after)
    (accepted : after.pass.report.containsError = false) :
    ∃ progress outcome, frame.program.execAll store body.stmts = some progress ∧
      routine.conclude (Program.appliedType decl).result progress = some outcome ∧
      after.pass.Ends start outcome := by
  have owned := routine_eq_ok elementary.found elementary.listed
  have occurs : ∀ expr ∈ Stmt.exprsAll body.stmts, frame.program.Occurs expr :=
    fun _ inside => Program.occurs_body elementary.found elementary.listed elementary.given inside
  obtain ⟨flow, between, ran, done⟩ := run_emitBody elementary.given done
  have left := Policy.Flows.emitStmts below owned body.stmts occurs before live.ready flow between ran
  obtain ⟨unapplied, asked, _, plain⟩ := elementary.typed
  obtain ⟨_, _, _, result⟩ :=
    Program.unappliedType_eq_ok elementary.found elementary.listed asked
  rw [result] at plain
  have returns (ty : Ty) (given : frame.returnType = .ok ty) :
      ty = (Program.appliedType decl).result := by
    obtain ⟨again, asked_again, contextual⟩ := (check_bind _ _ _).mp given
    obtain rfl := Except.ok.inj (asked.symm.trans ((lift_answer _ _).mp asked_again))
    rw [result] at contextual
    exact contextualize_of_isPlain plain contextual
  have typed (ty : Ty) (given : frame.returnType = .ok ty) : ty.isPlain = true :=
    returns ty given ▸ plain
  have clean := (left.emitEnd_grows owned done).accepted accepted
  have terminated (ordinary : routine.isConstructor = false) (goes : flow ≠ .fallthrough) :
      between.pass.builder.isTerminated = true := by
    unfold Policy.Left at left
    rw [if_neg (by simp [ordinary, goes])] at left
    exact left.2
  obtain ⟨progress, means, meets⟩ :=
    emitStmts_exec below owned typed body.stmts elementary.body occurs live ran clean
  obtain ⟨outcome, concludes, ends⟩ := emitEnd_ends meets owned returns terminated done accepted
  exact ⟨progress, outcome, means, concludes, ends⟩

end Frame

end Lowering
