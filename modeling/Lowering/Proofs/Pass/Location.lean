import Lowering.Pass.Location
import Lowering.Proofs.Pass.Primitive

/-
This file carries policies through the lowering of locations and of references. A location is a
temporary or the error value, and only a reference yields a function.
-/

namespace Lowering

open IR

namespace Policy

variable {job : Job} {policy : Policy job} {before : Activation}

theorem Keeps.local? (id : DeclId) :
    policy.Keeps (BodyM.local? id) before fun found after =>
      ∀ value, found = some value → policy.Bindable after.pass value := by
  intro ready found after done
  unfold BodyM.local? at done
  obtain ⟨_, _, read, done⟩ := (run_bind _ _ _ _ _).mp done
  obtain ⟨rfl, rfl⟩ := (run_get _ _ _).mp read
  obtain ⟨rfl, rfl⟩ := (run_pure _ _ _ _).mp done
  exact ⟨ready, .refl _, fun value same => ready.locals id value same⟩

theorem Keeps.bindLocal (id : DeclId) {value : Value}
    (bindable : policy.Bindable before.pass value) :
    policy.Keeps (BodyM.bindLocal id value) before fun _ after => after.pass = before.pass := by
  intro ready _ after done
  obtain rfl := (run_modify _ _ _ _).mp done
  exact ⟨⟨ready.working, ready.holds, ready.locals.insert id bindable⟩, .refl _, rfl⟩

theorem Keeps.report (failure : Unlowerable) (span : Span) :
    policy.Keeps (BodyM.report failure span) before fun _ after =>
      after.pass.report.containsError = true := by
  refine .mono (.lift (Visits.report _ (Visits.message_of_unlowered failure span)).maintains) ?_
  intro _ after reported
  exact reported rfl

/-- A failure that is reported leaves an error value behind. -/
theorem Keeps.report_error (failure : Unlowerable) (span : Span) (type : OperandType) :
    policy.Keeps (do BodyM.report failure span; return Value.error type) before
      fun value after => value = Value.error type ∧ policy.Usable after.pass value := by
  refine .bind (.report failure span) ?_
  intro _ between _ reported
  exact .pure ⟨rfl, policy.usable_error type (Or.inl reported)⟩

end Policy

namespace Policy

variable {frame : Frame} {policy : Policy frame.toJob}

theorem Tries.location (expr : Expr) (occurs : frame.program.Occurs expr) (before : Activation) :
    policy.Tries (frame.location expr) before
      fun value after => policy.Bindable after.pass value := by
  rw [Frame.location.eq_def]
  split
  next flawed =>
    exact .pure ⟨policy.usable_error _ (Or.inr (Or.inr ⟨expr, occurs, Or.inl flawed⟩)),
      isLocal_error _⟩
  next =>
    cases expr with
    | ref note id =>
      refine .bind (.lift (Keeps.local? id)) ?_
      intro found between _ bound
      cases found with
      | some value =>
        simp only
        split
        · exact .pure (bound value rfl)
        · exact .fail _
      | none =>
        refine .ask_bind ?_
        intro decl _
        split <;> exact .fail _
    | member note base id =>
      refine .ask_bind ?_
      intro decl _
      simp only
      split
      · exact .fail_bind _ _
      · split
        · exact .fail_bind _ _
        · refine .bind (Tries.location base occurs.base before) ?_
          intro record between _ bindable
          refine .check_bind ?_
          intro ty _
          exact .mono (.lift (.lift (Maintains.recordMemberAddr bindable.1 _ _ _)))
            fun _ _ temporary => temporary.bindable
    | addressOf note operand => exact Tries.location operand occurs.operand before
    | bool | int | float | string | call | assign | error => exact .fail _

theorem Keeps.emitLocation (expr : Expr) (occurs : frame.program.Occurs expr)
    (before : Activation) :
    policy.Keeps (frame.emitLocation expr) before
      fun value after => policy.Bindable after.pass value := by
  refine Tries.recover (.location expr occurs before) ?_
  intro failure between _
  refine .mono (.report_error failure _ _) ?_
  rintro value after ⟨rfl, usable⟩
  exact ⟨usable, isLocal_error _⟩

theorem Tries.captureValues (captures : List DeclId) (before : Activation) :
    policy.Tries (frame.captureValues captures) before
      fun values after => ∀ value ∈ values, policy.Usable after.pass value := by
  induction captures generalizing before with
  | nil => exact .pure fun _ inside => nomatch inside
  | cons capture rest rest_ih =>
    refine .bind (.lift (.local? capture)) ?_
    intro found between _ bound
    cases found with
    | none =>
      refine .ask_bind ?_
      intro decl _
      exact .fail _
    | some value =>
      refine .bind (rest_ih between) ?_
      intro values last steady usable
      refine .pure ?_
      intro other inside
      rcases List.mem_cons.mp inside with rfl | later
      · exact policy.usable_of_steady steady (bound _ rfl).1
      · exact usable other later

/-- A usable value of an expression. -/
def Yields (policy : Policy frame.toJob) (expr : Expr) (value : Value) (after : Activation) :
    Prop :=
  policy.Usable after.pass value ∧ frame.toJob.Refers after.pass expr value

theorem Temporary.yields {value : Value} {after : Activation}
    (temporary : policy.Temporary after.pass value) (expr : Expr) :
    policy.Yields expr value after :=
  ⟨temporary.1, Job.refers_of_kind _ _ (kind_of_temporary temporary.2)⟩

theorem Bindable.yields {value : Value} {after : Activation}
    (bindable : policy.Bindable after.pass value) (expr : Expr) : policy.Yields expr value after :=
  ⟨bindable.1, Job.refers_of_kind _ _ (kind_of_local bindable.2)⟩

theorem yields_error {type : OperandType} {after : Activation} (expr : Expr)
    (usable : policy.Usable after.pass (Value.error type)) :
    policy.Yields expr (Value.error type) after :=
  ⟨usable, Job.refers_of_kind _ _ (kind_of_local (isLocal_error type))⟩

theorem yields_literal {value : Value} (after : Activation) (expr : Expr)
    (literal : value.IsLiteral) : policy.Yields expr value after :=
  ⟨policy.usable_literal after.pass literal, Job.refers_of_kind _ _ literal.2.2⟩

theorem Tries.reference (note : Note) (id : DeclId) (before : Activation) :
    policy.Tries (frame.reference id) before (policy.Yields (.ref note id)) := by
  refine .bind (.lift (Keeps.local? id)) ?_
  intro found between _ bound
  cases found with
  | some value =>
    simp only
    split
    · exact .mono (.lift (.lift (Maintains.load (bound value rfl).1)))
        fun _ _ temporary => temporary.yields _
    · exact .pure ((bound value rfl).yields _)
  | none =>
    refine .ask_bind ?_
    intro decl found
    split
    next routine kind =>
      split
      · exact .pure (yields_literal between _ ⟨rfl, rfl, fun name => by simp [Value.builtin]⟩)
      · simp only
        split
        · exact .fail_bind _ _
        · rename_i free
          refine .ask_bind ?_
          intro captures captured
          split
          next none =>
            refine .mono (.lift (.lift (Visits.declare id).maintains)) ?_
            intro value after declared
            refine ⟨policy.usable_declared declared, ?_⟩
            intro name _
            obtain rfl := List.isEmpty_iff.mp none
            exact ⟨note, id, decl, routine, rfl, found, by simp [Decl.routine?, kind,
              DeclKind.routine?], by simpa using free, captured, declared⟩
          next =>
            split
            · exact .fail_bind _ _
            · refine .bind (.captureValues captures between) ?_
              intro args middle _ usable
              refine .bind (.lift (.lift (Visits.declare id).maintains)) ?_
              intro function last steady declared
              refine .check_bind ?_
              intro ty _
              exact .mono (.lift (.lift (Maintains.partialApply (policy.usable_declared declared)
                (all_usable steady usable) _))) fun _ _ temporary => temporary.yields _
    next =>
      split <;> exact .fail _

theorem Keeps.emitReference (id : DeclId) (span : Span) (before : Activation) :
    policy.Keeps (frame.emitReference id span) before
      fun value after => policy.Usable after.pass value := by
  refine Tries.recover (.mono (.reference ⟨.unit, span⟩ id before) fun _ _ yields => yields.1) ?_
  intro failure between _
  refine .bind (.report failure span) ?_
  intro _ middle _ reported
  refine .ask_bind ?_
  intro decl _
  exact .pure (policy.usable_error _ (Or.inl reported))

end Policy

end Lowering
