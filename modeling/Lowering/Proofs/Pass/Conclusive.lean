import Lowering.Pass.Declaration
import Lowering.Proofs.Pass.Allotment

/-
This file says of a step that it never stops because a walk along the declarations has no end. What
is composed of such steps is such a step, and so is all that only builds.
-/

namespace Lowering

open IR

/-- A walk along the declarations has not come to an end. -/
def QueryError.isEndless : QueryError → Bool
  | .endless _ => true
  | _ => false

def Abort.isEndless : Abort → Bool
  | .query error => error.isEndless
  | .violation _ => false

/-- A question about a program has an answer, or else it is not for want of steps. -/
class Answered {A : Type} (answer : Answer A) : Prop where
  answered : ∀ {error : QueryError}, answer = .error error → error.isEndless = false

/-- A check passes, or else it is not for want of steps that it fails. -/
class Checked {A : Type} (question : CheckM A) : Prop where
  checked : ∀ {abort : Abort}, question = .error abort → abort.isEndless = false

/-- A step returns, or else it is not for want of steps that it stops. -/
class Conclusive {S A : Type} (step : EStateM Abort S A) : Prop where
  conclusive : ∀ {before after : S} {abort : Abort}, step before = .error abort after →
    abort.isEndless = false

namespace Answered

variable {A B : Type}

instance (value : A) : Answered (pure value : Answer A) := ⟨fun impossible => nomatch impossible⟩

instance bind (answer : Answer A) (next : A → Answer B) [first : Answered answer]
    [rest : ∀ value, Answered (next value)] : Answered (answer >>= next) where
  answered {error} given := by
    cases asked : answer with
    | ok value =>
      exact (rest value).answered (by simpa [asked, Bind.bind, Except.bind] using given)
    | error own =>
      obtain rfl : own = error := by simpa [asked, Bind.bind, Except.bind] using given
      exact first.answered asked

/-- What follows an answer is looked at for each value. -/
theorem then_ {answer : Answer A} {next : A → Answer B} [Answered answer]
    (rest : ∀ value, Answered (next value)) : Answered (answer >>= next) :=
  bind answer next

instance mapM (each : A → Answer B) [all : ∀ item, Answered (each item)] (items : List A) :
    Answered (items.mapM each) := by
  induction items with
  | nil => exact inferInstanceAs (Answered (pure _))
  | cons item rest rest_ih =>
    rw [List.mapM_cons]
    infer_instance

instance filterM (each : A → Answer Bool) [all : ∀ item, Answered (each item)] (items : List A) :
    Answered (items.filterM each) := by
  have go (items kept : List A) : Answered (items.filterAuxM each kept) := by
    induction items generalizing kept with
    | nil => exact inferInstanceAs (Answered (pure _))
    | cons item rest rest_ih =>
      refine @bind _ _ _ _ (all item) fun keeps => ?_
      cases keeps
      · exact rest_ih kept
      · exact rest_ih (item :: kept)
  have := go items []
  exact inferInstanceAs (Answered (_ >>= fun kept => pure (List.reverse kept)))

end Answered

namespace Checked

variable {A B : Type}

instance (value : A) : Checked (pure value : CheckM A) := ⟨fun impossible => nomatch impossible⟩

instance bind (question : CheckM A) (next : A → CheckM B) [first : Checked question]
    [rest : ∀ value, Checked (next value)] : Checked (question >>= next) where
  checked {abort} given := by
    cases asked : question with
    | ok value => exact (rest value).checked (by simpa [asked, Bind.bind, Except.bind] using given)
    | error own =>
      obtain rfl : own = abort := by simpa [asked, Bind.bind, Except.bind] using given
      exact first.checked asked

/-- What follows a question is looked at for each value. -/
theorem then_ {question : CheckM A} {next : A → CheckM B} [Checked question]
    (rest : ∀ value, Checked (next value)) : Checked (question >>= next) :=
  bind question next

instance (answer : Answer A) [answered : Answered answer] :
    Checked (liftM answer : CheckM A) where
  checked {abort} given := by
    cases asked : answer with
    | ok =>
      rw [asked] at given
      cases given
    | error error =>
      rw [asked] at given
      exact Except.error.inj given ▸ answered.answered asked

instance (violation : Violation) : Checked (Lowering.abort violation : CheckM A) where
  checked given := Except.error.inj given ▸ rfl

instance (condition : Prop) [Decidable condition] (first second : CheckM A)
    [one : Checked first] [other : Checked second] :
    Checked (if condition then first else second) := by
  split
  · exact one
  · exact other

instance mapM (each : A → CheckM B) [all : ∀ item, Checked (each item)] (items : List A) :
    Checked (items.mapM each) := by
  induction items with
  | nil => exact inferInstanceAs (Checked (pure _))
  | cons item rest rest_ih =>
    rw [List.mapM_cons]
    infer_instance

instance forM (each : A → CheckM PUnit) [all : ∀ item, Checked (each item)] (items : List A) :
    Checked (items.forM each) := by
  induction items with
  | nil => exact inferInstanceAs (Checked (pure _))
  | cons item rest rest_ih => exact inferInstanceAs (Checked (each item >>= fun _ => rest.forM each))

end Checked

namespace Conclusive

section Steps

variable {S A B : Type}

instance (value : A) : Conclusive (pure value : EStateM Abort S A) where
  conclusive stops := ((run_pure_error _ _ _ _).mp stops).elim

instance bind (step : EStateM Abort S A) (next : A → EStateM Abort S B)
    [first : Conclusive step] [rest : ∀ value, Conclusive (next value)] :
    Conclusive (step >>= next) where
  conclusive stops := by
    obtain stops | ⟨value, between, _, stops⟩ := (run_bind_error _ _ _ _ _).mp stops
    · exact first.conclusive stops
    · exact (rest value).conclusive stops

/-- What follows a step is looked at for each value. -/
theorem then_ {step : EStateM Abort S A} {next : A → EStateM Abort S B} [Conclusive step]
    (rest : ∀ value, Conclusive (next value)) : Conclusive (step >>= next) :=
  bind step next

instance map (change : A → B) (step : EStateM Abort S A) [only : Conclusive step] :
    Conclusive (change <$> step) where
  conclusive stops := only.conclusive ((run_map_error _ _ _ _ _).mp stops)

instance (step : EStateM Abort S A) [Conclusive step] : Conclusive (discard step) :=
  inferInstanceAs (Conclusive (_ <$> step))

instance : Conclusive (get : EStateM Abort S S) := ⟨fun stops => nomatch stops⟩

instance (change : S → S) : Conclusive (modify change : EStateM Abort S PUnit) where
  conclusive stops := ((run_modify_error _ _ _ _).mp stops).elim

instance (condition : Prop) [Decidable condition] (first second : EStateM Abort S A)
    [one : Conclusive first] [other : Conclusive second] :
    Conclusive (if condition then first else second) := by
  split
  · exact one
  · exact other

instance forM (each : B → EStateM Abort S PUnit) [all : ∀ item, Conclusive (each item)]
    (items : List B) : Conclusive (items.forM each) := by
  induction items with
  | nil => exact inferInstanceAs (Conclusive (pure _))
  | cons item rest rest_ih =>
    exact inferInstanceAs (Conclusive (each item >>= fun _ => rest.forM each))

instance mapM (each : A → EStateM Abort S B) [all : ∀ item, Conclusive (each item)]
    (items : List A) : Conclusive (items.mapM each) := by
  induction items with
  | nil => exact inferInstanceAs (Conclusive (pure _))
  | cons item rest rest_ih =>
    rw [List.mapM_cons]
    infer_instance

end Steps

section Lifts

variable {A : Type}

instance (question : CheckM A) [checked : Checked question] :
    Conclusive (liftM question : PassM A) where
  conclusive stops := checked.checked ((lift_check_error _ _ _ _).mp stops).1

/-- What stands after an abort is never run. -/
instance (violation : Violation) {B : Type} (next : A → PassM B) :
    Conclusive (liftM (abort violation : CheckM A) >>= next) where
  conclusive stops := by
    obtain stops | ⟨_, _, ran, _⟩ := (run_bind_error _ _ _ _ _).mp stops
    · exact Checked.checked ((lift_check_error _ _ _ _).mp stops).1
    · exact ((run_check_abort _ _ _ _).mp ran).elim

instance (violation : Violation) {B : Type} (next : A → BodyM B) :
    Conclusive (liftM (abort violation : CheckM A) >>= next) where
  conclusive stops := by
    obtain stops | ⟨_, _, ran, _⟩ := (run_bind_error _ _ _ _ _).mp stops
    · obtain ⟨_, stops, _⟩ := (lift_pass_error _ _ _ _).mp stops
      exact Checked.checked ((lift_check_error _ _ _ _).mp stops).1
    · exact ((run_ask_abort _ _ _ _).mp ran).elim

instance (answer : Answer A) [Answered answer] : Conclusive (liftM answer : PassM A) :=
  inferInstanceAs (Conclusive (liftM (liftM answer : CheckM A) : PassM A))

/-- What follows a question is looked at for the answer. -/
theorem ask_then {question : Answer A} {B : Type} {next : A → PassM B} [Answered question]
    (rest : ∀ value, question = .ok value → Conclusive (next value)) :
    Conclusive (liftM question >>= next) where
  conclusive stops := by
    obtain stops | ⟨value, _, asked, stops⟩ := (run_bind_error _ _ _ _ _).mp stops
    · exact Checked.checked ((lift_check_error (liftM question) _ _ _).mp stops).1
    · have given := ((lift_check (liftM question) _ _ _).mp asked).1
      exact (rest value ((lift_answer _ _).mp given)).conclusive stops

instance (step : BuildM A) : Conclusive (liftM step : PassM A) where
  conclusive stops := by
    obtain ⟨_, _, _, rfl, _⟩ := (lift_build_error _ _ _ _).mp stops
    rfl

instance (step : PassM A) [only : Conclusive step] : Conclusive (liftM step : BodyM A) where
  conclusive stops := by
    obtain ⟨_, stops, _⟩ := (lift_pass_error _ _ _ _).mp stops
    exact only.conclusive stops

instance (question : CheckM A) [Checked question] : Conclusive (liftM question : BodyM A) :=
  inferInstanceAs (Conclusive (liftM (liftM question : PassM A) : BodyM A))

instance (answer : Answer A) [Answered answer] : Conclusive (liftM answer : BodyM A) :=
  inferInstanceAs (Conclusive (liftM (liftM answer : PassM A) : BodyM A))

instance (step : BuildM A) : Conclusive (liftM step : BodyM A) :=
  inferInstanceAs (Conclusive (liftM (liftM step : PassM A) : BodyM A))

instance (step : PassM A) [only : Conclusive step] : Conclusive (PassM.restoring step) where
  conclusive {before after abort} stops := by
    unfold PassM.restoring at stops
    cases ran : step before with
    | ok =>
      rw [ran] at stops
      cases stops
    | error own last =>
      rw [ran] at stops
      cases stops
      exact only.conclusive ran

instance (locals : Locals) (body : BodyM A) [only : Conclusive body] :
    Conclusive (PassM.activate locals body) where
  conclusive stops := by
    obtain ⟨_, stops, _⟩ := (run_activate_error _ _ _ _ _).mp stops
    exact only.conclusive stops

instance (id : DeclId) : Conclusive (BodyM.local? id) :=
  inferInstanceAs (Conclusive (get >>= fun _ => pure _ : BodyM _))

instance (id : DeclId) (value : Value) : Conclusive (BodyM.bindLocal id value) :=
  inferInstanceAs (Conclusive (modify _ : BodyM PUnit))

instance (finding : Finding) : Conclusive (PassM.report finding) :=
  inferInstanceAs (Conclusive (modify _ : PassM PUnit))

instance (failure : Unlowerable) (span : Span) : Conclusive (BodyM.report failure span) :=
  inferInstanceAs (Conclusive (liftM (PassM.report _) : BodyM Unit))

end Lifts

section Attempts

variable {A B : Type}

instance (value : A) : Conclusive (ExceptT.run (pure value : Attempt A)) :=
  inferInstanceAs (Conclusive (pure _ : BodyM _))

instance (failure : Unlowerable) : Conclusive (ExceptT.run (Frame.fail failure : Attempt A)) :=
  inferInstanceAs (Conclusive (pure _ : BodyM _))

instance attempt_bind (attempt : Attempt A) (next : A → Attempt B) [Conclusive attempt.run]
    [rest : ∀ value, Conclusive (next value).run] :
    Conclusive (ExceptT.run (attempt >>= next)) := by
  have (first : Except Unlowerable A) : Conclusive (ExceptT.bindCont (m := BodyM) next first) := by
    cases first with
    | ok value => exact rest value
    | error => exact inferInstanceAs (Conclusive (pure _ : BodyM _))
  exact inferInstanceAs (Conclusive (attempt.run >>= ExceptT.bindCont next))

theorem attempt_then {attempt : Attempt A} {next : A → Attempt B} [Conclusive attempt.run]
    (rest : ∀ value, Conclusive (next value).run) : Conclusive (ExceptT.run (attempt >>= next)) :=
  attempt_bind attempt next

/-- What stands after a failure is never tried. -/
instance (failure : Unlowerable) (next : A → Attempt B) :
    Conclusive (ExceptT.run (Frame.fail failure >>= next)) :=
  inferInstanceAs (Conclusive (pure _ : BodyM _))

instance (step : BodyM A) [Conclusive step] : Conclusive (ExceptT.run (liftM step : Attempt A)) :=
  inferInstanceAs (Conclusive (Except.ok <$> step))

instance (step : PassM A) [Conclusive step] : Conclusive (ExceptT.run (liftM step : Attempt A)) :=
  inferInstanceAs (Conclusive (ExceptT.run (liftM (liftM step : BodyM A) : Attempt A)))

instance (step : BuildM A) : Conclusive (ExceptT.run (liftM step : Attempt A)) :=
  inferInstanceAs (Conclusive (ExceptT.run (liftM (liftM step : BodyM A) : Attempt A)))

instance (question : CheckM A) [Checked question] :
    Conclusive (ExceptT.run (liftM question : Attempt A)) :=
  inferInstanceAs (Conclusive (ExceptT.run (liftM (liftM question : BodyM A) : Attempt A)))

instance (answer : Answer A) [Answered answer] :
    Conclusive (ExceptT.run (liftM answer : Attempt A)) :=
  inferInstanceAs (Conclusive (ExceptT.run (liftM (liftM answer : BodyM A) : Attempt A)))

instance (condition : Prop) [Decidable condition] (first second : Attempt A)
    [one : Conclusive first.run] [other : Conclusive second.run] :
    Conclusive (ExceptT.run (if condition then first else second)) := by
  split
  · exact one
  · exact other

instance recover (attempt : Attempt A) (other : Unlowerable → BodyM A) [Conclusive attempt.run]
    [rest : ∀ failure, Conclusive (other failure)] : Conclusive (attempt.recover other) := by
  have (first : Except Unlowerable A) : Conclusive (match first with
      | .ok value => pure value
      | .error failure => other failure : BodyM A) := by
    cases first with
    | ok value => exact inferInstanceAs (Conclusive (pure value))
    | error failure => exact rest failure
  exact bind attempt.run _

end Attempts

end Conclusive

end Lowering
