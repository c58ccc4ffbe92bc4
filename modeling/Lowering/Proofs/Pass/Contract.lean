import Lowering.Pass.Location
import Lowering.Proofs.Run

/-
This file says what it takes for a run to keep to a contract: a property that it keeps while it goes
on, and one that holds where it stops. What a step yields is described along with it. There is one
rule for each way to compose steps.
-/

namespace Lowering

open IR

/-- Whether the builder was misused. -/
def Abort.isMisuse : Abort → Bool
  | .violation (.misuse _) => true
  | _ => false

/-- A question may have no answer, but it misuses no builder. -/
class Blameless {A : Type} (question : CheckM A) : Prop where
  blameless : ∀ {abort : Abort}, question = .error abort → abort.isMisuse = false

namespace Blameless

variable {A B : Type}

instance (value : A) : Blameless (Pure.pure value : CheckM A) :=
  ⟨fun impossible => nomatch impossible⟩

instance (answer : Answer A) : Blameless (MonadLift.monadLift answer : CheckM A) where
  blameless {abort} given := by
    cases answer with
    | ok => cases given
    | error error => exact Except.error.inj given ▸ rfl

instance (answer : Answer A) : Blameless (liftM answer : CheckM A) :=
  inferInstanceAs (Blameless (MonadLift.monadLift answer))

theorem abort {violation : Violation}
    (mild : (Abort.violation violation).isMisuse = false := by rfl) :
    Blameless (Lowering.abort violation : CheckM A) :=
  ⟨fun given => Except.error.inj given ▸ mild⟩

theorem bind {question : CheckM A} {next : A → CheckM B} [first : Blameless question]
    (rest : ∀ value, Blameless (next value)) : Blameless (question >>= next) := by
  constructor
  intro abort given
  cases asked : question with
  | ok value => exact (rest value).blameless (by simpa [asked, Bind.bind, Except.bind] using given)
  | error own =>
    obtain rfl : own = abort := by simpa [asked, Bind.bind, Except.bind] using given
    exact first.blameless asked

theorem mapM {each : A → CheckM B} (all : ∀ item, Blameless (each item)) (items : List A) :
    Blameless (items.mapM each) := by
  induction items with
  | nil => exact inferInstanceAs (Blameless (Pure.pure _))
  | cons item rest rest_ih =>
    rw [List.mapM_cons]
    have := all item
    exact bind fun _ => bind fun _ => inferInstance

theorem forM {each : A → CheckM PUnit} (all : ∀ item, Blameless (each item)) (items : List A) :
    Blameless (items.forM each) := by
  induction items with
  | nil => exact inferInstanceAs (Blameless (Pure.pure _))
  | cons item rest rest_ih =>
    have := all item
    exact bind fun _ => rest_ih

end Blameless

section Frame

variable (frame : Frame)

instance : Blameless frame.routine := by
  refine Blameless.bind fun decl => ?_
  cases decl.routine? with
  | some routine => exact inferInstanceAs (Blameless (pure routine))
  | none => exact .abort

instance (ty : Ty) : Blameless (frame.contextualize ty) := Blameless.bind fun _ => inferInstance

instance : Blameless frame.returnType := Blameless.bind fun _ => inferInstance

end Frame

/-- What holds of a state while a run goes on, and what holds of the state in which it stops. -/
structure Contract (S : Type) where
  Holds : S → Prop
  Stops : Abort → S → Prop := fun _ _ => True
  /-- A run may stop wherever the builder is not to blame. -/
  refused : ∀ {abort : Abort} {state : S}, abort.isMisuse = false → Holds state →
    Stops abort state := by intros; trivial

/-- A run ends as the contract has it, and what it yields if it returns meets a further property. -/
def Contract.Ends {S A : Type} (kept : Contract S) (post : A → Prop) :
    EStateM.Result Abort S A → Prop
  | .ok value after => kept.Holds after ∧ post value
  | .error abort after => kept.Stops abort after

/-- What follows a step is looked at from where it leaves off. -/
theorem Contract.Ends.bind {S A B : Type} {kept : Contract S} {step : EStateM Abort S A}
    {next : A → EStateM Abort S B} {post : B → Prop} {before : S}
    (ok : ∀ value after, step before = .ok value after → kept.Ends post (next value after))
    (error : ∀ abort after, step before = .error abort after → kept.Stops abort after) :
    kept.Ends post ((step >>= next) before) := by
  show kept.Ends post (EStateM.bind step next before)
  unfold EStateM.bind
  cases ran : step before with
  | ok value after => exact ok value after ran
  | error abort after => exact error abort after ran

theorem Contract.Ends.mono {S A : Type} {kept : Contract S} {post weaker : A → Prop}
    {result : EStateM.Result Abort S A} (ends : kept.Ends post result)
    (weaken : ∀ value, post value → weaker value) : kept.Ends weaker result := by
  cases result with
  | ok value after => exact ⟨ends.1, weaken value ends.2⟩
  | error abort after => exact ends

/-- The insertion point of the pass is put back, also where a run stops. -/
theorem Contract.Ends.restoring {A : Type} {kept : Contract Pass} {step : PassM A}
    {post : A → Prop} {before : Pass}
    (holds : ∀ {pass : Pass} (cursor : Option Cursor), kept.Holds pass →
      kept.Holds (pass.withCursor cursor))
    (stops : ∀ {abort : Abort} {pass : Pass} (cursor : Option Cursor), kept.Stops abort pass →
      kept.Stops abort (pass.withCursor cursor))
    (ends : kept.Ends post (step before)) : kept.Ends post (PassM.restoring step before) := by
  unfold PassM.restoring
  cases ran : step before with
  | ok value after =>
    rw [ran] at ends
    exact ⟨holds _ ends.1, ends.2⟩
  | error abort after =>
    rw [ran] at ends
    exact stops _ ends

/-- A step keeps to a contract wherever it starts. -/
structure Sustains {S A : Type} (kept : Contract S) (step : EStateM Abort S A)
    (post : A → Prop) : Prop where
  ok : ∀ before value after, kept.Holds before → step before = .ok value after →
    kept.Holds after ∧ post value
  error : ∀ before abort after, kept.Holds before → step before = .error abort after →
    kept.Stops abort after

namespace Sustains

section Steps

variable {S A B : Type} {kept : Contract S} {step : EStateM Abort S A} {post : A → Prop}

theorem ends (sustained : Sustains kept step post) {before : S} (holds : kept.Holds before) :
    kept.Ends post (step before) := by
  cases ran : step before with
  | ok value after => exact sustained.ok before value after holds ran
  | error abort after => exact sustained.error before abort after holds ran

theorem of_ends (ends : ∀ before, kept.Holds before → kept.Ends post (step before)) :
    Sustains kept step post where
  ok before value after holds done := by
    have ends := ends before holds
    rwa [done] at ends
  error before abort after holds stops := by
    have ends := ends before holds
    rwa [stops] at ends

/-- Whatever a step does, what follows it may keep to the contract wherever it starts. -/
theorem after {next : A → EStateM Abort S B} {last : B → Prop} {before : S}
    (rest : ∀ value, post value → Sustains kept (next value) last)
    (ends : kept.Ends post (step before)) : kept.Ends last ((step >>= next) before) := by
  refine .bind (fun value after ran => ?_) fun abort after stops => ?_
  · rw [ran] at ends
    exact (rest value ends.2).ends ends.1
  · rwa [stops] at ends

theorem pure {value : A} (met : post value) :
    Sustains kept (Pure.pure value : EStateM Abort S A) post where
  ok before other after holds done := by
    obtain ⟨rfl, rfl⟩ := (run_pure _ _ _ _).mp done
    exact ⟨holds, met⟩
  error before abort after _ stops := ((run_pure_error _ _ _ _).mp stops).elim

theorem throw {error : Abort} (mild : error.isMisuse = false) :
    Sustains kept (throw error : EStateM Abort S A) post where
  ok before value after _ done := ((run_throw _ _ _ _).mp done).elim
  error before abort after holds stops := by
    obtain ⟨rfl, rfl⟩ := (run_throw_error _ _ _ _).mp stops
    exact kept.refused mild holds

/-- After a step that keeps to the contract, the run goes on from where that leaves off. -/
theorem ends_bind (first : Sustains kept step post) {next : A → EStateM Abort S B}
    {last : B → Prop} {before : S} (holds : kept.Holds before)
    (rest : ∀ value after, step before = .ok value after → kept.Holds after → post value →
      kept.Ends last (next value after)) : kept.Ends last ((step >>= next) before) := by
  refine .bind (fun value after ran => ?_) fun abort after => first.error before abort after holds
  obtain ⟨holds, met⟩ := first.ok before value after holds ran
  exact rest value after ran holds met

theorem bind {next : A → EStateM Abort S B} {last : B → Prop} (first : Sustains kept step post)
    (rest : ∀ value, post value → Sustains kept (next value) last) :
    Sustains kept (step >>= next) last :=
  of_ends fun _ holds => after rest (first.ends holds)

theorem mono {weaker : A → Prop} (sustained : Sustains kept step post)
    (weaken : ∀ value, post value → weaker value) : Sustains kept step weaker where
  ok before value after holds done := by
    obtain ⟨holds, met⟩ := sustained.ok before value after holds done
    exact ⟨holds, weaken value met⟩
  error := sustained.error

theorem discard (sustained : Sustains kept step post) :
    Sustains kept (Functor.discard step) fun _ => True where
  ok before value after holds done := by
    obtain ⟨first, ran, _⟩ := (run_map _ _ _ _ _).mp done
    exact ⟨(sustained.ok before first after holds ran).1, trivial⟩
  error before abort after holds stops :=
    sustained.error before abort after holds ((run_map_error _ _ _ _ _).mp stops)

theorem forM {each : B → EStateM Abort S PUnit} (items : List B)
    (all : ∀ item ∈ items, Sustains kept (each item) fun _ => True) :
    Sustains kept (items.forM each) fun _ => True := by
  induction items with
  | nil => exact pure trivial
  | cons item rest rest_ih =>
    have later := rest_ih fun other inside => all other (List.mem_cons_of_mem _ inside)
    exact bind (all item (List.mem_cons_self ..)) fun _ _ => later

theorem mapM {each : A → EStateM Abort S B} (items : List A)
    (all : ∀ item ∈ items, Sustains kept (each item) fun _ => True) :
    Sustains kept (items.mapM each) fun _ => True := by
  induction items with
  | nil => exact pure trivial
  | cons item rest rest_ih =>
    rw [List.mapM_cons]
    have later := rest_ih fun other inside => all other (List.mem_cons_of_mem _ inside)
    exact bind (all item (List.mem_cons_self ..)) fun _ _ => bind later fun _ _ => pure trivial

end Steps

section Checks

variable {A B : Type} {kept : Contract Pass}

theorem check (question : CheckM A) [blameless : Blameless question] :
    Sustains kept (liftM question : PassM A) fun value => question = .ok value where
  ok before value after holds done := by
    obtain ⟨given, rfl⟩ := (lift_check _ _ _ _).mp done
    exact ⟨holds, given⟩
  error before abort after holds stops := by
    obtain ⟨given, rfl⟩ := (lift_check_error _ _ _ _).mp stops
    exact kept.refused (blameless.blameless given) holds

theorem check_bind {question : CheckM A} [Blameless question] {next : A → PassM B}
    {last : B → Prop} (rest : ∀ value, question = .ok value → Sustains kept (next value) last) :
    Sustains kept (liftM question >>= next) last :=
  bind (check question) rest

theorem ask_bind {question : Answer A} {next : A → PassM B} {last : B → Prop}
    (rest : ∀ value, question = .ok value → Sustains kept (next value) last) :
    Sustains kept (liftM question >>= next) last :=
  check_bind fun value given => rest value ((lift_answer _ _).mp given)

theorem abort (violation : Violation) (post : A → Prop)
    (mild : (Abort.violation violation).isMisuse = false := by rfl) :
    Sustains kept (liftM (Lowering.abort violation : CheckM A) : PassM A) post :=
  have : Blameless (Lowering.abort violation : CheckM A) := .abort mild
  (check _).mono fun _ given => ((check_abort _ _).mp given).elim

theorem abort_bind (violation : Violation) (next : A → PassM B) (last : B → Prop)
    (mild : (Abort.violation violation).isMisuse = false := by rfl) :
    Sustains kept (liftM (Lowering.abort violation : CheckM A) >>= next) last :=
  bind (abort violation (fun _ => False) mild) fun _ impossible => impossible.elim

end Checks

section Building

variable {A B : Type} {kept : Contract Pass}

/-- A building step is lifted with what it does to the builder. -/
theorem build {step : BuildM A} {post : A → Prop}
    (ok : ∀ {pass value builder}, kept.Holds pass → step pass.builder = .ok value builder →
      kept.Holds { pass with builder := builder } ∧ post value)
    (error : ∀ {pass error builder}, kept.Holds pass → step pass.builder = .error error builder →
      kept.Stops (.violation (.misuse error)) { pass with builder := builder }) :
    Sustains kept (liftM step : PassM A) post where
  ok before value after holds done := by
    obtain ⟨builder, ran, rfl⟩ := (lift_build _ _ _ _).mp done
    exact ok holds ran
  error before abort after holds stops := by
    obtain ⟨own, builder, ran, rfl, rfl⟩ := (lift_build_error _ _ _ _).mp stops
    exact error holds ran

/-- Building steps are lifted one by one. -/
theorem build_bind {step : BuildM A} {next : A → BuildM B} {post : A → Prop} {last : B → Prop}
    (first : Sustains kept (liftM step : PassM A) post)
    (rest : ∀ value, post value → Sustains kept (liftM (next value) : PassM B) last) :
    Sustains kept (liftM (step >>= next) : PassM B) last := by
  refine build (fun {pass value builder} holds done => ?_)
    fun {pass error builder} holds stops => ?_
  · obtain ⟨middle, between, ran, finished⟩ := (run_bind _ _ _ _ _).mp done
    obtain ⟨holds, met⟩ := first.ok pass middle _ holds ((lift_build _ _ _ _).mpr ⟨_, ran, rfl⟩)
    exact (rest middle met).ok _ value _ holds ((lift_build _ _ _ _).mpr ⟨builder, finished, rfl⟩)
  · rcases (run_bind_error _ _ _ _ _).mp stops with stops | ⟨middle, between, ran, stops⟩
    · exact first.error pass _ _ holds
        ((lift_build_error _ _ _ _).mpr ⟨error, builder, stops, rfl, rfl⟩)
    · obtain ⟨holds, met⟩ := first.ok pass middle _ holds ((lift_build _ _ _ _).mpr ⟨_, ran, rfl⟩)
      exact (rest middle met).error _ _ _ holds
        ((lift_build_error _ _ _ _).mpr ⟨error, builder, stops, rfl, rfl⟩)

end Building

end Sustains

/-- The locals of an activation have a further property. -/
def Contract.under (kept : Contract Pass) (bound : Locals → Prop) : Contract Activation where
  Holds activation := kept.Holds activation.pass ∧ bound activation.locals
  Stops abort activation := kept.Stops abort activation.pass
  refused mild holds := kept.refused mild holds.1

/-- A step of the pass does not see the locals. -/
theorem Contract.Ends.lift {A : Type} {kept : Contract Pass} {step : PassM A} {post : A → Prop}
    {bound : Locals → Prop} {before : Activation} (ends : kept.Ends post (step before.pass))
    (known : bound before.locals) : (kept.under bound).Ends post ((liftM step : BodyM A) before) := by
  cases ran : (liftM step : BodyM A) before with
  | ok value after =>
    obtain ⟨pass, done, rfl⟩ := (lift_pass step _ _ _).mp ran
    rw [done] at ends
    exact ⟨⟨ends.1, known⟩, ends.2⟩
  | error abort after =>
    obtain ⟨pass, stops, rfl⟩ := (lift_pass_error step _ _ _).mp ran
    rw [stops] at ends
    exact ends

/-- A step of a body keeps to a contract of the activation. -/
def Runs {A : Type} (kept : Contract Activation) (step : BodyM A) (post : A → Prop) : Prop :=
  Sustains kept step post

/-- A step of a body keeps to a contract of the pass, and leaves the locals as they are. -/
def Evaluates {A : Type} (kept : Contract Pass) (locals : Locals) (step : BodyM A)
    (post : A → Prop) : Prop :=
  Runs (kept.under (· = locals)) step post

/-- An attempt does so also when it fails. -/
def Attempts {A : Type} (kept : Contract Pass) (locals : Locals) (attempt : Attempt A)
    (post : A → Prop) : Prop :=
  Evaluates kept locals attempt.run fun result => ∀ value, result = .ok value → post value

namespace Runs

variable {A B : Type} {kept : Contract Activation} {step : BodyM A} {post : A → Prop}

theorem pure {value : A} (met : post value) : Runs kept (Pure.pure value) post :=
  Sustains.pure met

theorem bind {next : A → BodyM B} {last : B → Prop} (first : Runs kept step post)
    (rest : ∀ value, post value → Runs kept (next value) last) :
    Runs kept (step >>= next) last :=
  Sustains.bind first rest

theorem discard (runs : Runs kept step post) :
    Runs kept (Functor.discard step) fun _ => True :=
  Sustains.discard runs

/-- What is read of the activation is not described. -/
theorem get {read : Activation → A} :
    Runs kept (do return read (← MonadState.get)) fun _ => True where
  ok before value after holds done := by
    obtain ⟨_, _, looked, same⟩ := (run_bind _ _ _ _ _).mp done
    obtain ⟨rfl, rfl⟩ := (run_get _ _ _).mp looked
    obtain ⟨_, rfl⟩ := (run_pure _ _ _ _).mp same
    exact ⟨holds, trivial⟩
  error before abort after _ stops := by
    rcases (run_bind_error _ _ _ _ _).mp stops with stops | ⟨_, _, _, stops⟩
    · cases stops
    · exact ((run_pure_error _ _ _ _).mp stops).elim

theorem local_bind (id : DeclId) {next : Option Value → BodyM B} {last : B → Prop}
    (rest : ∀ found, Runs kept (next found) last) : Runs kept (BodyM.local? id >>= next) last :=
  bind get fun found _ => rest found

variable {kept : Contract Pass}

theorem lift (bound : Locals → Prop) {step : PassM A} (sustained : Sustains kept step post) :
    Runs (kept.under bound) (liftM step) post :=
  Sustains.of_ends fun _ holds => .lift (sustained.ends holds.1) holds.2

variable {bound : Locals → Prop}

theorem check_bind {question : CheckM A} [Blameless question] {next : A → BodyM B}
    {last : B → Prop}
    (rest : ∀ value, question = .ok value → Runs (kept.under bound) (next value) last) :
    Runs (kept.under bound) (liftM question >>= next) last :=
  bind (lift bound (Sustains.check question)) rest

theorem ask_bind {question : Answer A} {next : A → BodyM B} {last : B → Prop}
    (rest : ∀ value, question = .ok value → Runs (kept.under bound) (next value) last) :
    Runs (kept.under bound) (liftM question >>= next) last :=
  check_bind fun value given => rest value ((lift_answer _ _).mp given)

theorem abort (violation : Violation) (post : A → Prop)
    (mild : (Abort.violation violation).isMisuse = false := by rfl) :
    Runs (kept.under bound) (liftM (Lowering.abort violation : CheckM A)) post :=
  lift bound (Sustains.abort violation post mild)

theorem abort_bind (violation : Violation) (next : A → BodyM B) (last : B → Prop)
    (mild : (Abort.violation violation).isMisuse = false := by rfl) :
    Runs (kept.under bound) (liftM (Lowering.abort violation : CheckM A) >>= next) last :=
  bind (abort violation (fun _ => False) mild) fun _ impossible => impossible.elim

/-- What leaves all locals as they are keeps any property of them. -/
theorem evaluate (bound : Locals → Prop) {post : Locals → A → Prop}
    (evaluated : ∀ locals, bound locals → Evaluates kept locals step (post locals)) :
    Runs (kept.under bound) step fun _ => True where
  ok before value after holds done := by
    obtain ⟨⟨stays, same⟩, _⟩ :=
      (evaluated before.locals holds.2).ok before value after ⟨holds.1, rfl⟩ done
    exact ⟨⟨stays, same ▸ holds.2⟩, trivial⟩
  error before abort after holds stops :=
    (evaluated before.locals holds.2).error before abort after ⟨holds.1, rfl⟩ stops

/-- A body starts with the locals that are bound for it. -/
theorem activate {locals : Locals} (runs : Runs (kept.under bound) step post)
    (starts : bound locals) : Sustains kept (PassM.activate locals step) post where
  ok before value after holds done := by
    obtain ⟨last, ran, rfl⟩ := (run_activate _ _ _ _ _).mp done
    obtain ⟨⟨stays, _⟩, met⟩ := runs.ok _ value last ⟨holds, starts⟩ ran
    exact ⟨stays, met⟩
  error before abort after holds stops := by
    obtain ⟨last, ran, rfl⟩ := (run_activate_error _ _ _ _ _).mp stops
    exact runs.error _ abort last ⟨holds, starts⟩ ran

end Runs

namespace Evaluates

variable {A B : Type} {kept : Contract Pass} {locals : Locals} {step : BodyM A} {post : A → Prop}

theorem pure {value : A} (met : post value) : Evaluates kept locals (Pure.pure value) post :=
  Sustains.pure met

theorem bind {next : A → BodyM B} {last : B → Prop} (first : Evaluates kept locals step post)
    (rest : ∀ value, post value → Evaluates kept locals (next value) last) :
    Evaluates kept locals (step >>= next) last :=
  Sustains.bind first rest

theorem mono {weaker : A → Prop} (evaluated : Evaluates kept locals step post)
    (weaken : ∀ value, post value → weaker value) : Evaluates kept locals step weaker :=
  Sustains.mono evaluated weaken

theorem lift {step : PassM A} (sustained : Sustains kept step post) :
    Evaluates kept locals (liftM step) post :=
  Runs.lift _ sustained

theorem local_bind (id : DeclId) {next : Option Value → BodyM B} {last : B → Prop}
    (rest : Evaluates kept locals (next (locals.get? id)) last) :
    Evaluates kept locals (BodyM.local? id >>= next) last := by
  have same (before : Activation) (holds : before.locals = locals) :
      (BodyM.local? id >>= next) before = next (locals.get? id) before := by
    rw [← holds]
    rfl
  constructor
  · intro before value after holds done
    exact rest.ok before value after holds (same before holds.2 ▸ done)
  · intro before abort after holds stops
    exact rest.error before abort after holds (same before holds.2 ▸ stops)

end Evaluates

namespace Attempts

variable {A B : Type} {kept : Contract Pass} {locals : Locals} {attempt : Attempt A}
  {post : A → Prop}

theorem pure {value : A} (met : post value) : Attempts kept locals (Pure.pure value) post :=
  Evaluates.pure fun _ same => Except.ok.inj same ▸ met

theorem fail (failure : Unlowerable) (post : A → Prop) :
    Attempts kept locals (Frame.fail failure) post :=
  Evaluates.pure fun _ same => nomatch same

theorem bind {next : A → Attempt B} {last : B → Prop} (first : Attempts kept locals attempt post)
    (rest : ∀ value, post value → Attempts kept locals (next value) last) :
    Attempts kept locals (attempt >>= next) last := by
  refine Evaluates.bind first ?_
  intro result met
  cases result with
  | ok value => exact rest value (met value rfl)
  | error failure => exact Evaluates.pure fun _ same => nomatch same

/-- Nothing follows a failure. -/
theorem fail_bind (failure : Unlowerable) (next : A → Attempt B) (last : B → Prop) :
    Attempts kept locals (Frame.fail failure >>= next) last :=
  bind (fail failure fun _ => False) fun _ impossible => impossible.elim

theorem mono {weaker : A → Prop} (attempted : Attempts kept locals attempt post)
    (weaken : ∀ value, post value → weaker value) : Attempts kept locals attempt weaker :=
  Evaluates.mono attempted fun _ met value same => weaken value (met value same)

theorem lift {step : BodyM A} (evaluated : Evaluates kept locals step post) :
    Attempts kept locals (liftM step) post := by
  refine Evaluates.bind evaluated ?_
  intro value met
  exact Evaluates.pure fun _ same => Except.ok.inj same ▸ met

theorem check_bind {question : CheckM A} [Blameless question] {next : A → Attempt B}
    {last : B → Prop}
    (rest : ∀ value, question = .ok value → Attempts kept locals (next value) last) :
    Attempts kept locals (liftM question >>= next) last :=
  bind (lift (.lift (Sustains.check question))) rest

theorem ask_bind {question : Answer A} {next : A → Attempt B} {last : B → Prop}
    (rest : ∀ value, question = .ok value → Attempts kept locals (next value) last) :
    Attempts kept locals (liftM question >>= next) last :=
  check_bind fun value given => rest value ((lift_answer _ _).mp given)

theorem local_bind (id : DeclId) {next : Option Value → Attempt B} {last : B → Prop}
    (rest : Attempts kept locals (next (locals.get? id)) last) :
    Attempts kept locals (liftM (BodyM.local? id) >>= next) last :=
  have found : Evaluates kept locals (BodyM.local? id) (· = locals.get? id) := by
    have read : Evaluates kept locals (BodyM.local? id >>= Pure.pure) (· = locals.get? id) :=
      .local_bind id (.pure rfl)
    rwa [bind_pure] at read
  bind (lift found) fun _ same => same ▸ rest

theorem recover {other : Unlowerable → BodyM A} (attempted : Attempts kept locals attempt post)
    (otherwise : ∀ failure, Evaluates kept locals (other failure) post) :
    Evaluates kept locals (attempt.recover other) post := by
  refine Evaluates.bind attempted ?_
  intro result met
  cases result with
  | ok value => exact Evaluates.pure (met value rfl)
  | error failure => exact otherwise failure

end Attempts

end Lowering
