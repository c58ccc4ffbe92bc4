import Lowering.Pass.Location
import Lowering.Proofs.Run

/-
This file runs two passes side by side. A coupling says how their states relate, and a step of one
is coupled to a step of the other if they yield the same and the states stay related. There is one
rule for each way to compose steps.
-/

namespace Lowering

open IR

/-- What two runs have in common. -/
structure Coupling (S : Type) where
  Relates : S → S → Prop
  /-- The first run got where the second one need not follow. -/
  Excused : S → Prop
  /-- The second run stops where the first one stops. -/
  Strict : Prop
  firm : Strict → ∀ state, ¬Excused state

/-- The second run answers to the first: what they yield is related, and so is where they get. -/
def Coupling.Answers {E S A B : Type} (coupling : Coupling S) (rel : A → B → Prop) :
    EStateM.Result E S A → EStateM.Result E S B → Prop
  | .ok value after, answer => coupling.Excused after ∨
      ∃ other last, answer = .ok other last ∧ rel value other ∧ coupling.Relates after last
  | .error error _, answer => coupling.Strict → ∃ last, answer = .error error last

/-- A step of the second run answers to one of the first, and an excuse stays one. -/
structure Pairs {E S A B : Type} (coupling : Coupling S) (rel : A → B → Prop)
    (step : EStateM E S A) (other : EStateM E S B) : Prop where
  excused : ∀ before value after, coupling.Excused before → step before = .ok value after →
    coupling.Excused after
  answers : ∀ before peer, coupling.Relates before peer →
    coupling.Answers rel (step before) (other peer)

/-- Both steps yield the same. -/
abbrev Couples {E S A : Type} (coupling : Coupling S) (step other : EStateM E S A) : Prop :=
  Pairs coupling (· = ·) step other

namespace Pairs

variable {E S A B C D : Type} {coupling : Coupling S} {rel : A → B → Prop} {last : C → D → Prop}
  {step : EStateM E S A} {other : EStateM E S B}

theorem pure {value : A} {peer : B} (same : rel value peer) :
    Pairs (E := E) coupling rel (Pure.pure value) (Pure.pure peer) where
  excused _ _ _ excused done := ((run_pure _ _ _ _).mp done).2 ▸ excused
  answers _ peer related := Or.inr ⟨_, peer, rfl, same, related⟩

theorem throw (error : E) :
    Pairs coupling rel (throw error : EStateM E S A) (throw error : EStateM E S B) where
  excused _ _ _ _ done := ((run_throw _ _ _ _).mp done).elim
  answers _ peer _ := fun _ => ⟨peer, rfl⟩

/-- What is read on the two sides is related. -/
theorem get : Pairs (E := E) coupling coupling.Relates MonadState.get MonadState.get where
  excused _ _ _ excused done := ((run_get _ _ _).mp done).2 ▸ excused
  answers _ peer related := Or.inr ⟨peer, peer, rfl, related, related⟩

theorem bind {next : A → EStateM E S C} {again : B → EStateM E S D}
    (first : Pairs coupling rel step other)
    (rest : ∀ value peer, rel value peer → Pairs coupling last (next value) (again peer))
    (excused : ∀ value before result after, coupling.Excused before →
      next value before = .ok result after → coupling.Excused after) :
    Pairs coupling last (step >>= next) (other >>= again) := by
  constructor
  · intro before result after free done
    obtain ⟨value, between, ran, done⟩ := (run_bind _ _ _ _ _).mp done
    exact excused value between result after (first.excused before value between free ran) done
  · intro before peer related
    have answered := first.answers before peer related
    show coupling.Answers last (EStateM.bind step next before) (EStateM.bind other again peer)
    unfold EStateM.bind
    cases ran : step before with
    | error error after =>
      rw [ran] at answered
      intro strict
      obtain ⟨end_, stopped⟩ := answered strict
      exact ⟨end_, by rw [stopped]⟩
    | ok value between =>
      rw [ran] at answered
      rcases answered with free | ⟨result, middle, answer, same, related⟩
      · dsimp only
        cases finished : next value between with
        | ok result after => exact Or.inl (excused value between result after free finished)
        | error error after => exact fun strict => (coupling.firm strict between free).elim
      · rw [answer]
        exact (rest value result same).answers between middle related

section Checks

variable {coupling : Coupling Pass} {rel : B → C → Prop}

/-- What follows a question knows the answer, which is the same in both runs. -/
theorem check_bind (question : CheckM A) {next : A → PassM B} {again : A → PassM C}
    (rest : ∀ value, question = .ok value → Pairs coupling rel (next value) (again value)) :
    Pairs coupling rel (liftM question >>= next) (liftM question >>= again) := by
  cases question with
  | ok value => exact rest value rfl
  | error abort => exact throw abort

theorem ask_bind (question : Answer A) {next : A → PassM B} {again : A → PassM C}
    (rest : ∀ value, question = .ok value → Pairs coupling rel (next value) (again value)) :
    Pairs coupling rel (liftM question >>= next) (liftM question >>= again) :=
  check_bind _ fun value given => rest value ((lift_answer _ _).mp given)

theorem abort_bind (violation : Violation) (next : A → PassM B) (again : A → PassM C) :
    Pairs coupling rel (liftM (Lowering.abort violation : CheckM A) >>= next)
      (liftM (Lowering.abort violation : CheckM A) >>= again) :=
  check_bind _ fun _ impossible => nomatch impossible

end Checks

end Pairs

namespace Couples

section Steps

variable {E S A B : Type} {coupling : Coupling S} {step other : EStateM E S A}

theorem pure (value : A) : Couples (E := E) coupling (Pure.pure value) (Pure.pure value) :=
  Pairs.pure rfl

theorem bind {next again : A → EStateM E S B} (first : Couples coupling step other)
    (rest : ∀ value, Couples coupling (next value) (again value)) :
    Couples coupling (step >>= next) (other >>= again) :=
  Pairs.bind first (fun value _ same => same ▸ rest value) fun value => (rest value).excused

/-- What follows a look at the states knows how they relate. -/
theorem get_bind {next again : S → EStateM E S A} (strict : coupling.Strict)
    (rest : ∀ state peer, coupling.Relates state peer →
      Couples coupling (next state) (again peer)) :
    Couples coupling (get >>= next) (get >>= again) :=
  Pairs.bind Pairs.get rest fun _ before _ _ free => (coupling.firm strict before free).elim

/-- Both sides are changed in the same way. -/
theorem modify {change : S → S} (free : ∀ state, coupling.Excused state →
      coupling.Excused (change state))
    (kept : ∀ state peer, coupling.Relates state peer →
      coupling.Relates (change state) (change peer)) :
    Couples (E := E) coupling (modify change) (modify change) where
  excused before _ _ excused done := (run_modify _ _ _ _).mp done ▸ free before excused
  answers before peer related := Or.inr ⟨(), change peer, rfl, rfl, kept before peer related⟩

theorem discard (coupled : Couples coupling step other) :
    Couples coupling (Functor.discard step) (Functor.discard other) := by
  have ignoring (step : EStateM E S A) :
      Functor.discard step = step >>= fun _ => Pure.pure PUnit.unit :=
    (discard_bind step Pure.pure ▸ bind_pure (Functor.discard step)).symm
  rw [ignoring step, ignoring other]
  exact bind coupled fun _ => pure _

theorem forM {each again : B → EStateM E S PUnit} (items : List B)
    (all : ∀ item ∈ items, Couples coupling (each item) (again item)) :
    Couples coupling (items.forM each) (items.forM again) := by
  induction items with
  | nil => exact pure _
  | cons item rest rest_ih =>
    have later := rest_ih fun other inside => all other (List.mem_cons_of_mem _ inside)
    exact bind (all item (List.mem_cons_self ..)) fun _ => later

theorem mapM {each again : A → EStateM E S B} (items : List A)
    (all : ∀ item ∈ items, Couples coupling (each item) (again item)) :
    Couples coupling (items.mapM each) (items.mapM again) := by
  induction items with
  | nil => exact pure _
  | cons item rest rest_ih =>
    rw [List.mapM_cons, List.mapM_cons]
    have later := rest_ih fun other inside => all other (List.mem_cons_of_mem _ inside)
    exact bind (all item (List.mem_cons_self ..)) fun _ => bind later fun _ => pure _

end Steps

section Checks

variable {A B : Type} {coupling : Coupling Pass}

/-- The answer to a question depends on neither run. -/
theorem check (question : CheckM A) :
    Couples coupling (liftM question : PassM A) (liftM question) := by
  cases question with
  | ok value => exact pure value
  | error abort => exact Pairs.throw abort

theorem check_bind (question : CheckM A) {next again : A → PassM B}
    (rest : ∀ value, question = .ok value → Couples coupling (next value) (again value)) :
    Couples coupling (liftM question >>= next) (liftM question >>= again) :=
  Pairs.check_bind question rest

theorem ask_bind (question : Answer A) {next again : A → PassM B}
    (rest : ∀ value, question = .ok value → Couples coupling (next value) (again value)) :
    Couples coupling (liftM question >>= next) (liftM question >>= again) :=
  Pairs.ask_bind question rest

theorem abort (violation : Violation) :
    Couples coupling (liftM (Lowering.abort violation : CheckM A) : PassM A)
      (liftM (Lowering.abort violation : CheckM A)) :=
  check _

theorem abort_bind (violation : Violation) (next again : A → PassM B) :
    Couples coupling (liftM (Lowering.abort violation : CheckM A) >>= next)
      (liftM (Lowering.abort violation : CheckM A) >>= again) :=
  Pairs.abort_bind violation next again

end Checks

/-- The insertion point is put back on both sides. -/
theorem restoring {A : Type} {coupling : Coupling Pass} {step other : PassM A}
    (free : ∀ pass cursor, coupling.Excused pass → coupling.Excused (pass.withCursor cursor))
    (kept : ∀ before peer after last, coupling.Relates before peer → coupling.Relates after last →
      coupling.Relates (after.withCursor before.builder.cursor)
        (last.withCursor peer.builder.cursor))
    (coupled : Couples coupling step other) :
    Couples coupling (PassM.restoring step) (PassM.restoring other) where
  excused before value after excused done := by
    obtain ⟨last, ran, rfl⟩ := (run_restoring _ _ _ _).mp done
    exact free _ _ (coupled.excused before value last excused ran)
  answers before peer related := by
    have answered := coupled.answers before peer related
    unfold PassM.restoring
    cases ran : step before with
    | ok value after =>
      rw [ran] at answered
      refine answered.imp (free _ _) ?_
      rintro ⟨result, last, answer, same, settled⟩
      exact ⟨result, last.withCursor peer.builder.cursor, by rw [answer], same,
        kept before peer after last related settled⟩
    | error abort after =>
      rw [ran] at answered
      intro strict
      obtain ⟨last, stopped⟩ := answered strict
      exact ⟨last.withCursor peer.builder.cursor, by rw [stopped]⟩

end Couples

/-- Building steps are lifted one by one. -/
theorem lift_build_bind {A B : Type} (step : BuildM A) (next : A → BuildM B) :
    (liftM (step >>= next) : PassM B) = liftM step >>= fun value => liftM (next value) := by
  funext pass
  simp only [liftM, monadLift, MonadLift.monadLift, bind, EStateM.bind]
  cases step pass.builder <;> rfl

/-- A building step is coupled to itself. -/
def Coupling.Builds {A : Type} (coupling : Coupling Pass) (step : BuildM A) : Prop :=
  Couples coupling (liftM step : PassM A) (liftM step : PassM A)

namespace Coupling.Builds

variable {A B : Type} {coupling : Coupling Pass}

theorem pure (value : A) : coupling.Builds (Pure.pure value) := Couples.pure value

theorem bind {step : BuildM A} {next : A → BuildM B} (first : coupling.Builds step)
    (rest : ∀ value, coupling.Builds (next value)) : coupling.Builds (step >>= next) := by
  rw [Coupling.Builds, lift_build_bind]
  exact Couples.bind first rest

theorem requireAddress (opcode : String) (value : Value) :
    coupling.Builds (BuildM.requireAddress opcode value) := by
  unfold BuildM.requireAddress
  split
  · exact pure ()
  · exact Pairs.throw (Abort.violation (.misuse (.notAnAddress opcode value)))

end Coupling.Builds

/-- The locals of two activations are the same. -/
def Coupling.inside (coupling : Coupling Pass) : Coupling Activation where
  Relates activation other := coupling.Relates activation.pass other.pass ∧
    other.locals = activation.locals
  Excused activation := coupling.Excused activation.pass
  Strict := coupling.Strict
  firm strict activation := coupling.firm strict activation.pass

/-- Two steps of a body are coupled. -/
def Accompanies {A : Type} (coupling : Coupling Pass) (step other : BodyM A) : Prop :=
  Couples coupling.inside step other

/-- Two attempts are coupled also where they fail. -/
def Attends {A : Type} (coupling : Coupling Pass) (attempt other : Attempt A) : Prop :=
  Accompanies coupling attempt.run other.run

namespace Accompanies

variable {A B : Type} {coupling : Coupling Pass}

theorem pure (value : A) : Accompanies coupling (Pure.pure value) (Pure.pure value) :=
  Couples.pure value

theorem bind {step other : BodyM A} {next again : A → BodyM B}
    (first : Accompanies coupling step other)
    (rest : ∀ value, Accompanies coupling (next value) (again value)) :
    Accompanies coupling (step >>= next) (other >>= again) :=
  Couples.bind first rest

theorem discard {step other : BodyM A} (accompanied : Accompanies coupling step other) :
    Accompanies coupling (Functor.discard step) (Functor.discard other) :=
  Couples.discard accompanied

/-- A step of the pass does not see the locals. -/
theorem lift {step other : PassM A} (coupled : Couples coupling step other) :
    Accompanies coupling (liftM step) (liftM other) where
  excused before value after free done := by
    obtain ⟨pass, ran, rfl⟩ := (lift_pass step _ _ _).mp done
    exact coupled.excused before.pass value pass free ran
  answers before peer related := by
    obtain ⟨pass, locals⟩ := before
    obtain ⟨middle, others⟩ := peer
    obtain ⟨related, same⟩ := related
    dsimp only at related same
    subst same
    have answered := coupled.answers pass middle related
    cases ran : step pass with
    | ok value after =>
      rw [ran] at answered
      rw [(lift_pass step ⟨pass, others⟩ ⟨after, others⟩ value).mpr ⟨after, ran, rfl⟩]
      refine answered.imp id ?_
      rintro ⟨peer, last, answer, same, kept⟩
      exact ⟨peer, ⟨last, others⟩, (lift_pass other _ _ _).mpr ⟨last, answer, rfl⟩, same, kept, rfl⟩
    | error abort after =>
      rw [ran] at answered
      rw [(lift_pass_error step ⟨pass, others⟩ ⟨after, others⟩ abort).mpr ⟨after, ran, rfl⟩]
      intro strict
      obtain ⟨last, stopped⟩ := answered strict
      exact ⟨⟨last, others⟩, (lift_pass_error other _ _ _).mpr ⟨last, stopped, rfl⟩⟩

theorem check_bind (question : CheckM A) {next again : A → BodyM B}
    (rest : ∀ value, question = .ok value → Accompanies coupling (next value) (again value)) :
    Accompanies coupling (liftM question >>= next) (liftM question >>= again) := by
  cases question with
  | ok value => exact rest value rfl
  | error abort => exact Pairs.throw abort

theorem ask_bind (question : Answer A) {next again : A → BodyM B}
    (rest : ∀ value, question = .ok value → Accompanies coupling (next value) (again value)) :
    Accompanies coupling (liftM question >>= next) (liftM question >>= again) :=
  check_bind _ fun value given => rest value ((lift_answer _ _).mp given)

theorem abort (violation : Violation) :
    Accompanies coupling (liftM (Lowering.abort violation : CheckM A) : BodyM A)
      (liftM (Lowering.abort violation : CheckM A)) :=
  lift (Couples.abort violation)

theorem abort_bind (violation : Violation) (next again : A → BodyM B) :
    Accompanies coupling (liftM (Lowering.abort violation : CheckM A) >>= next)
      (liftM (Lowering.abort violation : CheckM A) >>= again) :=
  check_bind _ fun _ impossible => nomatch impossible

/-- Both sides find the same in their locals. -/
theorem local_bind (id : DeclId) {next again : Option Value → BodyM B}
    (rest : ∀ found, Accompanies coupling (next found) (again found)) :
    Accompanies coupling (BodyM.local? id >>= next) (BodyM.local? id >>= again) where
  excused before value after free done := (rest (before.locals.get? id)).excused _ _ _ free done
  answers before peer related := by
    have answered := (rest (before.locals.get? id)).answers before peer related
    rw [← related.2] at answered
    show coupling.inside.Answers _ (next (before.locals.get? id) before)
      (again (peer.locals.get? id) peer)
    rwa [← related.2]

theorem bindLocal (id : DeclId) (value : Value) :
    Accompanies coupling (BodyM.bindLocal id value) (BodyM.bindLocal id value) :=
  Couples.modify (fun _ free => free) fun _ _ related =>
    ⟨related.1, congrArg (Table.insert · id value) related.2⟩

/-- Both bodies start with the same locals. -/
theorem activate {step other : BodyM A} (locals : Locals)
    (coupled : Accompanies coupling step other) :
    Couples coupling (PassM.activate locals step) (PassM.activate locals other) where
  excused before value after free done := by
    obtain ⟨last, ran, rfl⟩ := (run_activate _ _ _ _ _).mp done
    exact coupled.excused ⟨before, locals⟩ value last free ran
  answers before peer related := by
    have answered := coupled.answers ⟨before, locals⟩ ⟨peer, locals⟩ ⟨related, rfl⟩
    unfold PassM.activate
    cases ran : step ⟨before, locals⟩ with
    | ok value after =>
      rw [ran] at answered
      refine answered.imp id ?_
      rintro ⟨result, last, answer, same, kept, _⟩
      exact ⟨result, last.pass, by rw [answer], same, kept⟩
    | error abort after =>
      rw [ran] at answered
      intro strict
      obtain ⟨last, stopped⟩ := answered strict
      exact ⟨last.pass, by rw [stopped]⟩

end Accompanies

namespace Attends

variable {A B : Type} {coupling : Coupling Pass} {attempt other : Attempt A}

theorem pure (value : A) : Attends coupling (Pure.pure value) (Pure.pure value) :=
  Accompanies.pure _

theorem fail (failure : Unlowerable) :
    Attends (A := A) coupling (Frame.fail failure) (Frame.fail failure) :=
  Accompanies.pure _

theorem bind {next again : A → Attempt B} (first : Attends coupling attempt other)
    (rest : ∀ value, Attends coupling (next value) (again value)) :
    Attends coupling (attempt >>= next) (other >>= again) := by
  refine Accompanies.bind first fun result => ?_
  cases result with
  | ok value => exact rest value
  | error failure => exact Accompanies.pure _

/-- Nothing follows a failure. -/
theorem fail_bind (failure : Unlowerable) (next again : A → Attempt B) :
    Attends coupling (Frame.fail failure >>= next) (Frame.fail failure >>= again) :=
  Accompanies.pure _

theorem lift {step other : BodyM A} (coupled : Accompanies coupling step other) :
    Attends coupling (liftM step) (liftM other) :=
  Accompanies.bind coupled fun _ => Accompanies.pure _

theorem check_bind (question : CheckM A) {next again : A → Attempt B}
    (rest : ∀ value, question = .ok value → Attends coupling (next value) (again value)) :
    Attends coupling (liftM question >>= next) (liftM question >>= again) := by
  cases question with
  | ok value => exact rest value rfl
  | error abort => exact Pairs.throw abort

theorem ask_bind (question : Answer A) {next again : A → Attempt B}
    (rest : ∀ value, question = .ok value → Attends coupling (next value) (again value)) :
    Attends coupling (liftM question >>= next) (liftM question >>= again) :=
  check_bind _ fun value given => rest value ((lift_answer _ _).mp given)

theorem local_bind (id : DeclId) {next again : Option Value → Attempt B}
    (rest : ∀ found, Attends coupling (next found) (again found)) :
    Attends coupling (liftM (BodyM.local? id) >>= next) (liftM (BodyM.local? id) >>= again) := by
  have read : Accompanies coupling (BodyM.local? id) (BodyM.local? id) := by
    have found : Accompanies coupling (BodyM.local? id >>= Pure.pure)
        (BodyM.local? id >>= Pure.pure) :=
      .local_bind id fun found => .pure found
    rwa [bind_pure] at found
  exact bind (lift read) rest

theorem recover {otherwise again : Unlowerable → BodyM A} (coupled : Attends coupling attempt other)
    (rest : ∀ failure, Accompanies coupling (otherwise failure) (again failure)) :
    Accompanies coupling (attempt.recover otherwise) (other.recover again) := by
  refine Accompanies.bind coupled fun result => ?_
  cases result with
  | ok value => exact Accompanies.pure value
  | error failure => exact rest failure

end Attends

end Lowering
