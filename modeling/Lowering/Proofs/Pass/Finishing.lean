import Lowering.Proofs.Declaring
import Lowering.Proofs.Pass.Calling

/-
This file says what it takes for a step inside a body to return. It does so wherever functions are
allotted and the block at the insertion point is open, and it leaves them so.
-/

namespace Lowering

open IR

/-- Functions are allotted, and the block at the insertion point is open. -/
structure Job.Able (job : Job) (pass : Pass) : Prop where
  allotted : job.Allotted pass
  opened : ∃ function block, pass.builder.At function block

/-- The locals stay, what was reported still is, and only the open block gets longer. -/
structure Activation.Prolongs (before after : Activation) : Prop extends before.Goes after where
  builder : before.pass.builder.StaysOpen after.pass.builder

namespace Activation.Prolongs

variable {first second third : Activation}

theorem refl (activation : Activation) : activation.Prolongs activation :=
  ⟨.refl activation, .refl _⟩

theorem trans (start : first.Prolongs second) (rest : second.Prolongs third) :
    first.Prolongs third :=
  ⟨start.toGoes.trans rest.toGoes, start.builder.trans rest.builder⟩

theorem able {job : Job} (prolongs : first.Prolongs second) (able : job.Able first.pass)
    (allotted : job.Allotted second.pass) : job.Able second.pass := by
  obtain ⟨function, block, place⟩ := able.opened
  obtain ⟨later, longer, lengthens⟩ := prolongs.builder function block place
  exact ⟨allotted, later, longer, lengthens.place⟩

end Activation.Prolongs

namespace Frame

/-- The step returns, and yields such a value. -/
def Finishes (frame : Frame) {A : Type} (step : BodyM A) (post : A → Prop) : Prop :=
  ∀ before : Activation, frame.Able before.pass → ∃ value after,
    step before = .ok value after ∧ before.Prolongs after ∧ frame.Allotted after.pass ∧ post value

/-- The attempt returns, and yields such a value unless it fails. -/
def Decides (frame : Frame) {A : Type} (attempt : Attempt A) (post : A → Prop) : Prop :=
  frame.Finishes attempt.run fun result => ∀ value, result = .ok value → post value

variable {frame : Frame} {A B : Type}

namespace Finishes

variable {step : BodyM A} {post : A → Prop} {last : B → Prop}

theorem pure {value : A} (met : post value) : frame.Finishes (Pure.pure value) post :=
  fun before able => ⟨value, before, rfl, .refl before, able.allotted, met⟩

theorem bind {next : A → BodyM B} (first : frame.Finishes step post)
    (rest : ∀ value, post value → frame.Finishes (next value) last) :
    frame.Finishes (step >>= next) last := by
  intro before able
  obtain ⟨value, between, ran, begins, allotted, met⟩ := first before able
  obtain ⟨result, after, done, ends, settled, met_last⟩ :=
    rest value met between (begins.able able allotted)
  exact ⟨result, after, (run_bind _ _ _ _ _).mpr ⟨value, between, ran, done⟩, begins.trans ends,
    settled, met_last⟩

theorem mono {weaker : A → Prop} (finishes : frame.Finishes step post)
    (weaken : ∀ value, post value → weaker value) : frame.Finishes step weaker := by
  intro before able
  obtain ⟨value, after, done, prolongs, allotted, met⟩ := finishes before able
  exact ⟨value, after, done, prolongs, allotted, weaken value met⟩

theorem discard (finishes : frame.Finishes step post) :
    frame.Finishes (Functor.discard step) fun _ => True := by
  intro before able
  obtain ⟨value, after, done, prolongs, allotted, _⟩ := finishes before able
  exact ⟨(), after, (run_map _ _ _ _ _).mpr ⟨value, done, rfl⟩, prolongs, allotted, trivial⟩

theorem check_bind {question : CheckM A} {answer : A} {next : A → BodyM B}
    (given : question = .ok answer) (rest : frame.Finishes (next answer) last) :
    frame.Finishes (liftM question >>= next) last := by
  intro before able
  obtain ⟨value, after, done, finished⟩ := rest before able
  exact ⟨value, after, (run_ask_bind _ _ _ _ _).mpr ⟨answer, given, done⟩, finished⟩

/-- A building step declares no function. -/
theorem build {step : BuildM A} (completes : BuildM.Completes step post) :
    frame.Finishes (liftM step) post := by
  intro before able
  obtain ⟨value, builder, done, open_, same, met⟩ := completes before.pass.builder able.opened
  refine ⟨value, _, (lift_pass _ _ _ _).mpr ⟨_, (lift_build _ _ _ _).mpr ⟨builder, done, rfl⟩, rfl⟩,
    ⟨⟨rfl, List.prefix_refl _⟩, open_⟩, able.allotted.of_signatures same, met⟩

theorem report (failure : Unlowerable) (span : Span) :
    frame.Finishes (BodyM.report failure span) fun _ => True := by
  intro before able
  refine ⟨(), _, (lift_pass _ _ _ _).mpr ⟨_, (run_modify _ _ _ _).mpr rfl, rfl⟩, ?_, ?_, trivial⟩
  · exact ⟨⟨rfl, List.prefix_append _ _⟩, .refl _⟩
  · exact ⟨able.allotted.distinct, able.allotted.functions⟩

theorem local? (id : DeclId) : frame.Finishes (BodyM.local? id) fun _ => True :=
  fun before able => ⟨_, before, rfl, .refl before, able.allotted, trivial⟩

theorem declare (complete : frame.program.Complete) {id : DeclId} {decl : Decl} {routine : Routine}
    (found : frame.program.find? id = some decl) (listed : decl.routine? = some routine) :
    frame.Finishes (liftM (frame.declare id)) fun _ => True := by
  intro before able
  obtain ⟨value, after, done, allotted, same, open_⟩ :=
    Job.declare_returns complete able.allotted found listed
  exact ⟨value, _, (lift_pass _ _ _ _).mpr ⟨after, done, rfl⟩,
    ⟨⟨rfl, same ▸ List.prefix_refl _⟩, open_⟩, allotted, trivial⟩

/-- A failed attempt is made good by what follows it. -/
theorem recover {attempt : Attempt A} {other : Unlowerable → BodyM A}
    (decides : frame.Decides attempt post)
    (otherwise : ∀ failure, frame.Finishes (other failure) post) :
    frame.Finishes (attempt.recover other) post := by
  refine bind decides fun result found => ?_
  cases result with
  | ok value => exact pure (found value rfl)
  | error failure => exact otherwise failure

/-- A failure is reported, and something else takes the place of what is missing. -/
theorem recover_report {attempt : Attempt A} (decides : frame.Decides attempt post) (span : Span)
    {value : A} (met : post value) :
    frame.Finishes (attempt.recover fun failure => do
      BodyM.report failure span
      return value) post :=
  recover decides fun failure => bind (report failure span) fun _ _ => pure met

end Finishes

namespace Decides

variable {attempt : Attempt A} {post : A → Prop} {last : B → Prop}

theorem pure {value : A} (met : post value) : frame.Decides (Pure.pure value) post :=
  Finishes.pure fun _ same => Except.ok.inj same ▸ met

theorem fail (failure : Unlowerable) : frame.Decides (Frame.fail failure) post :=
  Finishes.pure nofun

theorem bind {next : A → Attempt B} (first : frame.Decides attempt post)
    (rest : ∀ value, post value → frame.Decides (next value) last) :
    frame.Decides (attempt >>= next) last := by
  refine Finishes.bind first fun result found => ?_
  cases result with
  | ok value => exact rest value (found value rfl)
  | error failure => exact Finishes.pure nofun

/-- Nothing follows a failure. -/
theorem fail_bind (failure : Unlowerable) (next : A → Attempt B) :
    frame.Decides (Frame.fail failure >>= next) last :=
  bind (fail failure : frame.Decides _ fun _ => False) fun _ => False.elim

theorem lift {step : BodyM A} (finishes : frame.Finishes step post) :
    frame.Decides (liftM step) post := by
  intro before able
  obtain ⟨value, after, done, prolongs, allotted, met⟩ := finishes before able
  exact ⟨.ok value, after, (lift_attempt _ _ _ _).mpr ⟨value, done, rfl⟩, prolongs, allotted,
    fun _ same => Except.ok.inj same ▸ met⟩

theorem mono {weaker : A → Prop} (decides : frame.Decides attempt post)
    (weaken : ∀ value, post value → weaker value) : frame.Decides attempt weaker :=
  Finishes.mono decides fun _ found value same => weaken value (found value same)

theorem check_bind {question : CheckM A} {answer : A} {next : A → Attempt B}
    (given : question = .ok answer) (rest : frame.Decides (next answer) last) :
    frame.Decides (liftM question >>= next) last := by
  intro before able
  obtain ⟨result, after, done, finished⟩ := rest before able
  exact ⟨result, after, (attempt_check_bind _ _ _ _ _).mpr ⟨answer, given, done⟩, finished⟩

theorem ask_bind {question : Answer A} {answer : A} {next : A → Attempt B}
    (given : question = .ok answer) (rest : frame.Decides (next answer) last) :
    frame.Decides (liftM question >>= next) last :=
  check_bind ((lift_answer _ _).mpr given) rest

end Decides

end Frame

end Lowering
