import Lowering.Pass.Basic

/-
This file takes runs apart. A run of several steps that returns is a run of each of them, a run that
stops does so in one of them, and a step that is lifted into a larger state runs on its own part of it.
-/

namespace Lowering

open IR

section Steps

variable {E S A B : Type}

theorem run_bind (step : EStateM E S A) (next : A → EStateM E S B) (before after : S) (value : B) :
    (step >>= next) before = .ok value after ↔
      ∃ first between, step before = .ok first between ∧ next first between = .ok value after := by
  show EStateM.bind step next before = .ok value after ↔ _
  unfold EStateM.bind
  constructor
  · intro done
    split at done
    next first between ran => exact ⟨first, between, ran, done⟩
    next => cases done
  · rintro ⟨first, between, ran, rest⟩
    simpa only [ran] using rest

/-- What follows a step that returns goes on from there, whether it returns or not. -/
theorem bind_of_ok {step : EStateM E S A} {next : A → EStateM E S B} {before between : S} {first : A}
    (ran : step before = .ok first between) : (step >>= next) before = next first between := by
  show EStateM.bind step next before = _
  rw [EStateM.bind, ran]

@[simp] theorem run_pure (given value : A) (before after : S) :
    (pure given : EStateM E S A) before = .ok value after ↔ given = value ∧ before = after := by
  show EStateM.Result.ok given before = .ok value after ↔ _
  simp

@[simp] theorem run_throw (error : E) (value : A) (before after : S) :
    (throw error : EStateM E S A) before = .ok value after ↔ False := by
  show EStateM.Result.error error before = .ok value after ↔ _
  simp

@[simp] theorem run_get (value before after : S) :
    (get : EStateM E S S) before = .ok value after ↔ before = value ∧ before = after := by
  show EStateM.Result.ok before before = .ok value after ↔ _
  simp

@[simp] theorem run_modify (change : S → S) (before after : S) (value : PUnit) :
    (modify change : EStateM E S PUnit) before = .ok value after ↔ change before = after := by
  show EStateM.Result.ok PUnit.unit (change before) = .ok value after ↔ _
  simp

theorem run_map (change : A → B) (step : EStateM E S A) (before after : S) (value : B) :
    (change <$> step) before = .ok value after ↔
      ∃ first, step before = .ok first after ∧ change first = value := by
  show EStateM.map change step before = .ok value after ↔ _
  unfold EStateM.map
  cases step before with
  | ok first between =>
    simp only [EStateM.Result.ok.injEq]
    constructor
    · rintro ⟨same, rfl⟩
      exact ⟨first, ⟨rfl, rfl⟩, same⟩
    · rintro ⟨given, ⟨rfl, rfl⟩, same⟩
      exact ⟨same, rfl⟩
  | error => simp

/-- A run over a list is a run for its first element and then one over the others. -/
theorem run_mapM_cons (step : A → EStateM E S B) (item : A) (rest : List A) (before after : S)
    (values : List B) :
    (item :: rest).mapM step before = .ok values after ↔
      ∃ value between others, step item before = .ok value between ∧
        rest.mapM step between = .ok others after ∧ value :: others = values := by
  rw [List.mapM_cons]
  constructor
  · intro done
    obtain ⟨value, between, ran, done⟩ := (run_bind _ _ _ _ _).mp done
    obtain ⟨others, last, mapped, done⟩ := (run_bind _ _ _ _ _).mp done
    obtain ⟨same, rfl⟩ := (run_pure _ _ _ _).mp done
    exact ⟨value, between, others, ran, mapped, same⟩
  · rintro ⟨value, between, others, ran, mapped, rfl⟩
    refine (run_bind _ _ _ _ _).mpr ⟨value, between, ran, ?_⟩
    exact (run_bind _ _ _ _ _).mpr ⟨others, after, mapped, rfl⟩

/-- What a step yields may be left unused. -/
theorem discard_bind (step : EStateM E S A) (next : PUnit → EStateM E S B) :
    (discard step >>= next) = step >>= fun _ => next PUnit.unit :=
  bind_map_left _ step next

/-- Of two steps the first stops, or it returns and the second stops. -/
theorem run_bind_error (step : EStateM E S A) (next : A → EStateM E S B) (before after : S)
    (error : E) :
    (step >>= next) before = .error error after ↔ step before = .error error after ∨
      ∃ first between, step before = .ok first between ∧ next first between = .error error after := by
  show EStateM.bind step next before = .error error after ↔ _
  unfold EStateM.bind
  cases step before with
  | ok first between =>
    simp only [reduceCtorEq, false_or, EStateM.Result.ok.injEq]
    constructor
    · intro stops
      exact ⟨first, between, ⟨rfl, rfl⟩, stops⟩
    · rintro ⟨_, _, ⟨rfl, rfl⟩, stops⟩
      exact stops
  | error => simp

@[simp] theorem run_pure_error (given : A) (error : E) (before after : S) :
    (pure given : EStateM E S A) before = .error error after ↔ False := by
  show EStateM.Result.ok given before = .error error after ↔ _
  simp

theorem run_throw_error (given error : E) (before after : S) :
    (throw given : EStateM E S A) before = .error error after ↔ given = error ∧ before = after := by
  show EStateM.Result.error given before = .error error after ↔ _
  simp

@[simp] theorem run_modify_error (change : S → S) (error : E) (before after : S) :
    (modify change : EStateM E S PUnit) before = .error error after ↔ False := by
  show EStateM.Result.ok PUnit.unit (change before) = .error error after ↔ _
  simp

theorem run_map_error (change : A → B) (step : EStateM E S A) (error : E) (before after : S) :
    (change <$> step) before = .error error after ↔ step before = .error error after := by
  show EStateM.map change step before = .error error after ↔ _
  unfold EStateM.map
  cases step before <;> simp

end Steps

section Checks

variable {E A B : Type}

theorem check_bind (check : Except E A) (next : A → Except E B) (value : B) :
    (check >>= next) = .ok value ↔ ∃ first, check = .ok first ∧ next first = .ok value := by
  cases check <;> simp [bind, Except.bind]

@[simp] theorem check_pure (given value : A) :
    (pure given : Except E A) = .ok value ↔ given = value := by
  simp [pure, Except.pure]

/-- An answer for every item. -/
theorem check_mapM_length {check : A → Except E B} (items : List A) {values : List B}
    (done : items.mapM check = .ok values) : values.length = items.length := by
  induction items generalizing values with
  | nil =>
    obtain rfl := (check_pure _ _).mp done
    rfl
  | cons item rest rest_ih =>
    rw [List.mapM_cons, check_bind] at done
    obtain ⟨first, _, done⟩ := done
    obtain ⟨others, answered, same⟩ := (check_bind _ _ _).mp done
    obtain rfl := (check_pure _ _).mp same
    rw [List.length_cons, List.length_cons, rest_ih answered]

theorem run'_of_ok {E S A : Type} {step : EStateM E S A} {before after : S} {value : A}
    (done : step before = .ok value after) : step.run' before = some value := by
  unfold EStateM.run' EStateM.run
  rw [done]

/-- A run that yields something leaves a state behind. -/
theorem ok_of_run' {E S A : Type} {step : EStateM E S A} {before : S}
    (yields : (step.run' before).isSome = true) :
    ∃ value after, step before = .ok value after := by
  unfold EStateM.run' EStateM.run at yields
  cases ran : step before with
  | ok value after => exact ⟨value, after, rfl⟩
  | error => simp [ran] at yields

/-- What is seen of a result tells that there is one. -/
theorem ok_of_map {result : Except E A} {view : A → B} {seen : B}
    (given : result.toOption.map view = some seen) :
    ∃ value, result = .ok value ∧ view value = seen := by
  cases result with
  | ok value => exact ⟨value, rfl, Option.some.inj given⟩
  | error => cases given

@[simp] theorem check_abort (violation : Violation) (value : A) :
    (abort violation : CheckM A) = .ok value ↔ False := by
  simp [abort]

end Checks

section Lifts

variable {A : Type}

@[simp] theorem lift_answer (answer : Answer A) (value : A) :
    (liftM answer : CheckM A) = .ok value ↔ answer = .ok value := by
  show (match answer with
    | .ok value => .ok value
    | .error error => .error (.query error) : CheckM A) = .ok value ↔ _
  cases answer <;> simp

@[simp] theorem lift_check (check : CheckM A) (before after : Pass) (value : A) :
    (liftM check : PassM A) before = .ok value after ↔ check = .ok value ∧ before = after := by
  cases check with
  | ok given => exact (run_pure given value before after).trans (by simp)
  | error abort => exact (run_throw abort value before after).trans (by simp)

theorem lift_build (step : BuildM A) (before after : Pass) (value : A) :
    (liftM step : PassM A) before = .ok value after ↔
      ∃ builder, step before.builder = .ok value builder ∧
        after = { before with builder := builder } := by
  simp only [liftM, monadLift, MonadLift.monadLift]
  cases step before.builder with
  | ok given builder =>
    simp only [EStateM.Result.ok.injEq]
    constructor
    · rintro ⟨rfl, rfl⟩
      exact ⟨builder, ⟨rfl, rfl⟩, rfl⟩
    · rintro ⟨_, ⟨rfl, rfl⟩, rfl⟩
      exact ⟨rfl, rfl⟩
  | error => simp

theorem lift_names (step : NamesM A) (before after : Pass) (value : A) :
    (liftM step : PassM A) before = .ok value after ↔
      ∃ names, step before.names = .ok value names ∧ after = { before with names := names } := by
  simp only [liftM, monadLift, MonadLift.monadLift]
  cases step before.names with
  | ok given names =>
    simp only [EStateM.Result.ok.injEq]
    constructor
    · rintro ⟨rfl, rfl⟩
      exact ⟨names, ⟨rfl, rfl⟩, rfl⟩
    · rintro ⟨_, ⟨rfl, rfl⟩, rfl⟩
      exact ⟨rfl, rfl⟩
  | error => simp

theorem lift_pass (step : PassM A) (before after : Activation) (value : A) :
    (liftM step : BodyM A) before = .ok value after ↔
      ∃ pass, step before.pass = .ok value pass ∧ after = { before with pass := pass } := by
  simp only [liftM, monadLift, MonadLift.monadLift]
  cases step before.pass with
  | ok given pass =>
    simp only [EStateM.Result.ok.injEq]
    constructor
    · rintro ⟨rfl, rfl⟩
      exact ⟨pass, ⟨rfl, rfl⟩, rfl⟩
    · rintro ⟨_, ⟨rfl, rfl⟩, rfl⟩
      exact ⟨rfl, rfl⟩
  | error => simp

/-- A check leaves the activation as it is. -/
theorem run_ask (question : CheckM A) (before after : Activation) (value : A) :
    (liftM question : BodyM A) before = .ok value after ↔ question = .ok value ∧ before = after := by
  refine (lift_pass (liftM question) _ _ _).trans ?_
  constructor
  · rintro ⟨pass, ran, rfl⟩
    obtain ⟨given, rfl⟩ := (lift_check _ _ _ _).mp ran
    exact ⟨given, rfl⟩
  · rintro ⟨given, rfl⟩
    exact ⟨before.pass, (lift_check _ _ _ _).mpr ⟨given, rfl⟩, rfl⟩

theorem lift_check_error (check : CheckM A) (before after : Pass) (abort : Abort) :
    (liftM check : PassM A) before = .error abort after ↔
      check = .error abort ∧ before = after := by
  cases check with
  | ok given => exact (run_pure_error given abort before after).trans (by simp)
  | error own => exact (run_throw_error own abort before after).trans (by simp)

/-- What stops the builder aborts the pass. -/
theorem lift_build_error (step : BuildM A) (before after : Pass) (abort : Abort) :
    (liftM step : PassM A) before = .error abort after ↔ ∃ error builder,
      step before.builder = .error error builder ∧ abort = .violation (.misuse error) ∧
        after = { before with builder := builder } := by
  simp only [liftM, monadLift, MonadLift.monadLift]
  cases step before.builder with
  | ok given builder => simp
  | error error builder =>
    simp only [EStateM.Result.error.injEq]
    constructor
    · rintro ⟨rfl, rfl⟩
      exact ⟨error, builder, ⟨rfl, rfl⟩, rfl, rfl⟩
    · rintro ⟨_, _, ⟨rfl, rfl⟩, rfl, rfl⟩
      exact ⟨rfl, rfl⟩

theorem lift_names_error (step : NamesM A) (before after : Pass) (abort : Abort) :
    (liftM step : PassM A) before = .error abort after ↔ ∃ error names,
      step before.names = .error error names ∧ abort = .query error ∧
        after = { before with names := names } := by
  simp only [liftM, monadLift, MonadLift.monadLift]
  cases step before.names with
  | ok given names => simp
  | error error names =>
    simp only [EStateM.Result.error.injEq]
    constructor
    · rintro ⟨rfl, rfl⟩
      exact ⟨error, names, ⟨rfl, rfl⟩, rfl, rfl⟩
    · rintro ⟨_, _, ⟨rfl, rfl⟩, rfl, rfl⟩
      exact ⟨rfl, rfl⟩

theorem lift_pass_error (step : PassM A) (before after : Activation) (abort : Abort) :
    (liftM step : BodyM A) before = .error abort after ↔ ∃ pass,
      step before.pass = .error abort pass ∧ after = { before with pass := pass } := by
  simp only [liftM, monadLift, MonadLift.monadLift]
  cases step before.pass with
  | ok given pass => simp
  | error own pass =>
    simp only [EStateM.Result.error.injEq]
    constructor
    · rintro ⟨rfl, rfl⟩
      exact ⟨pass, ⟨rfl, rfl⟩, rfl⟩
    · rintro ⟨_, ⟨rfl, rfl⟩, rfl⟩
      exact ⟨rfl, rfl⟩

/-- Nothing is done after an abort. -/
theorem run_check_abort (violation : Violation) (before after : Pass) (value : A) :
    (liftM (abort violation : CheckM A) : PassM A) before = .ok value after ↔ False := by
  rw [lift_check, check_abort, false_and]

theorem run_ask_abort (violation : Violation) (before after : Activation) (value : A) :
    (liftM (abort violation : CheckM A) : BodyM A) before = .ok value after ↔ False := by
  rw [run_ask, check_abort, false_and]

theorem run_check_bind {B : Type} (question : CheckM A) (next : A → PassM B) (before after : Pass)
    (value : B) :
    (liftM question >>= next) before = .ok value after ↔
      ∃ answer, question = .ok answer ∧ next answer before = .ok value after := by
  refine (run_bind _ _ _ _ _).trans ?_
  constructor
  · rintro ⟨answer, between, asked, done⟩
    obtain ⟨given, rfl⟩ := (lift_check _ _ _ _).mp asked
    exact ⟨answer, given, done⟩
  · rintro ⟨answer, given, done⟩
    exact ⟨answer, before, (lift_check _ _ _ _).mpr ⟨given, rfl⟩, done⟩

theorem run_ask_bind {B : Type} (question : CheckM A) (next : A → BodyM B)
    (before after : Activation) (value : B) :
    (liftM question >>= next) before = .ok value after ↔
      ∃ answer, question = .ok answer ∧ next answer before = .ok value after := by
  refine (run_bind _ _ _ _ _).trans ?_
  constructor
  · rintro ⟨answer, between, asked, done⟩
    obtain ⟨given, rfl⟩ := (run_ask _ _ _ _).mp asked
    exact ⟨answer, given, done⟩
  · rintro ⟨answer, given, done⟩
    exact ⟨answer, before, (run_ask _ _ _ _).mpr ⟨given, rfl⟩, done⟩

theorem run_restoring (step : PassM A) (before after : Pass) (value : A) :
    PassM.restoring step before = .ok value after ↔
      ∃ last, step before = .ok value last ∧ after = last.withCursor before.builder.cursor := by
  unfold PassM.restoring
  cases step before with
  | ok given last =>
    simp only [EStateM.Result.ok.injEq]
    constructor
    · rintro ⟨rfl, rfl⟩
      exact ⟨last, ⟨rfl, rfl⟩, rfl⟩
    · rintro ⟨_, ⟨rfl, rfl⟩, rfl⟩
      exact ⟨rfl, rfl⟩
  | error => simp

theorem run_activate (locals : Locals) (body : BodyM A) (before after : Pass) (value : A) :
    PassM.activate locals body before = .ok value after ↔
      ∃ last, body ⟨before, locals⟩ = .ok value last ∧ after = last.pass := by
  unfold PassM.activate
  cases body ⟨before, locals⟩ with
  | ok given last =>
    simp only [EStateM.Result.ok.injEq]
    constructor
    · rintro ⟨rfl, rfl⟩
      exact ⟨last, ⟨rfl, rfl⟩, rfl⟩
    · rintro ⟨_, ⟨rfl, rfl⟩, rfl⟩
      exact ⟨rfl, rfl⟩
  | error => simp

theorem run_activate_error (locals : Locals) (body : BodyM A) (before after : Pass)
    (abort : Abort) :
    PassM.activate locals body before = .error abort after ↔
      ∃ last, body ⟨before, locals⟩ = .error abort last ∧ after = last.pass := by
  unfold PassM.activate
  cases body ⟨before, locals⟩ with
  | ok => simp
  | error own last =>
    simp only [EStateM.Result.error.injEq]
    constructor
    · rintro ⟨rfl, rfl⟩
      exact ⟨last, ⟨rfl, rfl⟩, rfl⟩
    · rintro ⟨_, ⟨rfl, rfl⟩, rfl⟩
      exact ⟨rfl, rfl⟩

end Lifts

/-- A local is looked up, and nothing changes. -/
theorem run_local? {id : DeclId} {found : Option Value} {before after : Activation}
    (done : BodyM.local? id before = .ok found after) :
    before.locals.get? id = found ∧ before = after := by
  unfold BodyM.local? at done
  obtain ⟨_, _, read, done⟩ := (run_bind _ _ _ _ _).mp done
  obtain ⟨rfl, rfl⟩ := (run_get _ _ _).mp read
  exact (run_pure _ _ _ _).mp done

section Attempts

variable {A B : Type}

theorem attempt_bind (attempt : Attempt A) (next : A → Attempt B) (before after : Activation)
    (value : B) :
    (attempt >>= next).run before = .ok (.ok value) after ↔
      ∃ first between, attempt.run before = .ok (.ok first) between ∧
        (next first).run between = .ok (.ok value) after := by
  refine (run_bind _ _ _ _ _).trans ?_
  constructor
  · rintro ⟨first, between, ran, rest⟩
    cases first with
    | ok first => exact ⟨first, between, ran, rest⟩
    | error failure =>
      obtain ⟨impossible, _⟩ := (run_pure _ _ _ _).mp rest
      cases impossible
  · rintro ⟨first, between, ran, rest⟩
    exact ⟨.ok first, between, ran, rest⟩

/-- An attempt fails at its start or later. -/
theorem attempt_bind_error (attempt : Attempt A) (next : A → Attempt B)
    (before after : Activation) (failure : Unlowerable) :
    (attempt >>= next).run before = .ok (.error failure) after ↔
      attempt.run before = .ok (.error failure) after ∨
        ∃ first between, attempt.run before = .ok (.ok first) between ∧
          (next first).run between = .ok (.error failure) after := by
  refine (run_bind _ _ _ _ _).trans ?_
  constructor
  · rintro ⟨first, between, ran, rest⟩
    cases first with
    | ok first => exact Or.inr ⟨first, between, ran, rest⟩
    | error other =>
      obtain ⟨same, rfl⟩ := (run_pure _ _ _ _).mp rest
      cases same
      exact Or.inl ran
  · rintro (ran | ⟨first, between, ran, rest⟩)
    · exact ⟨.error failure, after, ran, (run_pure _ _ _ _).mpr ⟨rfl, rfl⟩⟩
    · exact ⟨.ok first, between, ran, rest⟩

@[simp] theorem attempt_pure (given value : A) (before after : Activation) :
    (pure given : Attempt A).run before = .ok (.ok value) after ↔
      given = value ∧ before = after := by
  refine (run_pure _ _ _ _).trans ?_
  simp

@[simp] theorem attempt_throw (error : Unlowerable) (result : Except Unlowerable A)
    (before after : Activation) :
    (throw error : Attempt A).run before = .ok result after ↔
      .error error = result ∧ before = after :=
  run_pure _ _ _ _

/-- A step of a body does not fail as an attempt. -/
theorem lift_attempt (step : BodyM A) (before after : Activation) (result : Except Unlowerable A) :
    (liftM step : Attempt A).run before = .ok result after ↔
      ∃ value, step before = .ok value after ∧ .ok value = result :=
  run_map _ _ _ _ _

theorem lift_attempt_build (step : BuildM A) (before after : Activation)
    (result : Except Unlowerable A) :
    (liftM step : Attempt A).run before = .ok result after ↔
      ∃ value, (liftM step : BodyM A) before = .ok value after ∧ .ok value = result :=
  lift_attempt (liftM step) before after result

/-- What follows a step of a body is tried after it. -/
theorem attempt_lift_bind (step : BodyM A) (next : A → Attempt B) (before after : Activation)
    (result : Except Unlowerable B) :
    (liftM step >>= next).run before = .ok result after ↔
      ∃ first between, step before = .ok first between ∧
        (next first).run between = .ok result after := by
  refine (run_bind _ _ _ _ _).trans ?_
  constructor
  · rintro ⟨given, between, lifted, rest⟩
    obtain ⟨first, ran, rfl⟩ := (run_map _ _ _ _ _).mp lifted
    exact ⟨first, between, ran, rest⟩
  · rintro ⟨first, between, ran, rest⟩
    exact ⟨.ok first, between, (run_map _ _ _ _ _).mpr ⟨first, ran, rfl⟩, rest⟩

theorem attempt_check_bind (question : CheckM A) (next : A → Attempt B) (before after : Activation)
    (result : Except Unlowerable B) :
    (liftM question >>= next).run before = .ok result after ↔
      ∃ first, question = .ok first ∧ (next first).run before = .ok result after := by
  refine (attempt_lift_bind (liftM question) next before after result).trans ?_
  constructor
  · rintro ⟨first, between, ran, rest⟩
    obtain ⟨given, rfl⟩ := (run_ask _ _ _ _).mp ran
    exact ⟨first, given, rest⟩
  · rintro ⟨first, given, rest⟩
    exact ⟨first, before, (run_ask _ _ _ _).mpr ⟨given, rfl⟩, rest⟩

theorem attempt_recover (attempt : Attempt A) (other : Unlowerable → BodyM A)
    (before after : Activation) (value : A) :
    attempt.recover other before = .ok value after ↔
      attempt.run before = .ok (.ok value) after ∨
        ∃ failure between, attempt.run before = .ok (.error failure) between ∧
          other failure between = .ok value after := by
  refine (run_bind _ _ _ _ _).trans ?_
  constructor
  · rintro ⟨first, between, ran, rest⟩
    cases first with
    | ok first =>
      obtain ⟨rfl, rfl⟩ := (run_pure _ _ _ _).mp rest
      exact Or.inl ran
    | error failure => exact Or.inr ⟨failure, between, ran, rest⟩
  · rintro (ran | ⟨failure, between, ran, rest⟩)
    · exact ⟨.ok value, after, ran, (run_pure _ _ _ _).mpr ⟨rfl, rfl⟩⟩
    · exact ⟨.error failure, between, ran, rest⟩

end Attempts

end Lowering
