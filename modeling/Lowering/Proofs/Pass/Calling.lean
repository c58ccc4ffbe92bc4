import Lowering.Proofs.IR.Writing
import Lowering.Proofs.Meaning.Expression

/-
This file says which calls a step inside a body writes. A step that reports something may leave calls
out, and one that reports nothing writes those of the expressions that it lowers.
-/

namespace Lowering

open IR

namespace Expr

mutual

/-- The calls in an expression, in the order in which they are made. -/
def calls : Expr → List Expr
  | expr@(.call _ callee args) => calls callee ++ callsAll args ++ [expr]
  | .member _ base _ => calls base
  | .assign _ target value => calls target ++ calls value
  | .addressOf _ operand => calls operand
  | .bool .. | .int .. | .float .. | .string .. | .ref .. | .error .. => []

def callsAll : List Expr → List Expr
  | [] => []
  | expr :: rest => calls expr ++ callsAll rest

end

end Expr

/-- Whether a function that is called as a member of a base is a member of instances. -/
def Program.dispatches (program : Program) : Expr → Bool
  | .call _ (.member _ _ id) _ =>
    match program.routine? id with
    | .ok (some routine) => routine.isMember
    | _ => true
  | _ => true

/-- No part of the expression failed to check, and calls of members are calls of instances. -/
structure Program.Sound (program : Program) (expr : Expr) : Prop where
  checked : ∀ inner ∈ expr.walk, Program.fails inner = false
  dispatched : ∀ inner ∈ expr.walk, program.dispatches inner = true

namespace Program.Sound

variable {program : Program} {expr inner : Expr}

theorem of_mem (sound : program.Sound expr) (below : inner ∈ expr.walk) : program.Sound inner where
  checked other deeper := sound.checked other (Expr.mem_walk_trans expr below deeper)
  dispatched other deeper := sound.dispatched other (Expr.mem_walk_trans expr below deeper)

theorem isMember {note calleeNote : Note} {id : DeclId} {args : List Expr} {routine : Routine}
    (sound : program.Sound (.call note (.member calleeNote expr id) args))
    (named : program.routine? id = .ok (some routine)) : routine.isMember = true := by
  have passes := sound.dispatched _ (Expr.mem_walk_self _)
  simpa [Program.dispatches, named] using passes

theorem isError (sound : program.Sound expr) : expr.ty.isError = false := by
  have passes := sound.checked expr expr.mem_walk_self
  unfold Program.fails at passes
  exact (Bool.or_eq_false_iff.mp passes).1

theorem base {note : Note} {id : DeclId} (sound : program.Sound (.member note expr id)) :
    program.Sound expr :=
  sound.of_mem (List.mem_cons_of_mem _ expr.mem_walk_self)

theorem operand {note : Note} (sound : program.Sound (.addressOf note expr)) : program.Sound expr :=
  sound.of_mem (List.mem_cons_of_mem _ expr.mem_walk_self)

theorem target {note : Note} {value : Expr} (sound : program.Sound (.assign note expr value)) :
    program.Sound expr :=
  sound.of_mem (List.mem_cons_of_mem _ (List.mem_append_left _ expr.mem_walk_self))

theorem source {note : Note} {target : Expr} (sound : program.Sound (.assign note target expr)) :
    program.Sound expr :=
  sound.of_mem (List.mem_cons_of_mem _ (List.mem_append_right _ expr.mem_walk_self))

theorem callee {note : Note} {args : List Expr} (sound : program.Sound (.call note expr args)) :
    program.Sound expr :=
  sound.of_mem (List.mem_cons_of_mem _ (List.mem_append_left _ expr.mem_walk_self))

theorem arg {note : Note} {callee : Expr} {args : List Expr}
    (sound : program.Sound (.call note callee args)) (listed : expr ∈ args) : program.Sound expr := by
  refine sound.of_mem (List.mem_cons_of_mem _ (List.mem_append_right _ ?_))
  rw [Expr.walkAll_eq_flatMap]
  exact List.mem_flatMap.mpr ⟨expr, listed, expr.mem_walk_self⟩

theorem not_error {note : Note} (sound : program.Sound (.error note)) : False := by
  have passes := sound.checked _ (Expr.mem_walk_self _)
  simp [Program.fails] at passes

end Program.Sound

/-- No local is bound to the error value. -/
def Activation.Clean (activation : Activation) : Prop :=
  ∀ id value, activation.locals.get? id = some value → value.isError = false

/-- The locals are as they were, and what was reported still is. -/
structure Activation.Goes (before after : Activation) : Prop where
  locals : after.locals = before.locals
  report : before.pass.report.diagnostics <+: after.pass.report.diagnostics

namespace Activation.Goes

variable {first second third : Activation}

theorem refl (activation : Activation) : activation.Goes activation :=
  ⟨rfl, List.prefix_refl _⟩

theorem trans (start : first.Goes second) (rest : second.Goes third) : first.Goes third :=
  ⟨rest.locals.trans start.locals, start.report.trans rest.report⟩

theorem of_silent (silent : Frame.Silent first second) : first.Goes second :=
  ⟨silent.locals, silent.report ▸ List.prefix_refl _⟩

theorem clean (goes : first.Goes second) (clean : first.Clean) : second.Clean :=
  fun id value bound => clean id value (goes.locals ▸ bound)

/-- Where the whole reports nothing, each half reports nothing. -/
theorem silent (start : first.Goes second) (rest : second.Goes third)
    (same : third.pass.report = first.pass.report) :
    second.pass.report = first.pass.report ∧ third.pass.report = second.pass.report := by
  have back : second.pass.report.diagnostics <+: first.pass.report.diagnostics := same ▸ rest.report
  have middle : second.pass.report = first.pass.report :=
    Report.mk.injEq _ _ ▸ (back.eq_of_length_le start.report.length_le)
  exact ⟨middle, same.trans middle.symm⟩

end Activation.Goes

namespace Frame

/-- The result of a call has its type as it is seen inside the function. -/
def Returns (frame : Frame) (call : Expr) (result : OperandType) : Prop :=
  ∃ ty, frame.contextualize call.ty = .ok ty ∧ result = .object ty

/-- From one activation to another, these calls are written. -/
def Calls (frame : Frame) (before : Activation) (calls : List Expr) (after : Activation) : Prop :=
  ∃ written, before.pass.builder.Writes written after.pass.builder ∧
    List.Forall₂ frame.Returns calls (Instruction.applied written)

theorem Calls.refl (frame : Frame) (activation : Activation) : frame.Calls activation [] activation :=
  ⟨[], .refl _, .nil⟩

theorem Calls.trans {frame : Frame} {first second third : Activation} {start rest : List Expr}
    (begins : frame.Calls first start second) (ends : frame.Calls second rest third) :
    frame.Calls first (start ++ rest) third := by
  obtain ⟨written, writes, returns⟩ := begins
  obtain ⟨later, writes_later, returns_later⟩ := ends
  refine ⟨written ++ later, writes.trans writes_later, ?_⟩
  rw [Instruction.applied, List.filterMap_append]
  exact List.rel_append returns returns_later

/--
A step that starts without error values and reports nothing writes these calls, provided the premise,
and it yields such a value.
-/
structure Performs (frame : Frame) {A : Type} (premise : Prop) (step : BodyM A) (calls : List Expr)
    (post : A → Prop) : Prop where
  goes : ∀ before value after, step before = .ok value after → before.Goes after
  calls : ∀ before value after, premise → before.Clean → step before = .ok value after →
    after.pass.report = before.pass.report → frame.Calls before calls after ∧ post value

/-- An attempt does so if it succeeds. -/
structure Ventures (frame : Frame) {A : Type} (premise : Prop) (attempt : Attempt A)
    (calls : List Expr) (post : A → Prop) : Prop where
  goes : ∀ before result after, attempt.run before = .ok result after → before.Goes after
  calls : ∀ before value after, premise → before.Clean →
    attempt.run before = .ok (.ok value) after →
    after.pass.report = before.pass.report → frame.Calls before calls after ∧ post value

variable {frame : Frame} {A B : Type} {premise : Prop} {calls more : List Expr}

namespace Performs

variable {step : BodyM A} {post : A → Prop} {last : B → Prop}

theorem pure {value : A} (met : premise → post value) :
    frame.Performs premise (Pure.pure value) [] post where
  goes before given after done := by
    obtain ⟨_, rfl⟩ := (run_pure _ _ _ _).mp done
    exact .refl before
  calls before given after holds _ done _ := by
    obtain ⟨rfl, rfl⟩ := (run_pure _ _ _ _).mp done
    exact ⟨.refl frame before, met holds⟩

theorem bind {next : A → BodyM B} (first : frame.Performs premise step calls post)
    (rest : ∀ value, frame.Performs (premise ∧ post value) (next value) more last) :
    frame.Performs premise (step >>= next) (calls ++ more) last where
  goes before value after done := by
    obtain ⟨given, between, ran, done⟩ := (run_bind _ _ _ _ _).mp done
    exact (first.goes _ _ _ ran).trans ((rest given).goes _ _ _ done)
  calls before value after holds clean done same := by
    obtain ⟨given, between, ran, done⟩ := (run_bind _ _ _ _ _).mp done
    have start := first.goes _ _ _ ran
    obtain ⟨same_first, same_rest⟩ := start.silent ((rest given).goes _ _ _ done) same
    obtain ⟨begins, met⟩ := first.calls _ _ _ holds clean ran same_first
    obtain ⟨ends, met_last⟩ :=
      (rest given).calls _ _ _ ⟨holds, met⟩ (start.clean clean) done same_rest
    exact ⟨begins.trans ends, met_last⟩

theorem congr (performs : frame.Performs premise step calls post) (same : premise → calls = more) :
    frame.Performs premise step more post where
  goes := performs.goes
  calls before value after holds := same holds ▸ performs.calls before value after holds

/-- A step that makes no call comes before one that makes them all. -/
theorem idle_bind {next : A → BodyM B} (first : frame.Performs premise step [] post)
    (rest : ∀ value, frame.Performs (premise ∧ post value) (next value) calls last) :
    frame.Performs premise (step >>= next) calls last :=
  first.bind rest

/-- A step that makes all the calls comes before one that makes none. -/
theorem bind_idle {next : A → BodyM B} (first : frame.Performs premise step calls post)
    (rest : ∀ value, frame.Performs (premise ∧ post value) (next value) [] last) :
    frame.Performs premise (step >>= next) calls last :=
  (first.bind rest).congr fun _ => List.append_nil calls

theorem given {stronger : Prop} (performs : frame.Performs premise step calls post)
    (strong : stronger → premise) : frame.Performs stronger step calls post where
  goes := performs.goes
  calls before value after holds := performs.calls before value after (strong holds)

/-- What is proved without a premise holds with any. -/
theorem always (performs : frame.Performs True step calls post) :
    frame.Performs premise step calls post :=
  performs.given fun _ => trivial

theorem discard (performs : frame.Performs premise step calls post) :
    frame.Performs premise (Functor.discard step) calls fun _ => True where
  goes before value after done := by
    obtain ⟨first, ran, _⟩ := (run_map _ _ _ _ _).mp done
    exact performs.goes _ _ _ ran
  calls before value after holds clean done same := by
    obtain ⟨first, ran, _⟩ := (run_map _ _ _ _ _).mp done
    exact ⟨(performs.calls _ _ _ holds clean ran same).1, trivial⟩

theorem check_bind {question : CheckM A} {next : A → BodyM B}
    (rest : ∀ value, question = .ok value → frame.Performs premise (next value) calls last) :
    frame.Performs premise (liftM question >>= next) calls last where
  goes before value after done := by
    obtain ⟨given, asked, done⟩ := (run_ask_bind _ _ _ _ _).mp done
    exact (rest given asked).goes _ _ _ done
  calls before value after holds clean done same := by
    obtain ⟨given, asked, done⟩ := (run_ask_bind _ _ _ _ _).mp done
    exact (rest given asked).calls _ _ _ holds clean done same

theorem build {step : BuildM A} {results : List OperandType}
    (applies : BuildM.Applies step results post)
    (returns : premise → List.Forall₂ frame.Returns calls results) :
    frame.Performs premise (liftM step) calls post where
  goes before value after done := .of_silent (.build done)
  calls before value after holds _ done _ := by
    obtain ⟨builder, ran, rfl⟩ := (lift_body _ _ _ _).mp done
    obtain ⟨written, writes, rfl, met⟩ := applies _ _ _ ran
    exact ⟨⟨written, writes, returns holds⟩, met⟩

/-- A building step that makes no call. -/
theorem idle {step : BuildM A} (applies : BuildM.Applies step [] post) :
    frame.Performs premise (liftM step) [] post :=
  build applies fun _ => .nil

/-- Where something is reported, nothing needs to be said. -/
theorem report (failure : Unlowerable) (span : Span) (value : A) :
    frame.Performs premise (do BodyM.report failure span; return value) calls post where
  goes before given after done := by
    obtain ⟨_, between, reported, ends⟩ := (run_bind _ _ _ _ _).mp done
    obtain ⟨pass, added, rfl⟩ := (lift_pass _ _ _ _).mp reported
    obtain rfl := (run_modify _ _ _ _).mp added
    obtain ⟨_, rfl⟩ := (run_pure _ _ _ _).mp ends
    exact ⟨rfl, List.prefix_append _ _⟩
  calls before given after _ _ done same := by
    obtain ⟨_, between, reported, ends⟩ := (run_bind _ _ _ _ _).mp done
    obtain ⟨pass, added, rfl⟩ := (lift_pass _ _ _ _).mp reported
    obtain rfl := (run_modify _ _ _ _).mp added
    obtain ⟨_, rfl⟩ := (run_pure _ _ _ _).mp ends
    have longer := congrArg (fun report => report.diagnostics.length) same
    simp [Report.add] at longer

theorem declare (id : DeclId) :
    frame.Performs premise (liftM (frame.declare id)) [] fun value => value.isError = false where
  goes before value after done := .of_silent (Silent.declare done).1
  calls before value after _ _ done _ := by
    obtain ⟨pass, ran, rfl⟩ := (lift_pass _ _ _ _).mp done
    obtain ⟨name, between, named, ran⟩ := (run_bind _ _ _ _ _).mp ran
    obtain ⟨names, _, rfl⟩ := (lift_names _ _ _ _).mp named
    obtain ⟨signature, signed, ran⟩ := (run_check_bind _ _ _ _ _).mp ran
    obtain ⟨builder, created, rfl⟩ := (lift_build _ _ _ _).mp ran
    have writes := BuildM.writes_getOrCreateFunction created
    obtain ⟨rfl, _⟩ := BuildM.run_getOrCreateFunction created
    exact ⟨⟨[], writes, .nil⟩, rfl⟩

theorem local? (id : DeclId) :
    frame.Performs premise (BodyM.local? id) [] fun found =>
      ∀ value, found = some value → value.isError = false where
  goes before found after done := by
    obtain ⟨_, rfl⟩ := run_local? done
    exact .refl before
  calls before found after _ clean done _ := by
    obtain ⟨rfl, rfl⟩ := run_local? done
    exact ⟨.refl frame before, clean id⟩

end Performs

namespace Ventures

variable {attempt : Attempt A} {post : A → Prop} {last : B → Prop}

theorem pure {value : A} (met : premise → post value) :
    frame.Ventures premise (Pure.pure value) [] post where
  goes before result after done := by
    obtain ⟨_, rfl⟩ := (run_pure _ _ _ _).mp done
    exact .refl before
  calls before given after holds _ done _ := by
    obtain ⟨rfl, rfl⟩ := (attempt_pure _ _ _ _).mp done
    exact ⟨.refl frame before, met holds⟩

/-- Of a place that is never reached, nothing needs to be said. -/
theorem never (value : A) (never : ¬ premise) :
    frame.Ventures premise (Pure.pure value) calls post where
  goes before result after done := by
    obtain ⟨_, rfl⟩ := (run_pure _ _ _ _).mp done
    exact .refl before
  calls _ _ _ holds := (never holds).elim

/-- Of an attempt that fails, nothing needs to be said. -/
theorem fail (failure : Unlowerable) : frame.Ventures premise (Frame.fail failure) calls post where
  goes before result after done := by
    obtain ⟨_, rfl⟩ := (attempt_throw _ _ _ _).mp done
    exact .refl before
  calls before value after _ _ done _ := by
    obtain ⟨impossible, _⟩ := (attempt_throw _ _ _ _).mp done
    cases impossible

theorem bind {next : A → Attempt B} (first : frame.Ventures premise attempt calls post)
    (rest : ∀ value, frame.Ventures (premise ∧ post value) (next value) more last) :
    frame.Ventures premise (attempt >>= next) (calls ++ more) last where
  goes before result after done := by
    obtain ⟨given, between, ran, done⟩ := (run_bind _ _ _ _ _).mp done
    cases given with
    | ok given => exact (first.goes _ _ _ ran).trans ((rest given).goes _ _ _ done)
    | error failure =>
      obtain ⟨_, rfl⟩ := (run_pure _ _ _ _).mp done
      exact first.goes _ _ _ ran
  calls before value after holds clean done same := by
    obtain ⟨given, between, ran, done⟩ := (attempt_bind _ _ _ _ _).mp done
    have start := first.goes _ _ _ ran
    obtain ⟨same_first, same_rest⟩ := start.silent ((rest given).goes _ _ _ done) same
    obtain ⟨begins, met⟩ := first.calls _ _ _ holds clean ran same_first
    obtain ⟨ends, met_last⟩ :=
      (rest given).calls _ _ _ ⟨holds, met⟩ (start.clean clean) done same_rest
    exact ⟨begins.trans ends, met_last⟩

theorem congr (ventures : frame.Ventures premise attempt calls post) (same : premise → calls = more) :
    frame.Ventures premise attempt more post where
  goes := ventures.goes
  calls before value after holds := same holds ▸ ventures.calls before value after holds

/-- Where success rules calls out, none is missing. -/
theorem settle (ventures : frame.Ventures premise attempt [] fun value => post value ∧ calls = []) :
    frame.Ventures premise attempt calls post where
  goes := ventures.goes
  calls before value after holds clean done same := by
    obtain ⟨written, met, rfl⟩ := ventures.calls before value after holds clean done same
    exact ⟨written, met⟩

theorem idle_bind {next : A → Attempt B} (first : frame.Ventures premise attempt [] post)
    (rest : ∀ value, frame.Ventures (premise ∧ post value) (next value) calls last) :
    frame.Ventures premise (attempt >>= next) calls last :=
  first.bind rest

theorem bind_idle {next : A → Attempt B} (first : frame.Ventures premise attempt calls post)
    (rest : ∀ value, frame.Ventures (premise ∧ post value) (next value) [] last) :
    frame.Ventures premise (attempt >>= next) calls last :=
  (first.bind rest).congr fun _ => List.append_nil calls

/-- Nothing follows a failure. -/
theorem fail_bind (failure : Unlowerable) (next : A → Attempt B) :
    frame.Ventures premise (Frame.fail failure >>= next) calls last where
  goes before result after done := by
    obtain ⟨_, rfl⟩ := run_fail_bind done
    exact .refl before
  calls before value after _ _ done _ := by
    obtain ⟨impossible, _⟩ := run_fail_bind done
    cases impossible

theorem lift {step : BodyM A} (performs : frame.Performs premise step calls post) :
    frame.Ventures premise (liftM step) calls post where
  goes before result after done := by
    obtain ⟨value, ran, _⟩ := (lift_attempt _ _ _ _).mp done
    exact performs.goes _ _ _ ran
  calls before value after holds clean done same := by
    obtain ⟨given, ran, yields⟩ := (lift_attempt _ _ _ _).mp done
    obtain rfl := Except.ok.inj yields
    exact performs.calls _ _ _ holds clean ran same

theorem imp {weaker : A → Prop} (ventures : frame.Ventures premise attempt calls post)
    (weaken : premise → ∀ value, post value → weaker value) :
    frame.Ventures premise attempt calls weaker where
  goes := ventures.goes
  calls before value after holds clean done same :=
    (ventures.calls before value after holds clean done same).imp_right (weaken holds value)

theorem check_bind {question : CheckM A} {next : A → Attempt B}
    (rest : ∀ value, question = .ok value → frame.Ventures premise (next value) calls last) :
    frame.Ventures premise (liftM question >>= next) calls last where
  goes before result after done := by
    obtain ⟨given, asked, done⟩ := (attempt_check_bind _ _ _ _ _).mp done
    exact (rest given asked).goes _ _ _ done
  calls before value after holds clean done same := by
    obtain ⟨given, asked, done⟩ := (attempt_check_bind _ _ _ _ _).mp done
    exact (rest given asked).calls _ _ _ holds clean done same

theorem ask_bind {question : Answer A} {next : A → Attempt B}
    (rest : ∀ value, question = .ok value → frame.Ventures premise (next value) calls last) :
    frame.Ventures premise (liftM question >>= next) calls last :=
  check_bind fun value asked => rest value ((lift_answer _ _).mp asked)

end Ventures

namespace Performs

variable {attempt : Attempt A} {post : A → Prop}

/-- An attempt that makes no call is made good by what follows it. -/
theorem recover {other : Unlowerable → BodyM A} {found : Except Unlowerable A → Prop}
    (ran : frame.Performs premise attempt.run [] found)
    (succeeds : ∀ value, premise → found (.ok value) → calls = [] ∧ post value)
    (otherwise : ∀ failure, frame.Performs premise (other failure) calls post) :
    frame.Performs premise (attempt.recover other) calls post := by
  refine idle_bind ran fun result => ?_
  cases result with
  | ok value =>
    refine (pure fun holds => (succeeds value holds.1 holds.2).2).congr fun holds => ?_
    exact (succeeds value holds.1 holds.2).1.symm
  | error failure => exact (otherwise failure).given And.left

/-- A failure is reported. -/
theorem recover_report (ventures : frame.Ventures premise attempt calls post) (span : Span)
    (value : A) :
    frame.Performs premise (attempt.recover fun failure => do
      BodyM.report failure span
      return value) calls post where
  goes before given after done := by
    rcases (attempt_recover _ _ _ _ _).mp done with ran | ⟨failure, between, failed, done⟩
    · exact ventures.goes _ _ _ ran
    · have reports : frame.Performs True _ [] fun _ => True := report failure span value
      exact (ventures.goes _ _ _ failed).trans (reports.goes _ _ _ done)
  calls before given after holds clean done same := by
    rcases (attempt_recover _ _ _ _ _).mp done with ran | ⟨failure, between, failed, done⟩
    · exact ventures.calls _ _ _ holds clean ran same
    · have reports : frame.Performs True _ [] fun _ => False := report failure span value
      have start := ventures.goes _ _ _ failed
      obtain ⟨_, same⟩ := start.silent (reports.goes _ _ _ done) same
      exact (reports.calls _ _ _ trivial (start.clean clean) done same).2.elim

end Performs

end Frame

end Lowering
