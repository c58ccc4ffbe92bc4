import Lowering.Proofs.Meaning.Step
import Lowering.Proofs.Pass.Locating

/-
This file shows that the lowering of an expression does what the expression does. An expression that
denotes a location becomes an address, and any other becomes its value.
-/

namespace Lowering

open IR

/-- The location is that of a member of what a local is bound to. -/
def IR.Machine.Leads (machine : Machine) (locals : Locals) (location : Value) (var : DeclId)
    (path : List DeclId) : Prop :=
  ∃ bound cell, locals.get? var = some bound ∧ machine.word? bound = some (.address cell []) ∧
    machine.word? location = some (.address cell path) ∧
    location.type.ty.isExistential = false

/-- What is reported of an expression is an error. -/
theorem run_report {failure : Unlowerable} {span : Span} {before after : Activation} {value : Unit}
    (done : BodyM.report failure span before = .ok value after) :
    after.pass.report.containsError = true := by
  obtain ⟨pass, ran, rfl⟩ := (lift_pass _ _ _ _).mp done
  obtain rfl := (run_modify _ _ _ _).mp ran
  simp [Report.containsError_add, Finding.diagnostic, Diagnostic.isError]

/-- Without an error, an attempt whose failure would be reported did not fail. -/
theorem run_recover_report {attempt : Attempt Value} {span : Span} {placeholder value : Value}
    {before after : Activation}
    (done : (attempt.recover fun failure => do
      BodyM.report failure span
      return placeholder) before = .ok value after)
    (accepted : after.pass.report.containsError = false) :
    attempt.run before = .ok (.ok value) after := by
  rcases (attempt_recover _ _ _ _ _).mp done with ran | ⟨failure, between, _, done⟩
  · exact ran
  · obtain ⟨_, last, reported, done⟩ := (run_bind _ _ _ _ _).mp done
    obtain ⟨_, rfl⟩ := (run_pure _ _ _ _).mp done
    rw [run_report reported] at accepted
    cases accepted

namespace Frame

variable {frame : Frame} {start machine : Machine} {before after : Activation} {store : Store}
  {expr : Expr} {location : Value}

theorem contextualize_of_isPlain {ty seen : Ty} (plain : ty.isPlain = true)
    (given : frame.contextualize ty = .ok seen) : seen = ty := by
  obtain ⟨env, rfl⟩ := contextualize_eq_ok given
  exact Ty.contextualized_of_isPlain plain env

/-- A variable or a stored member of one leads to the cell of the variable. -/
theorem Locates.leads (located : frame.Locates before expr (.ok location) after)
    (live : frame.toJob.Live start before store machine)
    (free : frame.program.isCallFree expr = true) :
    ∃ var path later, expr.place = some (var, path) ∧
      frame.toJob.Live start after store later ∧ before.Builds after ∧ machine.Extends later ∧
      later.Leads after.locals location var path := by
  generalize answer : Except.ok location = result at located
  induction located generalizing location with
  | flawed flawed =>
    rw [Ty.isError_of_isPlain (Program.isPlain_of_isCallFree free)] at flawed
    cases flawed
  | @bound note id value _ found place =>
    obtain rfl := Except.ok.inj answer
    obtain ⟨tree, _, holds⟩ := live.mirrors.values id location found
    cases holds with
    | object own word =>
      rw [own, Machine.isError_of_word? word] at place
      cases place
    | cell cell own concrete word _ =>
      exact ⟨id, [], machine, rfl, live, ⟨rfl, rfl⟩, .refl machine, location, cell, found, word,
        word, concrete⟩
  | @member note base id decl record value ty between after _ declared _ _ _ seen selected base_ih =>
    obtain rfl := Except.ok.inj answer
    simp only [Program.isCallFree, Bool.and_eq_true] at free
    obtain ⟨⟨_, base_free⟩, member⟩ := free
    obtain ⟨own, known, _, typed⟩ := Program.exists_of_isStoredMember member
    obtain rfl := Except.ok.inj (known.symm.trans declared)
    obtain ⟨var, path, next, leads, live, begins, grows, bound, cell, found, points, word, _⟩ :=
      base_ih base_free rfl
    obtain rfl := contextualize_of_isPlain typed seen
    have builds := builds_of_lift selected
    obtain ⟨later, live, further, _, word, type⟩ := live.recordMemberAddr word selected
    refine ⟨var, path ++ [id], later, by simp [Expr.place, leads], live, begins.trans builds,
      grows.trans further, bound, cell, ?_, further.word? points, word, ?_⟩
    · rw [builds.locals]
      exact found
    · rw [type]
      exact Ty.isExistential_of_isPlain typed
  | addressOf => cases free
  | object | missing | placeless | dispatched | computed | other => cases answer

/-- A variable is its own value, or it is read from its cell. -/
theorem reference_eval {id : DeclId} {value : Value}
    (live : frame.toJob.Live start before store machine)
    (variable_ : frame.program.isVariable id = true)
    (done : (frame.reference id).run before = .ok (.ok value) after) :
    ∃ tree later, store id = some tree ∧ frame.toJob.Live start after store later ∧
      after.locals = before.locals ∧ machine.Extends later ∧
      later.word? value = some (.tree tree) := by
  obtain ⟨own, declared, local_⟩ := Program.exists_of_isVariable variable_
  obtain ⟨found, between, asked, done⟩ := (attempt_lift_bind _ _ _ _ _).mp done
  obtain ⟨bound, rfl⟩ := run_local? asked
  cases found with
  | none =>
    obtain ⟨decl, found, done⟩ := (attempt_check_bind _ _ _ _ _).mp done
    obtain rfl := Except.ok.inj (declared.symm.trans ((lift_answer _ _).mp found))
    split at done
    next kind =>
      rw [kind] at local_
      cases local_
    next =>
      rw [if_pos local_] at done
      cases ((attempt_throw _ _ _ _).mp done).1
  | some given =>
    obtain ⟨tree, known, holds⟩ := live.mirrors.values id given bound
    simp only at done
    cases holds with
    | object own word =>
      rw [own] at done
      obtain ⟨rfl, rfl⟩ := (attempt_pure _ _ _ _).mp done
      exact ⟨tree, machine, known, live, rfl, .refl machine, word⟩
    | cell cell own _ word stored =>
      rw [own, Machine.isError_of_word? word] at done
      obtain ⟨value, loaded, same⟩ := (lift_attempt_build _ _ _ _).mp done
      obtain rfl := Except.ok.inj same
      obtain ⟨later, live, grows, result⟩ := live.load word stored loaded
      exact ⟨tree, later, known, live, (builds_of_lift loaded).locals, grows, result⟩

/-- What was emitted does what the expression does, and the value is what it yields. -/
def Evaluates (frame : Frame) (start : Machine) (expr : Expr) (before : Activation) (store : Store)
    (machine : Machine) (value : Value) (after : Activation) : Prop :=
  ∃ tree left later, expr.eval store = some (tree, left) ∧
    frame.toJob.Live start after left later ∧ after.locals = before.locals ∧
    machine.Extends later ∧ later.word? value = some (.tree tree)

/-- Wherever it starts, the step does what the expression does. -/
def Follows (frame : Frame) (start : Machine) (expr : Expr) (step : BodyM Value) : Prop :=
  ∀ before store machine value after, frame.toJob.Live start before store machine →
    step before = .ok value after → after.pass.report.containsError = false →
      frame.Evaluates start expr before store machine value after

/-- Without an error an expression was lowered. -/
theorem run_emitWith {lowered : Attempt Value} {value : Value} (plain : expr.ty.isPlain = true)
    (done : emitWith expr lowered before = .ok value after)
    (accepted : after.pass.report.containsError = false) :
    lowered.run before = .ok (.ok value) after := by
  unfold emitWith at done
  simp only [Ty.isError_of_isPlain plain, Bool.false_eq_true, if_false] at done
  exact run_recover_report done accepted

/-- A member that is read is that of a record, and is read through its address. -/
theorem run_readMember {base : Expr} {step : BodyM Value} {value : Value} {id : DeclId}
    {name : String} {ty : Ty}
    (done : (frame.readMember base step id name ty).run before = .ok (.ok value) after) :
    ∃ record between seen address last,
      (frame.location base).recover (fun _ => frame.spill base step) before = .ok record between ∧
      (liftM (BuildM.recordMemberAddr record id name seen) : BodyM Value) between =
        .ok address last ∧
      (liftM (BuildM.load address) : BodyM Value) last = .ok value after := by
  obtain ⟨record, between, placed, done⟩ := (attempt_lift_bind _ _ _ _ _).mp done
  obtain ⟨seen, _, done⟩ := (attempt_check_bind _ _ _ _ _).mp done
  obtain ⟨address, last, ran, done⟩ := (attempt_bind _ _ _ _ _).mp done
  obtain ⟨_, built, same⟩ := (lift_attempt_build _ _ _ _).mp ran
  obtain rfl := Except.ok.inj same
  obtain ⟨_, loaded, same⟩ := (lift_attempt_build _ _ _ _).mp done
  obtain rfl := Except.ok.inj same
  exact ⟨record, between, seen, _, last, placed, built, loaded⟩

/-- The member of a record is read through its address. -/
theorem read_member {record address value : Value} {cell : Nat} {path : List DeclId} {root : Tree}
    {id : DeclId} {name : String} {ty : Ty} {between : Activation}
    (live : frame.toJob.Live start before store machine)
    (leads : machine.word? record = some (.address cell path))
    (stored : machine.cells[cell]? = some root)
    (built : (liftM (BuildM.recordMemberAddr record id name ty) : BodyM Value) before =
      .ok address between)
    (loaded : (liftM (BuildM.load address) : BodyM Value) between = .ok value after) :
    ∃ later, frame.toJob.Live start after store later ∧ machine.Extends later ∧
      later.word? value = some (.tree ((root.get path).member id)) := by
  obtain ⟨next, live, grows, cells, word, _⟩ := live.recordMemberAddr leads built
  obtain ⟨later, live, further, word⟩ := live.load word (cells ▸ stored) loaded
  refine ⟨later, live, grows.trans further, ?_⟩
  rw [word, Tree.get_append]
  rfl

/-- A value without a location is stored in a cell that no local has. -/
theorem spill_eval {value : BodyM Value} (follows : frame.Follows start expr value)
    (live : frame.toJob.Live start before store machine)
    (done : frame.spill expr value before = .ok location after)
    (accepted : after.pass.report.containsError = false) :
    ∃ tree left later cell, expr.eval store = some (tree, left) ∧
      frame.toJob.Live start after left later ∧ after.locals = before.locals ∧
      machine.Extends later ∧ later.word? location = some (.address cell []) ∧
      later.cells[cell]? = some tree := by
  obtain ⟨given, first, ran, done⟩ := (run_bind _ _ _ _ _).mp done
  obtain ⟨ty, contextual, done⟩ := (run_ask_bind _ _ _ _ _).mp done
  obtain ⟨room, second, allocated, done⟩ := (run_bind _ _ _ _ _).mp done
  obtain ⟨_, third, stored, done⟩ := (run_bind _ _ _ _ _).mp done
  obtain ⟨rfl, rfl⟩ := (run_pure _ _ _ _).mp done
  have alloc_builds := builds_of_lift allocated
  have store_builds := builds_of_lift stored
  rw [store_builds.report, alloc_builds.report] at accepted
  obtain ⟨tree, left, next, means, live, same, grows, word⟩ :=
    follows before store machine given _ live ran accepted
  obtain ⟨middle, roomy, further, cells, points, _⟩ := live.allocStack allocated
  have unbound (id : DeclId) (bound : Value) (found : second.locals.get? id = some bound) :
      middle.word? bound ≠ some (.address next.cells.length []) := by
    rw [alloc_builds.locals] at found
    exact live.unbound_of_extends further found
  have fresh : middle.cells[next.cells.length]? = some .undefined := by simp [cells]
  obtain ⟨later, live, last, holds⟩ :=
    roomy.store_unbound unbound points fresh (further.word? word) stored
  refine ⟨tree, left, later, next.cells.length, means, live, ?_, grows.trans (further.trans last),
    last.word? points, holds⟩
  rw [store_builds.locals, alloc_builds.locals, same]

/-- A member is read from where its base is, or from where the base was spilled to. -/
theorem memberWith_eval {base : Expr} {value : BodyM Value} {id : DeclId} {given : Value}
    (free : frame.program.isCallFree base = true) (member : frame.program.isStoredMember id = true)
    (follows : frame.Follows start base value)
    (live : frame.toJob.Live start before store machine)
    (done : (frame.memberWith base value id).run before = .ok (.ok given) after)
    (accepted : after.pass.report.containsError = false) :
    ∃ tree left later, base.eval store = some (tree, left) ∧
      frame.toJob.Live start after left later ∧ after.locals = before.locals ∧
      machine.Extends later ∧ later.word? given = some (.tree (tree.member id)) := by
  obtain ⟨own, declared, kept, _⟩ := Program.exists_of_isStoredMember member
  have plain := Program.isPlain_of_isCallFree free
  obtain ⟨decl, found, done⟩ := (attempt_check_bind _ _ _ _ _).mp done
  obtain rfl := Except.ok.inj (declared.symm.trans ((lift_answer _ _).mp found))
  simp only at done
  split at done
  next kind =>
    rw [kind] at kept
    cases kept
  next =>
    simp only [kept, Bool.not_true, Bool.false_eq_true, if_false,
      Ty.isExistential_of_isPlain plain] at done
    obtain ⟨record, between, ty, address, last, placed, built, loaded⟩ := run_readMember done
    have builds := (builds_of_lift built).trans (builds_of_lift loaded)
    rcases (attempt_recover _ _ _ _ _).mp placed with located | ⟨failure, middle, failed, spilled⟩
    · obtain ⟨var, path, next, leads, live, start_builds, grows, bound, cell, found, points, word, _⟩ :=
        (run_location.mp located).leads live free
      obtain ⟨root, known, stored⟩ := live.mirrors.exists_cell found points
      obtain ⟨later, live, further, result⟩ := read_member live word stored built loaded
      exact ⟨root.get path, store, later, Expr.eval_of_place leads known, live,
        (start_builds.trans builds).locals, grows.trans further, result⟩
    · obtain rfl := (run_location.mp failed).eq_of_error
      rw [builds.report] at accepted
      obtain ⟨tree, left, next, cell, means, live, same, grows, word, stored⟩ :=
        spill_eval follows live spilled accepted
      obtain ⟨later, live, further, result⟩ := read_member live word stored built loaded
      exact ⟨tree, left, later, means, live, builds.locals.trans same, grows.trans further, result⟩

/-- What is stored at a location changes the variable that it belongs to. -/
theorem assignWith_eval {value : BodyM Value} {var : DeclId} {path : List DeclId} {given : Unit}
    (free : frame.program.isCallFree expr = true) (follows : frame.Follows start expr value)
    (live : frame.toJob.Live start before store machine)
    (leads : machine.Leads before.locals location var path)
    (done : frame.assignWith expr value location before = .ok given after)
    (accepted : after.pass.report.containsError = false) :
    ∃ tree left old later, expr.eval store = some (tree, left) ∧ left var = some old ∧
      frame.toJob.Live start after (left.put var (Tree.set tree path old)) later ∧
      after.locals = before.locals ∧ machine.Extends later := by
  obtain ⟨bound, cell, found, points, word, concrete⟩ := leads
  have plain := Program.isPlain_of_isCallFree free
  unfold assignWith at done
  simp only [Machine.isError_of_word? word, Bool.false_eq_true, if_false] at done
  obtain ⟨ty, contextual, done⟩ := (run_ask_bind _ _ _ _ _).mp done
  obtain rfl := contextualize_of_isPlain plain contextual
  obtain ⟨copied, second, tried, done⟩ := (run_bind _ _ _ _ _).mp done
  have concrete_source := Ty.isExistential_of_isPlain plain
  obtain ⟨rfl, rfl⟩ : false = copied ∧ before = second := by
    unfold copyFrom? at tried
    simpa only [concrete_source, Bool.and_false, Bool.not_false, if_true, run_pure] using tried
  simp only [Bool.not_false, if_true] at done
  obtain ⟨source, third, ran, done⟩ := (run_bind _ _ _ _ _).mp done
  rw [Job.Live.assignValue_eq_store (Machine.isError_of_word? word) concrete] at done
  have builds := builds_of_lift done
  rw [builds.report] at accepted
  obtain ⟨tree, left, next, means, live, same, grows, holds⟩ :=
    follows before store machine source third live ran accepted
  rw [← same] at found
  obtain ⟨old, later, known, further, live⟩ :=
    live.store_bound found (grows.word? points) (grows.word? word) holds done
  exact ⟨tree, left, old, later, means, known, live, builds.locals.trans same, grows.trans further⟩

/-- Without an error an expression denotes a location. -/
theorem run_emitLocation (done : frame.emitLocation expr before = .ok location after)
    (accepted : after.pass.report.containsError = false) :
    (frame.location expr).run before = .ok (.ok location) after :=
  run_recover_report done accepted

/-- An attempt that does what the expression does still does so when failures are reported. -/
theorem follows_emitWith {lowered : Attempt Value} (plain : expr.ty.isPlain = true)
    (evaluates : ∀ before store machine value after,
      frame.toJob.Live start before store machine → lowered.run before = .ok (.ok value) after →
        after.pass.report.containsError = false →
          frame.Evaluates start expr before store machine value after) :
    frame.Follows start expr (emitWith expr lowered) := by
  intro before store machine value after live done accepted
  exact evaluates before store machine value after live (run_emitWith plain done accepted) accepted

theorem evaluates_literal {value given : Value} {tree : Tree}
    (live : frame.toJob.Live start before store machine)
    (means : expr.eval store = some (tree, store))
    (word : machine.word? value = some (.tree tree))
    (done : (pure value : Attempt Value).run before = .ok (.ok given) after) :
    frame.Evaluates start expr before store machine given after := by
  obtain ⟨rfl, rfl⟩ := (attempt_pure _ _ _ _).mp done
  exact ⟨tree, store, machine, means, live, rfl, .refl machine, word⟩

/-- The lowering of an expression does what the expression does. -/
theorem evaluates_value (expr : Expr) (free : frame.program.isCallFree expr = true)
    (occurs : frame.program.Occurs expr) (before : Activation) (store : Store) (machine : Machine)
    (value : Value) (after : Activation) (live : frame.toJob.Live start before store machine)
    (done : (frame.value expr).run before = .ok (.ok value) after)
    (accepted : after.pass.report.containsError = false) :
    frame.Evaluates start expr before store machine value after := by
  cases expr with
  | bool | int | float | string => exact evaluates_literal live rfl rfl done
  | ref note id =>
    simp only [Program.isCallFree, Bool.and_eq_true] at free
    obtain ⟨tree, later, known, live, same, grows, word⟩ := reference_eval live free.2 done
    exact ⟨tree, store, later, by simp [Expr.eval, known], live, same, grows, word⟩
  | member note base id =>
    simp only [Program.isCallFree, Bool.and_eq_true] at free
    have plain := Program.isPlain_of_isCallFree free.1.2
    have follows := follows_emitWith plain (evaluates_value base free.1.2 occurs.base)
    obtain ⟨tree, left, later, means, live, same, grows, word⟩ :=
      memberWith_eval free.1.2 free.2 follows live done accepted
    exact ⟨tree.member id, left, later, by simp [Expr.eval, means], live, same, grows, word⟩
  | assign note target source =>
    simp only [Program.isCallFree, Bool.and_eq_true] at free
    have plain := Program.isPlain_of_isCallFree free.2
    have follows := follows_emitWith plain (evaluates_value source free.2 occurs.source)
    obtain ⟨location, between, located, done⟩ := (attempt_lift_bind _ _ _ _ _).mp done
    obtain ⟨_, last, assigned, done⟩ := (attempt_lift_bind _ _ _ _ _).mp done
    obtain ⟨rfl, rfl⟩ := (attempt_pure _ _ _ _).mp done
    -- A target without a location was reported, and the assignment does not take that back.
    obtain ⟨ready, _, _⟩ := @Policy.Keeps.emitLocation _ (naming frame.toJob) target occurs.target
      before live.ready location between located
    obtain ⟨_, steady, _⟩ := Policy.Keeps.assignWith occurs.source
      (fun between => .emitWith occurs.source between (.value source occurs.source between)) between
      trivial ready _ last assigned
    have placed := run_emitLocation located (steady.grows.accepted accepted)
    obtain ⟨var, path, next, leads, live, builds, grows, reaches⟩ :=
      (run_location.mp placed).leads live free.1.2
    obtain ⟨tree, left, old, later, means, known, live, same, further⟩ :=
      assignWith_eval free.2 follows live reaches assigned accepted
    refine ⟨.unit, left.put var (Tree.set tree path old), later, ?_, live, same.trans builds.locals,
      grows.trans further, rfl⟩
    simp [Expr.eval, leads, means, known]
  | call | addressOf | error => cases free

end Frame

end Lowering
