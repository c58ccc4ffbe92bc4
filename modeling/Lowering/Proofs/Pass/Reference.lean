import Lowering.Pass.Statement
import Lowering.Proofs.IR.Steps
import Lowering.Proofs.Program.Occurrence
import Lowering.Proofs.Run
import Mathlib.Data.List.Forall2

/-
This file says why a reference to a declaration fails, and what a closure reports when it is built:
one finding for each capture without a value, and nothing else.
-/

namespace Lowering

open IR

namespace Frame

variable {frame : Frame} {id : DeclId} {before after : Activation}

/-- Why a reference to a declaration that nothing is bound to fails. -/
inductive Misses (frame : Frame) (locals : Locals) (id : DeclId) : Unlowerable → Prop
  | unbound {decl : Decl} (found : frame.program.find? id = some decl)
    (plain : isLocalKind decl.kind = true) : Misses frame locals id (.unbound decl.name)
  | method {decl : Decl} {routine : Routine} (found : frame.program.find? id = some decl)
    (holds : decl.routine? = some routine) (member : routine.isMember = true) :
    Misses frame locals id
      (.unsupported s!"reference to method '{decl.name}' without a receiver")
  /-- The closure of a function is there once the function is declared. -/
  | early {decl : Decl} {routine : Routine} {captures : List DeclId}
    (found : frame.program.find? id = some decl) (holds : decl.routine? = some routine)
    (ordinary : routine.isBuiltin = false) (captured : frame.program.captures id = .ok captures)
    (nonempty : captures ≠ []) (apart : id ≠ frame.owner) :
    Misses frame locals id
      (.unsupported s!"reference to local function '{decl.name}' before its declaration")
  /-- A function that refers to itself needs its own captures. -/
  | incomplete {captures : List DeclId} {capture : DeclId} {decl : Decl} (own : id = frame.owner)
    (captured : frame.program.captures id = .ok captures) (listed : capture ∈ captures)
    (missing : locals.get? capture = none) (found : frame.program.find? capture = some decl) :
    Misses frame locals id (.unbound decl.name)
  | valueless {decl : Decl} (found : frame.program.find? id = some decl)
    (routineless : decl.routine? = none) (other : isLocalKind decl.kind = false) :
    Misses frame locals id
      (.unsupported s!"reference to {decl.kindText} '{decl.name}' as a value")

theorem run_local?_bind {A : Type} {next : Option Value → Attempt A}
    {result : Except Unlowerable A} :
    (liftM (BodyM.local? id) >>= next : Attempt A).run before = .ok result after ↔
      (next (before.locals.get? id)).run before = .ok result after := by
  refine (attempt_lift_bind _ _ _ _ _).trans ?_
  constructor
  · rintro ⟨_, _, looked, done⟩
    obtain ⟨rfl, rfl⟩ := run_local? looked
    exact done
  · exact fun done => ⟨_, before, rfl, done⟩

/-- Nothing follows a failure. -/
theorem run_fail_bind {A B : Type} {failure : Unlowerable} {next : A → Attempt B}
    {result : Except Unlowerable B}
    (done : (fail failure >>= next).run before = .ok result after) :
    .error failure = result ∧ before = after :=
  (attempt_throw failure result before after).mp done

/-- The values of the captures are looked up, and the first that is missing is reported. -/
theorem run_captureValues (captures : List DeclId) {result : Except Unlowerable (List Value)}
    (done : (frame.captureValues captures).run before = .ok result after) :
    after = before ∧ ∀ failure, result = .error failure →
      ∃ capture ∈ captures, ∃ decl, before.locals.get? capture = none ∧
        frame.program.find? capture = some decl ∧ failure = .unbound decl.name := by
  induction captures generalizing result with
  | nil =>
    obtain ⟨rfl, rfl⟩ := (run_pure _ _ _ _).mp done
    exact ⟨rfl, nofun⟩
  | cons capture rest rest_ih =>
    have done := run_local?_bind.mp done
    cases bound : before.locals.get? capture with
    | none =>
      rw [bound] at done
      obtain ⟨decl, found, done⟩ := (attempt_check_bind _ _ _ _ _).mp done
      obtain ⟨rfl, rfl⟩ := (attempt_throw _ _ _ _).mp done
      refine ⟨rfl, fun failure same => ⟨capture, List.mem_cons_self .., decl, bound, ?_, ?_⟩⟩
      · exact Program.decl_eq_ok.mp ((lift_answer _ _).mp found)
      · exact (Except.error.inj same).symm
    | some value =>
      rw [bound] at done
      cases result with
      | ok values =>
        obtain ⟨others, between, ran, done⟩ := (attempt_bind _ _ _ _ _).mp done
        obtain ⟨_, rfl⟩ := (attempt_pure _ _ _ _).mp done
        exact ⟨(rest_ih ran).1, nofun⟩
      | error failure =>
        rcases (attempt_bind_error _ _ _ _ _).mp done with ran | ⟨_, _, _, done⟩
        · obtain ⟨rfl, missing⟩ := rest_ih ran
          refine ⟨rfl, fun own same => ?_⟩
          obtain ⟨other, listed, missing⟩ := missing own same
          exact ⟨other, List.mem_cons_of_mem _ listed, missing⟩
        · obtain ⟨impossible, _⟩ := (run_pure _ _ _ _).mp done
          cases impossible

/-- What a reference to a declaration yields. -/
inductive Denotes (frame : Frame) (locals : Locals) (id : DeclId) (value : Value) : Prop
  | loaded {location : Value} (bound : locals.get? id = some location)
    (place : (location.isAddress && !location.isError) = true)
    (typed : value.type = .object location.type.ty)
  | bound (bound : locals.get? id = some value)
    (object : (value.isAddress && !value.isError) = false)
  | builtin {decl : Decl} {routine : Routine} (found : frame.program.find? id = some decl)
    (holds : decl.routine? = some routine) (provided : routine.isBuiltin = true)
  /-- A function without captures is itself a value. -/
  | function {decl : Decl} {routine : Routine} {signature : Signature}
    (found : frame.program.find? id = some decl) (holds : decl.routine? = some routine)
    (free : routine.isMember = false) (none : frame.program.captures id = .ok [])
    (signed : frame.signature id = .ok signature) (typed : value.type = .object signature.funType)
  /-- A function that refers to itself is closed over its own captures. -/
  | closure {decl : Decl} {routine : Routine} {ty : Ty}
    (found : frame.program.find? id = some decl) (holds : decl.routine? = some routine)
    (own : id = frame.owner) (seen : frame.contextualize decl.ty = .ok ty)
    (typed : value.type = .object ty)

/-- A step of a body that reports nothing and binds nothing. -/
structure Silent (before after : Activation) : Prop where
  locals : after.locals = before.locals
  report : after.pass.report = before.pass.report

namespace Silent

theorem refl (activation : Activation) : Silent activation activation := ⟨rfl, rfl⟩

theorem trans {middle : Activation} (first : Silent before middle) (second : Silent middle after) :
    Silent before after :=
  ⟨second.locals.trans first.locals, second.report.trans first.report⟩

theorem build {A : Type} {step : BuildM A} {value : A}
    (done : (liftM step : BodyM A) before = .ok value after) : Silent before after := by
  obtain ⟨pass, ran, rfl⟩ := (lift_pass (liftM step) _ _ _).mp done
  obtain ⟨builder, _, rfl⟩ := (lift_build _ _ _ _).mp ran
  exact ⟨rfl, rfl⟩

theorem declare {value : Value}
    (done : (liftM (frame.declare id) : BodyM Value) before = .ok value after) :
    Silent before after ∧
      ∃ signature, frame.signature id = .ok signature ∧ value.type = .object signature.funType := by
  obtain ⟨pass, ran, rfl⟩ := (lift_pass _ _ _ _).mp done
  obtain ⟨name, between, named, ran⟩ := (run_bind _ _ _ _ _).mp ran
  obtain ⟨names, _, rfl⟩ := (lift_names _ _ _ _).mp named
  obtain ⟨signature, signed, ran⟩ := (run_check_bind _ _ _ _ _).mp ran
  obtain ⟨builder, created, rfl⟩ := (lift_build _ _ _ _).mp ran
  obtain ⟨rfl, _⟩ := BuildM.run_getOrCreateFunction created
  exact ⟨⟨rfl, rfl⟩, signature, signed, rfl⟩

end Silent

/-- A building step that defines a value is silent. -/
theorem run_defined {type : OperandType} {step : BuildM Value} {result : Except Unlowerable Value}
    (defines : ∀ {before value after}, step before = .ok value after → value.type = type)
    (done : (liftM step : Attempt Value).run before = .ok result after) :
    ∃ value, result = .ok value ∧ Silent before after ∧ value.type = type := by
  obtain ⟨value, ran, rfl⟩ := (lift_attempt_build _ _ _ _).mp done
  obtain ⟨pass, lifted, rfl⟩ := (lift_pass (liftM step) _ _ _).mp ran
  obtain ⟨builder, built, rfl⟩ := (lift_build _ _ _ _).mp lifted
  exact ⟨value, rfl, ⟨rfl, rfl⟩, defines built⟩

/-- What a reference comes to. One that fails has done nothing, and one that has a value reports
nothing. -/
def Resolves (frame : Frame) (id : DeclId) (before after : Activation) :
    Except Unlowerable Value → Prop
  | .error failure => after = before ∧ before.locals.get? id = none ∧
    frame.Misses before.locals id failure
  | .ok value => Silent before after ∧ frame.Denotes before.locals id value

/-- A reference of a function to itself is closed over what is bound to its captures. -/
theorem run_closure {decl : Decl} {routine : Routine} {captures : List DeclId}
    {result : Except Unlowerable Value} (unbound : before.locals.get? id = none)
    (found : frame.program.find? id = some decl) (holds : decl.routine? = some routine)
    (own : id = frame.owner) (captured : frame.program.captures id = .ok captures)
    (done : (frame.ownClosure id captures decl.ty).run before = .ok result after) :
    frame.Resolves id before after result := by
  cases result with
  | error failure =>
    rcases (attempt_bind_error _ _ _ _ _).mp done with failed | ⟨args, between, ran, done⟩
    · obtain ⟨rfl, fails⟩ := run_captureValues captures failed
      obtain ⟨capture, listed, other, missing, present, rfl⟩ := fails failure rfl
      exact ⟨rfl, unbound, .incomplete own captured listed missing present⟩
    · obtain ⟨function, _, _, done⟩ := (attempt_lift_bind _ _ _ _ _).mp done
      obtain ⟨ty, _, done⟩ := (attempt_check_bind _ _ _ _ _).mp done
      obtain ⟨_, _, impossible⟩ := (lift_attempt_build _ _ _ _).mp done
      cases impossible
  | ok value =>
    obtain ⟨args, between, ran, rest⟩ := (attempt_bind _ _ _ _ _).mp done
    obtain ⟨rfl, _⟩ := run_captureValues captures ran
    obtain ⟨function, middle, declared, done⟩ := (attempt_lift_bind _ _ _ _ _).mp rest
    obtain ⟨ty, seen, done⟩ := (attempt_check_bind _ _ _ _ _).mp done
    obtain ⟨_, same, silent, typed⟩ := run_defined (fun built => by
      obtain ⟨_, _, _, rfl, _⟩ := BuildM.run_define built
      rfl) done
    obtain rfl := Except.ok.inj same
    exact ⟨(Silent.declare declared).1.trans silent, .closure found holds own seen typed⟩

theorem run_reference {result : Except Unlowerable Value}
    (done : (frame.reference id).run before = .ok result after) :
    frame.Resolves id before after result := by
  have done := run_local?_bind.mp done
  cases bound : before.locals.get? id with
  | some location =>
    rw [bound] at done
    dsimp only at done
    split at done
    next place =>
      obtain ⟨value, rfl, silent, typed⟩ := run_defined (fun built => by
        obtain ⟨_, _, _, rfl, _⟩ := BuildM.run_define (BuildM.run_requireAddress_bind built)
        rfl) done
      exact ⟨silent, .loaded bound place typed⟩
    next object =>
      obtain ⟨rfl, rfl⟩ := (run_pure _ _ _ _).mp done
      exact ⟨.refl _, .bound bound (by simpa using object)⟩
  | none =>
    rw [bound] at done
    obtain ⟨decl, found, done⟩ := (attempt_check_bind _ _ _ _ _).mp done
    have found := Program.decl_eq_ok.mp ((lift_answer _ _).mp found)
    cases kind : decl.kind with
    | function routine =>
      have holds : decl.routine? = some routine := by rw [Decl.routine?, kind]; rfl
      simp only [kind] at done
      split at done
      next provided =>
        obtain ⟨rfl, rfl⟩ := (run_pure _ _ _ _).mp done
        exact ⟨.refl _, .builtin found holds provided⟩
      next ordinary =>
      split at done
      next member =>
        obtain ⟨rfl, rfl⟩ := run_fail_bind done
        exact ⟨rfl, bound, .method found holds member⟩
      next free =>
      obtain ⟨captures, captured, done⟩ := (attempt_check_bind _ _ _ _ _).mp done
      have captured := (lift_answer _ _).mp captured
      split at done
      next none =>
        obtain ⟨value, ran, rfl⟩ := (lift_attempt (liftM (frame.declare id)) _ _ _).mp done
        obtain ⟨silent, signature, signed, typed⟩ := Silent.declare ran
        rw [List.isEmpty_iff.mp none] at captured
        exact ⟨silent, .function found holds (by simpa using free) captured signed typed⟩
      next some_ =>
      split at done
      next apart =>
        obtain ⟨rfl, rfl⟩ := run_fail_bind done
        exact ⟨rfl, bound, .early found holds (by simpa using ordinary) captured
          (by simpa using some_) apart⟩
      next own => exact run_closure bound found holds (by simpa using own) captured done
    | «variable» | parameter =>
      simp only [kind] at done
      obtain ⟨rfl, rfl⟩ := (attempt_throw _ _ _ _).mp done
      exact ⟨rfl, bound, .unbound found (by rw [kind]; rfl)⟩
    | _ =>
      simp only [kind] at done
      obtain ⟨rfl, rfl⟩ := (attempt_throw _ _ _ _).mp done
      exact ⟨rfl, bound, .valueless found (by rw [Decl.routine?, kind]; rfl) (by rw [kind]; rfl)⟩

/-- A reference that fails is reported once. -/
theorem run_emitReference {span : Span} {value : Value}
    (done : frame.emitReference id span before = .ok value after) :
    (Silent before after ∧ frame.Denotes before.locals id value) ∨
      ∃ failure, before.locals.get? id = none ∧
      frame.Misses before.locals id failure ∧ after.locals = before.locals ∧
      after.pass.report = before.pass.report.add (Finding.unlowered failure span).diagnostic := by
  rcases (attempt_recover _ _ _ _ _).mp done with ran | ⟨failure, between, failed, rest⟩
  · exact Or.inl (run_reference ran)
  · obtain ⟨rfl, missing, misses⟩ := run_reference failed
    obtain ⟨_, middle, reported, rest⟩ := (run_bind _ _ _ _ _).mp rest
    obtain ⟨pass, added, rfl⟩ := (lift_pass (PassM.report _) _ _ _).mp reported
    obtain rfl := (run_modify _ _ _ _).mp added
    obtain ⟨decl, _, rest⟩ := (run_ask_bind _ _ _ _ _).mp rest
    obtain ⟨_, rfl⟩ := (run_pure _ _ _ _).mp rest
    exact Or.inr ⟨failure, missing, misses, rfl, rfl⟩

/-- The finding is that a declaration of the list has no value. -/
def Lacks (frame : Frame) (locals : Locals) (ids : List DeclId) (span : Span) (finding : Finding) :
    Prop :=
  ∃ id ∈ ids, ∃ failure, finding = .unlowered failure span ∧ locals.get? id = none ∧
    frame.Misses locals id failure

theorem Lacks.cons {locals : Locals} {ids : List DeclId} {span : Span} {finding : Finding}
    (first : DeclId) (lacks : frame.Lacks locals ids span finding) :
    frame.Lacks locals (first :: ids) span finding := by
  obtain ⟨id, listed, missing⟩ := lacks
  exact ⟨id, List.mem_cons_of_mem _ listed, missing⟩

/-- The captures without a value are reported, and where there are none, all values are at hand. -/
theorem run_emitReferences (captures : List DeclId) {span : Span} {values : List Value}
    (done : captures.mapM (fun capture => frame.emitReference capture span) before =
      .ok values after) :
    after.locals = before.locals ∧ ∃ findings : List Finding,
      after.pass.report.diagnostics =
        before.pass.report.diagnostics ++ findings.map Finding.diagnostic ∧
      (∀ finding ∈ findings, frame.Lacks before.locals captures span finding) ∧
      (findings = [] → List.Forall₂ (frame.Denotes before.locals) captures values) := by
  induction captures generalizing before values with
  | nil =>
    obtain ⟨rfl, rfl⟩ := (run_pure _ _ _ _).mp done
    exact ⟨rfl, [], (List.append_nil _).symm, nofun, fun _ => .nil⟩
  | cons capture rest rest_ih =>
    obtain ⟨value, between, others, ran, mapped, rfl⟩ := (run_mapM_cons _ _ _ _ _ _).mp done
    obtain ⟨same, findings, reported, lacks, denote⟩ := rest_ih mapped
    rcases run_emitReference ran with
      ⟨silent, denotes⟩ | ⟨failure, missing, misses, kept, added⟩
    · rw [silent.locals] at same lacks denote
      rw [silent.report] at reported
      exact ⟨same, findings, reported, fun finding inside => (lacks finding inside).cons capture,
        fun none => .cons denotes (denote none)⟩
    · rw [kept] at same lacks
      refine ⟨same, .unlowered failure span :: findings, ?_, ?_, nofun⟩
      · rw [reported, added]
        exact List.append_assoc ..
      · rintro finding (_ | ⟨_, inside⟩)
        · exact ⟨capture, List.mem_cons_self .., failure, rfl, missing, misses⟩
        · exact (lacks finding inside).cons capture

/-- Without an error all values of the captures are at hand. -/
theorem denotes_of_emitReferences {captures : List DeclId} {span : Span} {values : List Value}
    (done : captures.mapM (fun capture => frame.emitReference capture span) before =
      .ok values after) :
    after.pass.report.containsError = true ∨
      List.Forall₂ (frame.Denotes before.locals) captures values := by
  obtain ⟨_, findings, reported, lacks, denote⟩ := run_emitReferences captures done
  cases findings with
  | nil => exact Or.inr (denote rfl)
  | cons finding rest =>
    refine Or.inl ?_
    obtain ⟨_, _, failure, rfl, _⟩ := lacks finding (List.mem_cons_self ..)
    rw [Report.containsError, reported, List.any_append, List.map_cons, List.any_cons]
    simp [Finding.diagnostic, Diagnostic.isError]

/-- Building a closure reports the captures without a value, and nothing else. -/
theorem run_bindClosure_findings {value : Unit}
    (done : frame.bindClosure id before = .ok value after) {captures : List DeclId} {decl : Decl}
    (captured : frame.program.captures id = .ok captures)
    (found : frame.program.find? id = some decl) : ∃ findings : List Finding,
      after.pass.report.diagnostics =
        before.pass.report.diagnostics ++ findings.map Finding.diagnostic ∧
      ∀ finding ∈ findings, frame.Lacks before.locals captures decl.span finding := by
  obtain ⟨again, given, done⟩ := (run_ask_bind _ _ _ _ _).mp done
  obtain rfl := Except.ok.inj (captured.symm.trans ((lift_answer _ _).mp given))
  split at done
  · obtain ⟨again, present, done⟩ := (run_ask_bind _ _ _ _ _).mp done
    obtain rfl := Option.some.inj
      (found.symm.trans (Program.decl_eq_ok.mp ((lift_answer _ _).mp present)))
    obtain ⟨args, first, mapped, done⟩ := (run_bind _ _ _ _ _).mp done
    obtain ⟨function, second, declared, done⟩ := (run_bind _ _ _ _ _).mp done
    obtain ⟨ty, _, done⟩ := (run_ask_bind _ _ _ _ _).mp done
    obtain ⟨location, third, allocated, done⟩ := (run_bind _ _ _ _ _).mp done
    obtain ⟨closure, fourth, applied, done⟩ := (run_bind _ _ _ _ _).mp done
    obtain ⟨_, last, stored, done⟩ := (run_bind _ _ _ _ _).mp done
    obtain rfl := (run_modify _ _ _ _).mp done
    have silent := (((Silent.declare declared).1.trans (.build allocated)).trans
      (.build applied)).trans (.build stored)
    obtain ⟨_, findings, reported, lacks, _⟩ := run_emitReferences captures mapped
    exact ⟨findings, by rw [← reported, ← silent.report], lacks⟩
  · obtain ⟨_, rfl⟩ := (run_pure _ _ _ _).mp done
    exact ⟨[], (List.append_nil _).symm, nofun⟩

end Frame

end Lowering
