import Lowering.Proofs.Pass.Progress
import Lowering.Proofs.Pass.Reference
import Lowering.Proofs.Program.Capturing
import Lowering.Proofs.Program.Enrolled

/-
This file shows that a closure can be built from the activation of the function around it. Only
what the function itself declares further down may be missing there.
-/

namespace Lowering

open IR

namespace Program

variable {program : Program}

/-- What is not there yet: a variable of the function, or a function that becomes a closure. -/
inductive Awaits (program : Program) (lowered : List DeclId) (target : DeclId) : Unlowerable → Prop
  | variable {decl : Decl} {hasStorage : Bool} (found : program.find? target = some decl)
    (kind : decl.kind = .variable hasStorage)
    (late : ∀ id ∈ lowered, ¬program.Supplies id target) :
    Awaits program lowered target (.unbound decl.name)
  | function {decl : Decl} {routine : Routine} {captures : List DeclId}
    (found : program.find? target = some decl) (holds : decl.routine? = some routine)
    (ordinary : routine.isBuiltin = false) (captured : program.captures target = .ok captures)
    (nonempty : captures ≠ []) (late : target ∉ lowered) :
    Awaits program lowered target
      (.unsupported s!"reference to local function '{decl.name}' before its declaration")

/-- A parameter that belongs to a function is one that the function lists. -/
theorem Enrolled.mem_params (enrolled : program.Enrolled) {id owner : DeclId} {decl holder : Decl}
    {routine : Routine} (found : program.find? id = some decl)
    (parameter : decl.isParameter = true)
    (owned : program.enclosingFunction id = .ok (some owner))
    (there : program.find? owner = some holder) (listed : holder.routine? = some routine) :
    id ∈ routine.params := by
  obtain ⟨parent, outer, own, inside, present, holds, enrolls⟩ := enrolled id decl found parameter
  have known := (enclosingFunction_of_parent found inside present).1 (by rw [holds]; rfl)
  obtain rfl := Option.some.inj (Except.ok.inj (known.symm.trans owned))
  obtain rfl := Option.some.inj (there.symm.trans present)
  obtain rfl := Option.some.inj (listed.symm.trans holds)
  exact enrolls

end Program

/-- What a body has bound so far: all that its function was given, and all that it has lowered. -/
structure Frame.Stocked (frame : Frame) (routine : Routine) (outer lowered : List DeclId)
    (locals : Locals) : Prop where
  given : ∀ target, routine.self = some target ∨ target ∈ outer ++ routine.params →
    locals.Has target
  supplied : ∀ id ∈ lowered, ∀ target, frame.program.Supplies id target → locals.Has target

theorem Frame.ComesTo.stocked {frame : Frame} {nested : DeclId → PassM Unit} {inner : DeclId}
    {routine : Routine} {name : String} {signature : Signature} {before entered : Pass}
    {locals : Locals} {outer lowered : List DeclId} {stmts : List Stmt} {reached : Activation}
    (around : frame.program.captures frame.owner = .ok outer)
    (enters : frame.toJob.enter frame.owner routine name signature before = .ok locals entered)
    (comes : frame.ComesTo nested inner stmts ⟨entered, locals⟩ lowered reached) :
    frame.Stocked routine outer lowered reached.locals where
  given _ given := comes.has (Job.enter_has around enters given)
  supplied _ inside _ supplies := comes.supplies inside supplies

section Missing

variable {frame : Frame} {locals : Locals} {capture inner : DeclId} {failure : Unlowerable}
  {decl : Decl} {routine : Routine} {outer lowered : List DeclId}

/-- What the function itself captures is there. -/
theorem Frame.Stocked.has_captured (stocked : frame.Stocked routine outer lowered locals)
    (around : frame.program.captures frame.owner = .ok outer) {captures : List DeclId}
    (own : capture = frame.owner) (captured : frame.program.captures capture = .ok captures)
    {other : DeclId} (inside : other ∈ captures) : locals.Has other := by
  rw [own, around] at captured
  obtain rfl := Except.ok.inj captured
  exact stocked.given other (Or.inr (List.mem_append_left _ inside))

/-- The function itself is never missing, since its captures are there. -/
theorem Frame.Misses.ne_owner (misses : frame.Misses locals capture failure)
    (housed : frame.program.HousesMembers)
    (found : frame.program.find? frame.owner = some decl) (listed : decl.routine? = some routine)
    (around : frame.program.captures frame.owner = .ok outer)
    (stocked : frame.Stocked routine outer lowered locals)
    (captured : frame.program.Captured inner capture) : capture ≠ frame.owner := by
  rintro rfl
  obtain ⟨_, _, _, _, _, owned, _, _⟩ := Program.captured_iff.mp captured
  cases misses with
  | unbound again plain =>
    obtain rfl := Option.some.inj (found.symm.trans again)
    cases kind : decl.kind <;>
      simp_all [Decl.routine?, DeclKind.routine?, Frame.isLocalKind]
  | method again holds member =>
    rw [housed.unowned again holds owned] at member
    cases member
  | early _ _ _ _ _ apart => exact apart rfl
  | incomplete own again inside unbound =>
    have has := stocked.has_captured around own again inside
    simp [Locals.Has, unbound] at has
  | valueless again routineless =>
    obtain rfl := Option.some.inj (found.symm.trans again)
    cases listed.symm.trans routineless

/-- A capture that is missing belongs to the function and has not been lowered. -/
theorem Frame.Misses.awaits (misses : frame.Misses locals capture failure)
    (missing : locals.get? capture = none) (housed : frame.program.HousesMembers)
    (enrolled : frame.program.Enrolled) (found : frame.program.find? frame.owner = some decl)
    (listed : decl.routine? = some routine)
    (around : frame.program.captures frame.owner = .ok outer)
    (stocked : frame.Stocked routine outer lowered locals)
    (captured : frame.program.Captured inner capture)
    (hand : capture = frame.owner ∨
      frame.program.enclosingFunction capture = .ok (some frame.owner) ∨ capture ∈ outer) :
    frame.program.enclosingFunction capture = .ok (some frame.owner) ∧
      routine.self ≠ some capture ∧ frame.program.Awaits lowered capture failure := by
  have absent : ¬locals.Has capture := by simp [Locals.Has, missing]
  obtain ⟨_, target, _, there, capturable, owned, _, _⟩ := Program.captured_iff.mp captured
  have belongs : frame.program.enclosingFunction capture = .ok (some frame.owner) := by
    rcases hand with same | belongs | inside
    · exact (misses.ne_owner housed found listed around stocked captured same).elim
    · exact belongs
    · exact (absent (stocked.given _ (Or.inr (List.mem_append_left _ inside)))).elim
  refine ⟨belongs, fun receives => absent (stocked.given _ (Or.inl receives)), ?_⟩
  cases misses with
  | @unbound own present plain =>
    cases kind : own.kind with
    | «variable» hasStorage =>
      exact .variable present kind fun id inside supplies =>
        absent (stocked.supplied id inside capture supplies)
    | parameter label =>
      have parameter : own.isParameter = true := by rw [Decl.isParameter, kind]
      have inside := enrolled.mem_params present parameter belongs found listed
      exact (absent (stocked.given _ (Or.inr (List.mem_append_right _ inside)))).elim
    | _ =>
      rw [kind] at plain
      cases plain
  | method again holds member =>
    rw [housed.unowned again holds owned] at member
    cases member
  | early present holds ordinary takes nonempty _ =>
    exact .function present holds ordinary takes nonempty fun inside =>
      absent (stocked.supplied capture inside capture (.function present holds ordinary takes
        nonempty))
  | incomplete own again inside unbound =>
    have has := stocked.has_captured around own again inside
    simp [Locals.Has, unbound] at has
  | @valueless own present routineless other =>
    obtain rfl := Option.some.inj (there.symm.trans present)
    cases kind : target.kind <;>
      simp_all [Program.isCapturable, Decl.routine?, DeclKind.routine?, Frame.isLocalKind]

end Missing

/--
A function that another declares captures the other, what belongs to the other, or what the other
captures. Where the other has come to it, its closure lacks no more than what belongs to the other
and has not been lowered.
-/
theorem closure_at_hand {program : Program} (assembled : program.Assembled)
    (founded : program.Founded) (housed : program.HousesMembers) (owning : program.OwnsLocals)
    {id inner : DeclId} {decl own : Decl} {routine held : Routine} {body : Body}
    (found : program.find? id = some decl) (listed : decl.routine? = some routine)
    (given : routine.body = some body) (inside : inner ∈ Stmt.localsAll body.stmts)
    (present : program.find? inner = some own) (holds : own.routine? = some held) :
    ∃ captures outer, program.captures inner = .ok captures ∧ program.captures id = .ok outer ∧
      (∀ capture ∈ captures, capture = id ∨
        program.enclosingFunction capture = .ok (some id) ∨ capture ∈ outer) ∧
      ∀ (options : Options) nested name signature before locals entered lowered reached after,
        Job.enter ⟨program, options⟩ id routine name signature before = .ok locals entered →
        Frame.ComesTo ⟨⟨program, options⟩, id⟩ nested inner body.stmts ⟨entered, locals⟩ lowered
          reached →
        Frame.emitLocalFunction ⟨⟨program, options⟩, id⟩ nested inner reached = .ok () after →
        ∃ between, nested inner reached.pass = .ok () between ∧ ∃ findings : List Finding,
          after.pass.report.diagnostics =
            between.report.diagnostics ++ findings.map Finding.diagnostic ∧
          ∀ finding ∈ findings, ∃ capture ∈ captures, ∃ failure,
            finding = .unlowered failure own.span ∧
            program.enclosingFunction capture = .ok (some id) ∧ routine.self ≠ some capture ∧
            program.Awaits lowered capture failure := by
  obtain ⟨captures, outer, captured, around, hand⟩ :=
    Program.captures_nested founded owning found listed given inside present holds
  refine ⟨captures, outer, captured, around, hand, ?_⟩
  intro options nested name signature before locals entered lowered reached after enters comes done
  obtain ⟨_, middle, lifted, done⟩ := (run_bind _ _ _ _ _).mp done
  obtain ⟨between, ran, rfl⟩ := (lift_pass _ _ _ _).mp lifted
  obtain ⟨findings, reported, lacks⟩ :=
    Frame.run_bindClosure_findings done captured present
  refine ⟨between, ran, findings, reported, fun finding listed_finding => ?_⟩
  obtain ⟨capture, taken, failure, same, missing, misses⟩ := lacks finding listed_finding
  obtain ⟨again, known, members⟩ := Program.captures_eq_ok founded owning present holds
  obtain rfl := Except.ok.inj (captured.symm.trans known)
  have stocked : Frame.Stocked ⟨⟨program, options⟩, id⟩ routine outer lowered reached.locals :=
    comes.stocked around enters
  exact ⟨capture, taken, failure, same, misses.awaits missing housed assembled.enrolled found listed
    around stocked ((members capture).mp taken).2 (hand capture taken)⟩

open Assembly in
/--
The function inside refers to all around it: to a parameter of the outermost function, to the
function that declares it, and to what that declares before and after it.
-/
def expecting : Assembly Unit := do
  let main ← addModule "main"
  let outer ← addFunction main "outer" [⟨none, "n", .int⟩] .unit
  let middle ← addFunction outer "middle" [⟨none, "p", .int⟩] .unit
  let (early, x) ← addLocalVar middle "x" .int none
  let inner ← addFunction middle "inner" [] .unit
  let (late, y) ← addLocalVar middle "y" .int none
  let last ← addFunction middle "last" [] .unit
  let names : List DeclId := [⟨outer.index + 1⟩, ⟨middle.index + 1⟩, x, y, middle, last]
  let mentioned ← names.mapM fun name => ask (·.refExpr name Span.unknown)
  setBody inner ⟨mentioned.map .expr, Span.unknown⟩
  let reference ← ask (·.refExpr x Span.unknown)
  setBody last ⟨[.expr reference], Span.unknown⟩
  setBody middle ⟨[.decl early, .block [.decl inner] Span.unknown, .decl late, .decl last],
    Span.unknown⟩
  setBody outer ⟨[.decl middle], Span.unknown⟩

open Assembly in
theorem expecting_assembled : expecting.built.Assembled := by
  refine Preserves.built ?_
  refine .bind (Offered.addModule _).assembles fun main => ?_
  refine .bind (Offered.addFunction _ _ _ _).assembles fun outer => ?_
  refine .bind (Offered.addFunction _ _ _ _).assembles fun middle => ?_
  refine .bind (Offered.addLocalVar _ _ _ _).assembles fun early => ?_
  refine .bind (Offered.addFunction _ _ _ _).assembles fun inner => ?_
  refine .bind (Offered.addLocalVar _ _ _ _).assembles fun late => ?_
  refine .bind (Offered.addFunction _ _ _ _).assembles fun last => ?_
  refine .bind (.mapM _ fun name => .ask _) fun mentioned => ?_
  refine .bind (Offered.setBody _ _).assembles fun _ => ?_
  refine .bind (.ask _) fun reference => ?_
  refine .bind (Offered.setBody _ _).assembles fun _ => ?_
  refine .bind (Offered.setBody _ _).assembles fun _ => ?_
  exact (Offered.setBody _ _).assembles

theorem closure_at_hand_expecting :
    expecting.built.Assembled ∧ expecting.built.Founded ∧ expecting.built.HousesMembers ∧
      expecting.built.OwnsLocals ∧
      (lower expecting.built ⟨0⟩ Options.standard).toOption.map
        (·.report.diagnostics.map Diagnostic.message) = some
          ["cannot lower expression: no value is bound to 'y'",
            "cannot lower expression: reference to local function 'last' before its declaration " ++
              "is not supported"] ∧
      expecting.built.captures ⟨7⟩ = .ok [⟨2⟩, ⟨4⟩, ⟨5⟩, ⟨8⟩, ⟨3⟩, ⟨10⟩] ∧
      expecting.built.captures ⟨3⟩ = .ok [⟨2⟩] ∧
      (∀ capture ∈ ([⟨2⟩, ⟨4⟩, ⟨5⟩, ⟨8⟩, ⟨3⟩, ⟨10⟩] : List DeclId), capture = ⟨3⟩ ∨
        expecting.built.enclosingFunction capture = .ok (some ⟨3⟩) ∨ capture ∈ [(⟨2⟩ : DeclId)]) ∧
      ∃ decl routine body own, expecting.built.find? ⟨3⟩ = some decl ∧
        decl.routine? = some routine ∧ routine.body = some body ∧
        expecting.built.find? ⟨7⟩ = some own ∧
        ∃ nested name signature before locals entered lowered reached after,
          Job.enter ⟨expecting.built, Options.standard⟩ ⟨3⟩ routine name signature before =
            .ok locals entered ∧
          Frame.ComesTo ⟨⟨expecting.built, Options.standard⟩, ⟨3⟩⟩ nested ⟨7⟩ body.stmts
            ⟨entered, locals⟩ lowered reached ∧
          Frame.emitLocalFunction ⟨⟨expecting.built, Options.standard⟩, ⟨3⟩⟩ nested ⟨7⟩ reached =
            .ok () after ∧
          ∃ between, nested ⟨7⟩ reached.pass = .ok () between ∧ ∃ findings : List Finding,
            after.pass.report.diagnostics =
              between.report.diagnostics ++ findings.map Finding.diagnostic ∧
            ∀ finding ∈ findings,
              ∃ capture ∈ ([⟨2⟩, ⟨4⟩, ⟨5⟩, ⟨8⟩, ⟨3⟩, ⟨10⟩] : List DeclId), ∃ failure,
              finding = .unlowered failure own.span ∧
              expecting.built.enclosingFunction capture = .ok (some ⟨3⟩) ∧
              routine.self ≠ some capture ∧ expecting.built.Awaits lowered capture failure := by
  have founded : expecting.built.Founded := by decide +kernel
  have housed : expecting.built.HousesMembers := by decide +kernel
  have owning : expecting.built.OwnsLocals := by decide +kernel
  have seen : ((expecting.built.find? ⟨3⟩).bind Decl.routine?).map (fun routine =>
      (routine.isBuiltin, routine.body.map fun body => decide (⟨7⟩ ∈ Stmt.declaredAll body.stmts ∧
        ⟨7⟩ ∈ Stmt.localsAll body.stmts))) = some (false, some true) := by
    decide +kernel
  have nested_seen : ((expecting.built.find? ⟨7⟩).bind Decl.routine?).map Routine.isBuiltin =
      some false := by
    decide +kernel
  have reports : (lower expecting.built ⟨0⟩ Options.standard).toOption.map
      (·.report.diagnostics.map Diagnostic.message) = some
        ["cannot lower expression: no value is bound to 'y'",
          "cannot lower expression: reference to local function 'last' before its declaration " ++
            "is not supported"] := by
    decide +kernel
  have taken : (expecting.built.captures ⟨7⟩).toOption =
      some [⟨2⟩, ⟨4⟩, ⟨5⟩, ⟨8⟩, ⟨3⟩, ⟨10⟩] := by
    decide +kernel
  have around : (expecting.built.captures ⟨3⟩).toOption = some [⟨2⟩] := by decide +kernel
  obtain ⟨routine, routed, seen⟩ := Option.map_eq_some_iff.mp seen
  obtain ⟨decl, found, listed⟩ := Option.bind_eq_some_iff.mp routed
  obtain ⟨ordinary, seen⟩ := Prod.mk.inj seen
  obtain ⟨body, given, inside⟩ := Option.map_eq_some_iff.mp seen
  obtain ⟨live, inside⟩ := of_decide_eq_true inside
  obtain ⟨held, routed, plain⟩ := Option.map_eq_some_iff.mp nested_seen
  obtain ⟨own, present, holds⟩ := Option.bind_eq_some_iff.mp routed
  obtain ⟨captures, outer, captured, encloses, hand, builds⟩ :=
    closure_at_hand expecting_assembled founded housed owning found listed given inside present
      holds
  rw [captured] at taken
  rw [encloses] at around
  obtain rfl := Option.some.inj taken
  obtain rfl := Option.some.inj around
  refine ⟨expecting_assembled, founded, housed, owning, reports, captured, encloses, hand, decl,
    routine, body, own, found, listed, given, present, ?_⟩
  let job : Job := ⟨expecting.built, Options.standard⟩
  have ran : ((job.emitRoutine job.emitDecl ⟨3⟩).run' (Pass.start Options.standard)).isSome =
      true := by
    decide +kernel
  cases done : job.emitRoutine job.emitDecl ⟨3⟩ (Pass.start Options.standard) with
  | error abort after =>
    unfold EStateM.run' at ran
    rw [EStateM.run, done] at ran
    cases ran
  | ok value after =>
    obtain ⟨name, signature, start, locals, entered, lowered, reached, next, enters, comes, ends⟩ :=
      Job.emitRoutine_comes found listed given ordinary live done
    have ends := Frame.run_emitLocalDecl_function present holds plain ends
    exact ⟨_, name, signature, start, locals, entered, lowered, reached, next, enters, comes, ends,
      builds _ _ _ _ _ _ _ _ _ _ enters comes ends⟩

end Lowering
