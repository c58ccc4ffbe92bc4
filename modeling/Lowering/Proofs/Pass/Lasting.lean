import Lowering.Proofs.Pass.Opening
import Lowering.Proofs.Typing.Entry
import Lowering.Proofs.Typing.Statement

/-
This file says what it takes for an invariant to outlast a whole lowering. Between the steps inside
blocks, functions get the blocks for their bodies, types get their witness tables, and the insertion
point moves.
-/

namespace Lowering

open IR

instance (job : Job) (name : String) (binding : Binding) :
    Blameless (job.checkProperty name binding) := by
  unfold Job.checkProperty
  have stored (var : DeclId) : Blameless (do
      let decl ← job.program.decl var
      if !decl.kind.isStored then abort (.computedProperty decl.name)) := by
    refine Blameless.bind fun decl => ?_
    split
    · exact .abort
    · exact inferInstanceAs (Blameless (pure ()))
  have fields : Blameless (do
      binding.pattern.names.forM fun var => do
        let decl ← job.program.decl var
        if !decl.kind.isStored then abort (.computedProperty decl.name)
      if binding.initializer.isSome then abort (.initializedMember name)) := by
    refine @Blameless.bind _ _ _ _ (.forM stored _) fun _ => ?_
    split
    · exact .abort
    · exact inferInstanceAs (Blameless (pure ()))
  cases binding.isMember with
  | true => exact fields
  | false => exact @Blameless.bind _ _ _ _ .abort fun _ => fields

/-- An invariant that outlasts what goes on between blocks as well. -/
structure Lasting (job : Job) extends Invariant job where
  cursor : ∀ {pass : Pass} (cursor : Option Cursor), Holds pass → Holds (pass.withCursor cursor)
  body : ∀ {id : DeclId} {decl : Decl} {routine : Routine} {name : String} {function : Function}
    {pass : Pass} {label : LabelId} {args : List Value} {builder : Builder},
    job.program.decl id = .ok decl → decl.routine? = some routine → routine.isFilled = true →
    pass.names.assigned.get? id = some name →
    pass.builder.module.function? name = some function → function.isDeclaration = true →
    BuildM.createBlock name function.signature.params pass.builder = .ok (label, args) builder →
    Holds pass → Holds { pass with builder := builder }
  conformance : ∀ {id : DeclId} {decl : Decl} {members : List DeclId}
    {conformances : List Conformance} {env : GenericEnv} {conformance : Conformance} {ty : Ty},
    job.program.decl id = .ok decl → decl.kind = .product members conformances env →
    job.program.declaredType id = .ok ty → conformance ∈ conformances →
    Sustains toContract (job.emitConformance ty conformance) fun _ => True
  /-- What is known of the locals of a function while its body is lowered. -/
  Bound : DeclId → Locals → Prop := fun _ _ => True
  starts : ∀ {id : DeclId} {decl : Decl} {routine : Routine} {name : String}
    {signature : Signature} {before after : Pass} {locals : Locals},
    job.program.find? id = some decl → decl.routine? = some routine → routine.isBuiltin = false →
    job.signature id = .ok signature →
    job.enter id routine name signature before = .ok locals after → Bound id locals := by
      intros; trivial
  footing : ∀ id, @Invariant.Footing ⟨job, id⟩ toInvariant (Bound id)
    (job.program.DeclaredIn id) := by
      intro id; exact .of_free (fun _ _ _ => trivial) fun _ _ => trivial
  cursorStops : ∀ {abort : Abort} {pass : Pass} (cursor : Option Cursor), Stops abort pass →
    Stops abort (pass.withCursor cursor) := by intros; trivial
  blockStops : ∀ {name : String} {params : List OperandType} {pass : Pass} {error : BuildError}
    {builder : Builder}, BuildM.createBlock name params pass.builder = .error error builder →
    Holds pass → Stops (.violation (.misuse error)) { pass with builder := builder } := by
      intros; trivial

/-- An invariant that blocks and insertion points do not disturb outlasts a conformance. -/
theorem Invariant.keeps_conformance {job : Job} (kept : Invariant job)
    (cursor : ∀ {pass : Pass} (cursor : Option Cursor), kept.Holds pass →
      kept.Holds (pass.withCursor cursor))
    (cursorStops : ∀ {abort : Abort} {pass : Pass} (cursor : Option Cursor),
      kept.Stops abort pass → kept.Stops abort (pass.withCursor cursor))
    (block : ∀ name params, kept.Keeps (liftM (BuildM.createBlock name params)) fun _ => True)
    (tables : ∀ pass table, kept.Holds pass → kept.Holds
      { pass with builder := pass.builder.modifyModule (Module.addWitnessTable · table) })
    {id : DeclId} {decl : Decl} {members : List DeclId} {conformances : List Conformance}
    {env : GenericEnv} {conformance : Conformance} (found : job.program.decl id = .ok decl)
    (kind : decl.kind = .product members conformances env) (stated : conformance ∈ conformances)
    (ty : Ty) : kept.Keeps (job.emitConformance ty conformance) fun _ => True := by
  refine kept.keeps_emitConformance (fun entry inside => ?_) tables ty
  have listed := Program.mem_pairings (Program.decl_eq_ok.mp found)
    (by simpa [Program.conformances, kind] using stated) inside
  refine kept.keeps_emitWitness listed fun name signature requirement implementation => ?_
  refine .of_ends fun before holds => .restoring cursor cursorStops (Sustains.ends ?_ holds)
  refine .bind (block name signature.params) fun entry _ => ?_
  refine .bind (kept.keeps_positionAtEnd cursor name entry.1) fun _ _ => ?_
  exact kept.keeps_forward name signature requirement implementation _ entry.2

namespace Lasting

variable {job : Job} (kept : Lasting job)

section Nested

variable {nested : DeclId → PassM Unit} (below : ∀ id, kept.Keeps (nested id) fun _ => True)

include below

omit below in
/-- In its first block, the arguments of a function are bound. -/
theorem keeps_bound (id : DeclId) (routine : Routine) (name : String) (label : LabelId)
    (args : List Value) : kept.Keeps (do
      BuildM.positionAtEnd name label
      job.bindEntry id routine name args) fun _ => True :=
  .bind (kept.keeps_positionAtEnd kept.cursor name label) fun _ _ =>
    kept.keeps_bindEntry id routine name args

omit below in
/-- A function that is only declared gets a block, and its arguments are bound there. -/
theorem ends_enter (id : DeclId) (routine : Routine) {name : String} {signature : Signature}
    {before : Pass} (holds : kept.Holds before)
    (opens : ∀ {label args builder},
      BuildM.createBlock name signature.params before.builder = .ok (label, args) builder →
      kept.Holds { before with builder := builder }) :
    kept.Ends (fun _ => True) (job.enter id routine name signature before) := by
  refine .bind (fun entry after lifted => ?_) fun abort after stops => ?_
  · obtain ⟨label, args⟩ := entry
    obtain ⟨builder, created, rfl⟩ := (lift_build _ _ _ _).mp lifted
    exact (kept.keeps_bound id routine name label args).ends (opens created)
  · obtain ⟨error, builder, refused, rfl, rfl⟩ := (lift_build_error _ _ _ _).mp stops
    exact kept.blockStops refused holds

/-- The body of a function is lowered once its arguments are bound. -/
theorem ends_fill {id : DeclId} {decl : Decl} {routine : Routine} {name : String}
    {signature : Signature} {before : Pass} (found : job.program.find? id = some decl)
    (listed : decl.routine? = some routine) (ordinary : routine.isBuiltin = false)
    (signed : job.signature id = .ok signature) (holds : kept.Holds before)
    (opens : ∀ {label args builder},
      BuildM.createBlock name signature.params before.builder = .ok (label, args) builder →
      kept.Holds { before with builder := builder }) :
    kept.Ends (fun _ => True) (job.fill nested id routine name signature before) := by
  have entering := kept.ends_enter id routine holds opens
  rw [Job.fill_eq_enter]
  refine .bind (fun locals entered enters => ?_) fun abort after stops => ?_
  · rw [enters] at entering
    let inside : Invariant (Frame.mk job id).toJob := kept.toInvariant
    have body : inside.Continues (kept.Bound id) (Frame.emitBody ⟨job, id⟩ nested routine) :=
      inside.continues_emitBody (kept.footing id) below routine fun body given place declared =>
        ⟨decl, routine, body, found, listed, given, declared⟩
    exact (body.activate (kept.starts found listed ordinary signed enters)).ends entering.1
  · rwa [stops] at entering

theorem keeps_emitRoutine (id : DeclId) :
    kept.Keeps (job.emitRoutine nested id) fun _ => True := by
  refine .ask_bind fun decl found => ?_
  cases listed : decl.routine? with
  | none => exact .abort _ _
  | some routine =>
    dsimp only
    split
    · exact .pure trivial
    next ordinary =>
    refine .of_ends fun before holds => .bind (fun _ middle discarded => ?_) fun abort after =>
      (Sustains.discard (kept.keeps_declare id)).error before abort after holds
    obtain ⟨reference, declares, _⟩ := (run_map _ _ _ _ _).mp discarded
    have holds := ((kept.keeps_declare id).ok before reference middle holds declares).1
    obtain ⟨name, _, function, assigned, signed, _, present, rfl⟩ := Job.run_declare declares
    refine .bind (fun known after lifted => ?_) fun abort after =>
      (kept.keeps_functionName id).error middle abort after holds
    obtain ⟨names, named, rfl⟩ := (lift_names _ _ _ _).mp lifted
    rw [NamesM.functionName_of_assigned assigned] at named
    obtain ⟨rfl, rfl⟩ := EStateM.Result.ok.inj named
    split
    next => exact Sustains.ends (.pure trivial) holds
    next given =>
      refine .bind (fun seen after read => ?_) fun abort after stops => nomatch stops
      obtain ⟨rfl, rfl⟩ := (run_get _ _ _).mp read
      simp only [present]
      split
      next => exact Sustains.ends (.abort_bind _ _ _) holds
      next empty =>
        refine .restoring kept.cursor kept.cursorStops ?_
        refine kept.ends_fill below (Program.decl_eq_ok.mp found) listed (by simpa using ordinary)
          signed holds fun created => ?_
        have filled : routine.isFilled = true := by
          cases body : routine.body <;> simp_all [Routine.isFilled]
        exact kept.body found listed filled assigned present (by simpa using empty) created holds

theorem keeps_emitMember (id : DeclId) : kept.Keeps (job.emitMember nested id) fun _ => True := by
  refine .ask_bind fun decl _ => ?_
  split
  · exact (Sustains.check _).mono fun _ _ => trivial
  · exact below id

theorem keeps_emitLevel (id : DeclId) : kept.Keeps (job.emitLevel nested id) fun _ => True := by
  refine .ask_bind fun decl found => ?_
  split
  · exact .forM _ fun member _ => below member
  · exact .abort _ _
  · exact .abort _ _
  · exact kept.keeps_emitRoutine below id
  next members conformances env kind =>
    refine .ask_bind fun ty typed => ?_
    refine .bind (.forM _ fun _ stated => kept.conformance found kind typed stated) fun _ _ => ?_
    exact .forM _ fun member _ => kept.keeps_emitMember below member
  · exact .forM _ fun member _ => kept.keeps_emitMember below member
  · exact .pure trivial
  · exact .pure trivial
  · split
    · exact .abort _ _
    · exact .pure trivial
  all_goals exact .abort _ _

end Nested

theorem keeps_emitWithin (levels : Nat) (id : DeclId) :
    kept.Keeps (job.emitWithin levels id) fun _ => True := by
  induction levels generalizing id with
  | zero => exact .throw rfl
  | succ levels levels_ih => exact kept.keeps_emitLevel levels_ih id

/-- What lasts still holds when the module is lowered. -/
theorem keeps_emitModule (id : DeclId) : kept.Keeps (job.emitModule id) fun _ => True := by
  refine .ask_bind fun decl _ => ?_
  split
  · exact .forM _ fun member _ => kept.keeps_emitWithin job.nestingLimit member
  · exact .abort _ _

end Lasting

end Lowering
