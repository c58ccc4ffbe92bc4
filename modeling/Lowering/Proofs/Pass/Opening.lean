import Lowering.Proofs.Pass.Invariant

/-
This file takes apart the steps that give a function a block: a thunk for a requirement, and the
body of a function. It shows that an invariant that holds once the block is there outlasts the rest.
-/

namespace Lowering

open IR

/-- Whether there is anything to lower for the function. -/
def Routine.isFilled (routine : Routine) : Bool :=
  !routine.isBuiltin && (routine.body.isSome || routine.isSynthesized)

theorem Routine.ordinary_of_isFilled {routine : Routine} (filled : routine.isFilled = true) :
    routine.isBuiltin = false := by
  simp only [isFilled, Bool.and_eq_true, Bool.not_eq_true'] at filled
  exact filled.1

namespace Job

variable {job : Job} {before after : Pass} {name : String} {signature : Signature}

/-- The function of a declaration is there afterwards, under the name that it keeps. -/
theorem run_declare {id : DeclId} {value : Value} (done : job.declare id before = .ok value after) :
    job.Declared after id value := by
  obtain ⟨name, between, lifted, done⟩ := (run_bind _ _ _ _ _).mp done
  obtain ⟨names, named, rfl⟩ := (lift_names _ _ _ _).mp lifted
  obtain ⟨signature, signed, done⟩ := (run_check_bind _ _ _ _ _).mp done
  obtain ⟨builder, created, rfl⟩ := (lift_build _ _ _ _).mp done
  obtain ⟨function, found, typed⟩ := BuildM.function?_of_getOrCreate created
  exact ⟨name, signature, function, (NamesM.run_functionName named).2.1, signed,
    (BuildM.run_getOrCreateFunction created).1, found, typed⟩

/-- A block is added and written from its start. -/
theorem run_createBlock_bind {A : Type} {params : List OperandType}
    {rest : LabelId × List Value → PassM A} {value : A}
    (done : (liftM (BuildM.createBlock name params) >>= rest) before = .ok value after) :
    ∃ label args builder,
      BuildM.createBlock name params before.builder = .ok (label, args) builder ∧
      rest (label, args) { before with builder := builder } = .ok value after := by
  obtain ⟨⟨label, args⟩, between, ran, done⟩ := (run_bind _ _ _ _ _).mp done
  obtain ⟨builder, created, rfl⟩ := (lift_build _ _ _ _).mp ran
  exact ⟨label, args, builder, created, done⟩

theorem run_positionAtEnd_bind {A : Type} {function : String} {label : LabelId}
    {rest : Unit → PassM A} {value : A}
    (done : (liftM (BuildM.positionAtEnd function label) >>= rest) before = .ok value after) :
    rest () (before.withCursor (some ⟨function, label⟩)) = .ok value after := by
  obtain ⟨_, between, ran, done⟩ := (run_bind _ _ _ _ _).mp done
  obtain ⟨builder, moved, rfl⟩ := (lift_build _ _ _ _).mp ran
  obtain rfl := (BuildM.run_setCursor _ _ _ _).mp moved
  exact done

/-- A thunk is filled in a block of its own. -/
theorem run_fillThunk {requirement implementation : Routine} {id : DeclId}
    (done : job.fillThunk name signature requirement implementation id before = .ok () after) :
    ∃ label args builder,
      BuildM.createBlock name signature.params before.builder = .ok (label, args) builder ∧
      job.forward name signature requirement implementation id args
        ({ before with builder := builder }.withCursor (some ⟨name, label⟩)) = .ok () after := by
  obtain ⟨label, args, builder, created, done⟩ := run_createBlock_bind done
  exact ⟨label, args, builder, created, run_positionAtEnd_bind done⟩

/-- A thunk is named, declared with the signature of its requirement, and filled. -/
theorem run_emitWitness {implementation requirement : DeclId}
    (done : job.emitWitness implementation requirement before = .ok name after) :
    ∃ required implementing requiredRoutine routine unapplied names builder value last,
      job.program.decl requirement = .ok required ∧ required.routine? = some requiredRoutine ∧
      job.program.decl implementation = .ok implementing ∧
      implementing.routine? = some routine ∧
      NamesM.thunkName job.program implementation requirement before.names = .ok name names ∧
      job.program.unappliedType requirement = .ok unapplied ∧
      BuildM.getOrCreateFunction name (Signature.lower unapplied) before.builder =
        .ok value builder ∧
      job.fillThunk name (Signature.lower unapplied) requiredRoutine routine implementation
        { before with names := names, builder := builder } = .ok () last ∧
      after = last.withCursor builder.cursor := by
  unfold emitWitness at done
  obtain ⟨required, requires, done⟩ := (run_check_bind _ _ _ _ _).mp done
  cases listed : required.routine? with
  | none =>
    rw [listed] at done
    exact ((run_check_abort _ _ _ _).mp done).elim
  | some requiredRoutine =>
    rw [listed] at done
    obtain ⟨implementing, implements_, done⟩ := (run_check_bind _ _ _ _ _).mp done
    cases implementing_listed : implementing.routine? with
    | none =>
      rw [implementing_listed] at done
      exact ((run_check_abort _ _ _ _).mp done).elim
    | some routine =>
      rw [implementing_listed] at done
      obtain ⟨thunk, _, lifted, done⟩ := (run_bind _ _ _ _ _).mp done
      obtain ⟨names, named, rfl⟩ := (lift_names _ _ _ _).mp lifted
      obtain ⟨unapplied, typed, done⟩ := (run_check_bind _ _ _ _ _).mp done
      obtain ⟨_, _, discarded, done⟩ := (run_bind _ _ _ _ _).mp done
      obtain ⟨value, lifted, _⟩ := (run_map _ _ _ _ _).mp discarded
      obtain ⟨builder, declared, rfl⟩ := (lift_build _ _ _ _).mp lifted
      obtain ⟨_, _, filled, done⟩ := (run_bind _ _ _ _ _).mp done
      obtain ⟨rfl, rfl⟩ := (run_pure _ _ _ _).mp done
      obtain ⟨last, ran, rfl⟩ := (run_restoring _ _ _ _).mp filled
      exact ⟨required, implementing, requiredRoutine, routine, unapplied, names, builder, value,
        last, (lift_answer _ _).mp requires, listed, (lift_answer _ _).mp implements_,
        implementing_listed, named, (lift_answer _ _).mp typed, declared, ran, rfl⟩

/-- The other way round, a thunk is emitted once it is named, declared and filled. -/
theorem emitWitness_of_run {implementation requirement : DeclId} {required implementing : Decl}
    {requiredRoutine routine : Routine} {unapplied : FunType} {names : Names} {builder : Builder}
    {value : Value} {last : Pass} (requires : job.program.decl requirement = .ok required)
    (listed : required.routine? = some requiredRoutine)
    (implements_ : job.program.decl implementation = .ok implementing)
    (given : implementing.routine? = some routine)
    (named : NamesM.thunkName job.program implementation requirement before.names =
      .ok name names)
    (typed : job.program.unappliedType requirement = .ok unapplied)
    (declared : BuildM.getOrCreateFunction name (Signature.lower unapplied) before.builder =
      .ok value builder)
    (filled : job.fillThunk name (Signature.lower unapplied) requiredRoutine routine implementation
      { before with names := names, builder := builder } = .ok () last) :
    job.emitWitness implementation requirement before =
      .ok name (last.withCursor builder.cursor) := by
  refine (run_check_bind _ _ _ _ _).mpr ⟨required, (lift_answer _ _).mpr requires, ?_⟩
  rw [listed]
  refine (run_check_bind _ _ _ _ _).mpr ⟨implementing, (lift_answer _ _).mpr implements_, ?_⟩
  rw [given]
  refine (run_bind _ _ _ _ _).mpr ⟨name, _, (lift_names _ _ _ _).mpr ⟨names, named, rfl⟩, ?_⟩
  refine (run_check_bind _ _ _ _ _).mpr ⟨unapplied, (lift_answer _ _).mpr typed, ?_⟩
  refine (run_bind _ _ _ _ _).mpr ⟨(), _, (run_map _ _ _ _ _).mpr
    ⟨value, (lift_build _ _ _ _).mpr ⟨builder, declared, rfl⟩, rfl⟩, ?_⟩
  exact (run_bind _ _ _ _ _).mpr ⟨(), _, (run_restoring _ _ _ _).mpr ⟨last, filled, rfl⟩, rfl⟩

section Routine

variable {nested : DeclId → PassM Unit} {id : DeclId} {routine : Routine}

/-- The receiver takes its argument first, and the others go to the captures and the parameters. -/
theorem run_bindEntry {args : List Value} {locals : Locals}
    (done : job.bindEntry id routine name args before = .ok locals after) :
    ∃ bound others captures, job.bindReceiver name routine args before = .ok (bound, others) after ∧
      job.program.captures id = .ok captures ∧
      job.bindArguments name bound (captures ++ routine.params) others = .ok locals := by
  obtain ⟨⟨bound, others⟩, between, received, done⟩ := (run_bind _ _ _ _ _).mp done
  obtain ⟨captures, captured, done⟩ := (run_check_bind _ _ _ _ _).mp done
  obtain ⟨arguments, rfl⟩ := (lift_check _ _ _ _).mp done
  exact ⟨bound, others, captures, received, (lift_answer _ _).mp captured, arguments⟩

/-- The body of a function is lowered in a block of its own, with its arguments bound. -/
theorem run_fill_body (done : job.fill nested id routine name signature before = .ok () after) :
    ∃ label args builder bound others captures locals between last,
      BuildM.createBlock name signature.params before.builder = .ok (label, args) builder ∧
      job.bindReceiver name routine args
        ({ before with builder := builder }.withCursor (some ⟨name, label⟩)) =
          .ok (bound, others) between ∧
      job.program.captures id = .ok captures ∧
      job.bindArguments name bound (captures ++ routine.params) others = .ok locals ∧
      Frame.emitBody ⟨job, id⟩ nested routine ⟨between, locals⟩ = .ok () last ∧
      after = last.pass := by
  obtain ⟨label, args, builder, created, done⟩ := run_createBlock_bind done
  obtain ⟨locals, between, entered, done⟩ := (run_bind _ _ _ _ _).mp (run_positionAtEnd_bind done)
  obtain ⟨bound, others, captures, received, captured, arguments⟩ := run_bindEntry entered
  obtain ⟨last, ran, rfl⟩ := (run_activate _ _ _ _ _).mp done
  exact ⟨label, args, builder, bound, others, captures, locals, between, last, created, received,
    captured, arguments, ran, rfl⟩

/--
A function of the runtime is left out. Any other is declared, and filled if there is something to
lower for it and no block is there yet.
-/
theorem run_emitRoutine_cases (done : job.emitRoutine nested id before = .ok () after) :
    ∃ decl routine, job.program.decl id = .ok decl ∧ decl.routine? = some routine ∧
      (routine.isBuiltin = true ∧ after = before ∨ routine.isBuiltin = false ∧
        ∃ reference middle name function,
          job.declare id before = .ok reference middle ∧
          middle.names.assigned.get? id = some name ∧
          middle.builder.module.function? name = some function ∧
          (routine.isFilled = false ∧ after = middle ∨
            routine.isFilled = true ∧ function.isDeclaration = true ∧ ∃ last,
              job.fill nested id routine name function.signature middle = .ok () last ∧
              after = last.withCursor middle.builder.cursor)) := by
  obtain ⟨decl, found, done⟩ := (run_check_bind _ _ _ _ _).mp done
  cases listed : decl.routine? with
  | none =>
    simp only [listed] at done
    exact ((run_check_abort _ _ _ _).mp done).elim
  | some routine =>
    refine ⟨decl, routine, (lift_answer _ _).mp found, listed, ?_⟩
    cases ordinary : routine.isBuiltin with
    | true =>
      simp only [listed, ordinary, if_true] at done
      exact Or.inl ⟨rfl, ((run_pure _ _ _ _).mp done).2.symm⟩
    | false =>
      simp only [listed, ordinary, Bool.false_eq_true, if_false] at done
      obtain ⟨_, middle, discarded, done⟩ := (run_bind _ _ _ _ _).mp done
      obtain ⟨reference, declares, _⟩ := (run_map _ _ _ _ _).mp discarded
      obtain ⟨known, signature, function, assigned, _, _, present, _⟩ := run_declare declares
      obtain ⟨name, _, lifted, done⟩ := (run_bind _ _ _ _ _).mp done
      obtain ⟨names, named, rfl⟩ := (lift_names _ _ _ _).mp lifted
      rw [NamesM.functionName_of_assigned assigned] at named
      obtain ⟨rfl, rfl⟩ := EStateM.Result.ok.inj named
      refine Or.inr ⟨rfl, reference, middle, known, function, declares, assigned, present, ?_⟩
      split at done
      next bare =>
        obtain ⟨_, rfl⟩ := (run_pure _ _ _ _).mp done
        exact Or.inl ⟨by cases body : routine.body <;> simp_all [Routine.isFilled], rfl⟩
      next given =>
        obtain ⟨_, _, read, done⟩ := (run_bind _ _ _ _ _).mp done
        obtain ⟨rfl, rfl⟩ := (run_get _ _ _).mp read
        refine Or.inr ⟨by cases body : routine.body <;> simp_all [Routine.isFilled], ?_⟩
        simp only [present] at done
        split at done
        next =>
          obtain ⟨_, _, aborted, _⟩ := (run_bind _ _ _ _ _).mp done
          exact ((run_check_abort _ _ _ _).mp aborted).elim
        next empty =>
          obtain ⟨last, filled, rfl⟩ := (run_restoring _ _ _ _).mp done
          exact ⟨by simpa using empty, last, filled, rfl⟩

/-- The other way round, a function whose parts are lowered is lowered. -/
theorem emitRoutine_of_cases {decl : Decl} {reference : Value} {middle : Pass} {function : Function}
    (found : job.program.decl id = .ok decl) (listed : decl.routine? = some routine)
    (ordinary : routine.isBuiltin = false) (declares : job.declare id before = .ok reference middle)
    (assigned : middle.names.assigned.get? id = some name)
    (present : middle.builder.module.function? name = some function)
    (rest : routine.isFilled = false ∧ after = middle ∨
      routine.isFilled = true ∧ function.isDeclaration = true ∧ ∃ last,
        job.fill nested id routine name function.signature middle = .ok () last ∧
        after = last.withCursor middle.builder.cursor) :
    job.emitRoutine nested id before = .ok () after := by
  refine (run_check_bind _ _ _ _ _).mpr ⟨decl, (lift_answer _ _).mpr found, ?_⟩
  simp only [listed, ordinary, Bool.false_eq_true, if_false]
  refine (run_bind _ _ _ _ _).mpr ⟨(), middle, (run_map _ _ _ _ _).mpr ⟨_, declares, rfl⟩, ?_⟩
  have named : (liftM (NamesM.functionName job.program id) : PassM String) middle = .ok name middle :=
    (lift_names _ _ _ _).mpr ⟨_, NamesM.functionName_of_assigned assigned, rfl⟩
  refine (run_bind _ _ _ _ _).mpr ⟨name, middle, named, ?_⟩
  have bodies : (routine.body.isNone && !routine.isSynthesized) = !routine.isFilled := by
    cases body : routine.body <;> simp [Routine.isFilled, ordinary, body]
  rw [bodies]
  obtain ⟨bare, rfl⟩ | ⟨filled, empty, last, lowered, rfl⟩ := rest
  · rw [bare]
    rfl
  · rw [filled]
    refine (run_bind _ _ _ _ _).mpr ⟨middle, middle, rfl, ?_⟩
    simp only [present, empty]
    exact (run_restoring _ _ _ _).mpr ⟨last, lowered, rfl⟩

end Routine

end Job

/-- An arguments list may be too short, but that misuses no builder. -/
instance (job : Job) (name : String) (locals : Locals) (bound : List DeclId) (args : List Value) :
    Blameless (job.bindArguments name locals bound args) := by
  induction bound generalizing locals args with
  | nil => exact inferInstanceAs (Blameless (pure locals))
  | cons first rest rest_ih =>
    cases args with
    | nil => exact Blameless.bind fun _ => .abort
    | cons arg args => exact rest_ih _ args

namespace Invariant

variable {job : Job} (kept : Invariant job)

theorem keeps_openReceiver (name : String) (requirement implementation : Routine)
    (container : Value) :
    kept.Keeps (job.openReceiver name requirement implementation container) fun _ => True := by
  unfold Job.openReceiver
  cases implementation.self with
  | none => exact .abort_bind _ _ _
  | some self =>
    refine .ask_bind fun decl _ => ?_
    simp only [pure_bind]
    have opened := kept.keeps_openExistential container decl.ty.base
    have located := kept.keeps_openExistentialAddr container decl.ty.base
    split
    · refine .bind located fun address _ => ?_
      split
      · exact .pure trivial
      · exact (kept.keeps_load address).mono fun _ _ => trivial
    · split
      · exact .abort_bind _ _ _
      · exact opened.mono fun _ _ => trivial

theorem keeps_packResult (result : Value) (resultType required : OperandType) :
    kept.Keeps (Job.packResult result resultType required) fun _ => True := by
  unfold Job.packResult
  split
  · refine .bind (kept.keeps_allocStack _) fun slot _ => ?_
    refine .bind (kept.keeps_assignValue result slot resultType.ty) fun _ _ => ?_
    exact (kept.keeps_load slot).mono fun _ _ => trivial
  · exact .pure trivial

/-- The insertion point moves to a block. -/
theorem keeps_positionAtEnd (cursor : ∀ {pass : Pass} (cursor : Option Cursor), kept.Holds pass →
    kept.Holds (pass.withCursor cursor)) (function : String) (label : LabelId) :
    kept.Keeps (liftM (BuildM.positionAtEnd function label)) fun _ => True := by
  refine .build (fun holds done => ?_) fun _ stops => ((run_modify_error _ _ _ _).mp stops).elim
  obtain rfl := (BuildM.run_setCursor _ _ _ _).mp done
  exact ⟨cursor _ holds, trivial⟩

theorem keeps_relay (id : DeclId) (args : List Value) (required : OperandType) :
    kept.Keeps (job.relay id args required) fun _ => True := by
  refine .bind (kept.keeps_declare id) fun function _ => ?_
  refine .check_bind fun own _ => ?_
  refine .bind (kept.keeps_apply function args own.result) fun result _ => ?_
  refine .bind (kept.keeps_packResult result own.result required) fun packed _ => ?_
  exact kept.keeps_ret packed

/-- An invariant outlasts what a thunk does with its arguments. -/
theorem keeps_forward (name : String) (signature : Signature)
    (requirement implementation : Routine) (id : DeclId) (args : List Value) :
    kept.Keeps (job.forward name signature requirement implementation id args) fun _ => True := by
  unfold Job.forward
  split
  · exact kept.keeps_relay id args signature.result
  · cases args with
    | nil => exact .abort_bind _ _ _
    | cons container rest =>
      refine .bind (kept.keeps_openReceiver name requirement implementation container)
        fun receiver _ => ?_
      exact kept.keeps_relay id (receiver :: rest) signature.result

/-- A thunk is declared, and filled once it is there. -/
theorem keeps_emitWitness {entry : ConformanceEntry} (listed : entry ∈ job.program.pairings)
    (filled : ∀ name signature requirement implementation,
      kept.Keeps (PassM.restoring (job.fillThunk name signature requirement implementation
        entry.implementation)) fun _ => True) :
    kept.Keeps (job.emitWitness entry.implementation entry.requirement) fun _ => True := by
  refine .ask_bind fun required _ => ?_
  cases required.routine? with
  | none => exact .abort _ _
  | some requirement =>
    refine .ask_bind fun implementing _ => ?_
    cases implementing.routine? with
    | none => exact .abort _ _
    | some implementation =>
      simp only [discard_bind]
      refine kept.keeps_declaration Signature.lower _
        (kept.keeps_thunkName entry.implementation entry.requirement) (fun named typed => ?_)
        fun name unapplied _ =>
          .bind (filled name _ requirement implementation) fun _ _ => .pure trivial
      obtain ⟨own, path, given, qualifies, same⟩ := NamesM.run_thunkName named
      exact .thunk entry _ listed ⟨own, path, (NamesM.run_functionName given).2.1, qualifies, same⟩
        ((lift_answer _ _).mp typed) rfl

/-- An invariant that outlasts thunks and witness tables outlasts a conformance. -/
theorem keeps_emitConformance {conformance : Conformance}
    (thunks : ∀ entry ∈ conformance.entries,
      kept.Keeps (job.emitWitness entry.implementation entry.requirement) fun _ => True)
    (tables : ∀ pass table, kept.Holds pass → kept.Holds
      { pass with builder := pass.builder.modifyModule (Module.addWitnessTable · table) })
    (ty : Ty) : kept.Keeps (job.emitConformance ty conformance) fun _ => True := by
  have emitEntries (entries : List ConformanceEntry)
      (thunks : ∀ entry ∈ entries,
        kept.Keeps (job.emitWitness entry.implementation entry.requirement) fun _ => True) :
      kept.Keeps (job.emitEntries entries) fun _ => True := by
    induction entries with
    | nil => exact .pure trivial
    | cons entry rest rest_ih =>
      obtain ⟨first, later⟩ := List.forall_mem_cons.mp thunks
      refine .ask_bind fun requirement _ => ?_
      split
      · exact rest_ih later
      · exact .bind first fun thunk _ => .bind (rest_ih later) fun others _ => .pure trivial
  refine .ask_bind fun view _ => .bind (emitEntries conformance.entries thunks) fun entries _ => ?_
  refine .build (fun holds done => ?_) fun _ stops => ((run_modify_error _ _ _ _).mp stops).elim
  obtain rfl := (BuildM.run_addWitnessTable _ _ _ _).mp done
  exact ⟨tables _ _ holds, trivial⟩

theorem keeps_bindReceiver (name : String) (routine : Routine) (args : List Value) :
    kept.Keeps (job.bindReceiver name routine args) fun _ => True := by
  unfold Job.bindReceiver
  cases routine.self with
  | none => exact .pure trivial
  | some self =>
    dsimp only
    split
    · cases args with
      | nil => exact .abort _ _
      | cons receiver rest => exact .pure trivial
    · split
      · refine .ask_bind fun _ _ => ?_
        refine .bind (kept.keeps_allocStack _) fun _ _ => ?_
        exact .pure trivial
      · exact .abort _ _

theorem keeps_bindEntry (id : DeclId) (routine : Routine) (name : String) (args : List Value) :
    kept.Keeps (job.bindEntry id routine name args) fun _ => True := by
  refine .bind (kept.keeps_bindReceiver name routine args) fun bound _ => ?_
  exact .ask_bind fun captures _ => (Sustains.check _).mono fun _ _ => trivial

end Invariant

end Lowering
