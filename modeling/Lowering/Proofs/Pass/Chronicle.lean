import Lowering.Proofs.Pass.Declaration
import Lowering.Proofs.Pass.Opening
import Lowering.Proofs.Typing.Statement

/-
This file says what it takes to keep a record of the declarations that a pass lowers. A chronicle
gives an invariant for every such record, and answers for the steps that make the record longer. The
main statement is that a lowering records its declarations in the order of a tour.
-/

namespace Lowering

open IR

/-- Nothing is emitted for the declaration itself. -/
def Decl.isSilent (decl : Decl) : Bool :=
  match decl.kind with
  | .product .. => false
  | .function routine => routine.isBuiltin
  | _ => true

/-- What holds after some declarations, and why lowering one more adds it to the record. -/
structure Chronicle (job : Job) where
  /-- The invariant once the given declarations are recorded. -/
  after : List DeclId → Invariant job
  free : ∀ visited, (after visited).Free := by intros _ _ _ _; trivial
  cursor : ∀ {visited : List DeclId} {pass : Pass} (cursor : Option Cursor),
    (after visited).Holds pass → (after visited).Holds (pass.withCursor cursor)
  silent : ∀ {visited : List DeclId} {id : DeclId} {decl : Decl} {pass : Pass},
    job.program.decl id = .ok decl → decl.isSilent = true → (after visited).Holds pass →
    (after (visited ++ [id])).Holds pass
  bare : ∀ {visited : List DeclId} {id : DeclId} {decl : Decl} {routine : Routine} {name : String}
    {function : Function} {pass : Pass}, job.program.decl id = .ok decl →
    decl.routine? = some routine → routine.isFilled = false →
    pass.names.assigned.get? id = some name →
    pass.builder.module.function? name = some function → (after visited).Holds pass →
    (after (visited ++ [id])).Holds pass
  opened : ∀ {visited : List DeclId} {id : DeclId} {decl : Decl} {routine : Routine}
    {name : String} {function : Function} {pass : Pass} {label : LabelId} {args : List Value}
    {builder : Builder}, job.program.decl id = .ok decl → decl.routine? = some routine →
    routine.isFilled = true → pass.names.assigned.get? id = some name →
    pass.builder.module.function? name = some function → function.isDeclaration = true →
    BuildM.createBlock name function.signature.params pass.builder = .ok (label, args) builder →
    (after visited).Holds pass → (after (visited ++ [id])).Holds { pass with builder := builder }
  product : ∀ {visited : List DeclId} {id : DeclId} {decl : Decl} {members : List DeclId}
    {conformances : List Conformance} {env : GenericEnv} {ty : Ty} {before last : Pass},
    job.program.decl id = .ok decl → decl.kind = .product members conformances env →
    job.program.declaredType id = .ok ty →
    conformances.forM (job.emitConformance ty) before = .ok () last →
    (after visited).Holds before → (after (visited ++ [id])).Holds last

namespace Chronicle

variable {job : Job} (chronicle : Chronicle job)

/-- A step records the declarations, and what is lowered along with them, in order. -/
def Records {E S A : Type} (view : S → Pass) (ids : List DeclId) (step : EStateM E S A) : Prop :=
  ∀ visited before value last, (chronicle.after visited).Holds (view before) →
    step before = .ok value last →
      ∃ trail, job.program.Tour ids trail ∧ (chronicle.after (visited ++ trail)).Holds (view last)

/-- A step of a pass records the declarations. -/
abbrev Visits {A : Type} (ids : List DeclId) (step : PassM A) : Prop :=
  chronicle.Records (fun pass => pass) ids step

/-- A step of a body records the declarations. -/
abbrev Follows {A : Type} (ids : List DeclId) (step : BodyM A) : Prop :=
  chronicle.Records Activation.pass ids step

variable {chronicle}

namespace Records

variable {E S A B : Type} {view : S → Pass} {ids others : List DeclId} {step : EStateM E S A}

/-- What keeps every invariant records nothing. -/
theorem of_keeps (keeps : ∀ visited before value last,
      (chronicle.after visited).Holds (view before) → step before = .ok value last →
        (chronicle.after visited).Holds (view last)) :
    chronicle.Records view [] step := by
  intro visited before value last holds done
  refine ⟨[], .nil, ?_⟩
  rw [List.append_nil]
  exact keeps visited before value last holds done

theorem pure (value : A) : chronicle.Records view [] (Pure.pure value : EStateM E S A) :=
  of_keeps fun _ _ _ _ holds done => ((run_pure _ _ _ _).mp done).2 ▸ holds

theorem bind {next : A → EStateM E S B} (first : chronicle.Records view ids step)
    (rest : ∀ value, chronicle.Records view others (next value)) :
    chronicle.Records view (ids ++ others) (step >>= next) := by
  intro visited before value last holds done
  obtain ⟨middle, between, ran, done⟩ := (run_bind _ _ _ _ _).mp done
  obtain ⟨trail, tour, holds⟩ := first visited before middle between holds ran
  obtain ⟨later, others_tour, holds⟩ := rest middle (visited ++ trail) between value last holds done
  exact ⟨trail ++ later, tour.append others_tour, by rwa [← List.append_assoc]⟩

theorem forM {each : DeclId → EStateM E S PUnit} (items : List DeclId)
    (all : ∀ item, chronicle.Records view [item] (each item)) :
    chronicle.Records view items (items.forM each) := by
  induction items with
  | nil => exact pure _
  | cons item rest rest_ih => exact (all item).bind fun _ => rest_ih

/-- A step of the pass is recorded in the body as well. -/
theorem lift {step : PassM A} (visits : chronicle.Visits ids step) :
    chronicle.Follows ids (liftM step) := by
  intro visited before value last holds done
  obtain ⟨pass, ran, rfl⟩ := (lift_pass _ _ _ _).mp done
  exact visits visited before.pass value pass holds ran

theorem of_continues {frame : Frame} {chronicle : Chronicle frame.toJob} {step : BodyM A}
    (continues : ∀ visited, (chronicle.after visited).Continues (fun _ => True) step) :
    chronicle.Follows [] step :=
  of_keeps fun visited before value last holds done =>
    ((continues visited).ok before value last ⟨holds, trivial⟩ done).1.1

end Records

/-- The locals are of no account. -/
theorem footing {frame : Frame} (chronicle : Chronicle frame.toJob) (visited : List DeclId) :
    @Invariant.Footing frame (chronicle.after visited) (fun _ => True) fun _ => True :=
  .of_free (chronicle.free visited) fun _ _ => trivial

section Body

variable {frame : Frame} {chronicle : Chronicle frame.toJob} {nested : DeclId → PassM Unit}
  (below : ∀ id, chronicle.Visits [id] (nested id))

include below

/-- A declaration in a body is recorded, whatever it declares. -/
theorem emitLocalDecl_follows (id : DeclId) :
    chronicle.Follows [id] (frame.emitLocalDecl nested id) := by
  intro visited before value last holds done
  obtain ⟨decl, asked, done⟩ := (run_ask_bind _ _ _ _ _).mp done
  have found := (lift_answer _ _).mp asked
  have present := Program.decl_eq_ok.mp found
  have silently (none : frame.program.nested id = []) (silent : decl.isSilent = true)
      {step : BodyM Unit} (continues : ∀ visited,
        (chronicle.after visited).Continues (fun _ => True) step)
      (done : step before = .ok value last) : ∃ trail, frame.program.Tour [id] trail ∧
        (chronicle.after (visited ++ trail)).Holds last.pass := by
    have holds := chronicle.silent found silent holds
    exact ⟨[id], .single none .nil, ((continues _).ok before value last ⟨holds, trivial⟩ done).1.1⟩
  cases kind : decl.kind with
  | binding binding =>
    simp only [kind] at done
    exact silently (by simp [Program.nested, present, kind]) (by simp [Decl.isSilent, kind])
      (fun visited => Invariant.continues_emitBinding _ (chronicle.footing visited) trivial present
        kind) done
  | function routine =>
    have listed : decl.routine? = some routine := by simp [Decl.routine?, kind, DeclKind.routine?]
    cases builtin : routine.isBuiltin with
    | true =>
      simp only [kind, builtin] at done
      exact silently (by simp [Program.nested, present, kind, builtin])
        (by simp [Decl.isSilent, kind, builtin]) (fun _ => Runs.pure trivial) done
    | false =>
      simp only [kind, builtin] at done
      have follows : chronicle.Follows ([id] ++ []) (frame.emitLocalFunction nested id) :=
        (Records.lift (below id)).bind fun _ => .of_continues fun visited =>
          Invariant.continues_bindClosure _ (chronicle.footing visited) trivial present listed
      exact follows visited before value last holds done
  | product | view | abstractType | «alias» | typeExtension =>
    simp only [kind] at done
    exact Records.lift (below id) visited before value last holds done
  | module | imported | «variable» | parameter | genericParam =>
    simp only [kind] at done
    exact ((run_ask_abort _ _ _ _).mp done).elim

omit below

mutual

/-- Statements record what they declare, up to the first one that returns. -/
theorem emitStmt_follows (below : ∀ id, chronicle.Visits [id] (nested id)) (stmt : Stmt) :
    chronicle.Follows stmt.declared (frame.emitStmt nested stmt) := by
  cases stmt with
  | decl id =>
    have follows : chronicle.Follows ([id] ++ []) (frame.emitStmt nested (.decl id)) :=
      (emitLocalDecl_follows below id).bind fun _ => .of_continues fun _ => Runs.pure trivial
    exact follows
  | block stmts span => exact emitStmts_follows below stmts
  | returned value span =>
    exact .of_continues fun visited =>
      .bind (Invariant.continues_emitReturn _ (chronicle.footing visited) value)
        fun _ _ => .pure trivial
  | expr expr =>
    exact .of_continues fun visited =>
      .bind (.discard (.evaluate _ fun _ known =>
        (chronicle.after visited).emitValue ((chronicle.footing visited).covers known) expr))
        fun _ _ => .pure trivial

theorem emitStmts_follows (below : ∀ id, chronicle.Visits [id] (nested id)) (stmts : List Stmt) :
    chronicle.Follows (Stmt.declaredAll stmts) (frame.emitStmts nested stmts) := by
  cases stmts with
  | nil => exact .of_continues fun _ => .pure trivial
  | cons stmt rest =>
    intro visited before flow last holds done
    obtain ⟨left, between, ran, continues⟩ := Frame.run_emitStmts_cons done
    obtain ⟨trail, tour, holds⟩ :=
      emitStmt_follows below stmt visited before left between holds ran
    have flows := Frame.run_emitStmt_flow stmt ran
    rw [Stmt.declaredAll]
    rcases continues with ⟨falls, done⟩ | ⟨returned, _, rfl⟩ | ⟨returned, _, next, warned⟩
    · rw [if_neg (by simp [flows.mp falls])]
      obtain ⟨later, rest_tour, holds⟩ :=
        emitStmts_follows below rest (visited ++ trail) between flow last holds done
      exact ⟨trail ++ later, tour.append rest_tour, by rwa [← List.append_assoc]⟩
    · have returns : stmt.returns = true := by
        rw [← Bool.not_eq_false, ← flows]
        exact returned
      rw [if_pos returns, List.append_nil]
      exact ⟨trail, tour, holds⟩
    · have returns : stmt.returns = true := by
        rw [← Bool.not_eq_false, ← flows]
        exact returned
      rw [if_pos returns, List.append_nil]
      have warns : (chronicle.after (visited ++ trail)).Continues (fun _ => True)
          (frame.warnUnreachable next) :=
        (chronicle.after (visited ++ trail)).continues_warnUnreachable next
      exact ⟨trail, tour, (warns.ok between () last ⟨holds, trivial⟩ warned).1.1⟩

end

include below

/-- A body records what its statements declare, and a body that is synthesized nothing. -/
theorem emitBody_follows (routine : Routine) :
    chronicle.Follows ((routine.body.map fun body => Stmt.declaredAll body.stmts).getD [])
      (frame.emitBody nested routine) := by
  unfold Frame.emitBody
  cases routine.body with
  | none => exact .of_continues fun visited => (chronicle.after visited).continues_emitSynthesized
  | some body =>
    have follows : chronicle.Follows (Stmt.declaredAll body.stmts ++ [])
        (discard (frame.emitStmts nested body.stmts) >>= fun _ => frame.emitEnd body) := by
      refine .bind (fun visited before _ last holds done => ?_) fun _ =>
        .of_continues fun visited => (chronicle.after visited).continues_emitEnd body
      obtain ⟨flow, ran, _⟩ := (run_map _ _ _ _ _).mp done
      exact emitStmts_follows below body.stmts visited before flow last holds ran
    rwa [List.append_nil] at follows

end Body

section Nested

variable {nested : DeclId → PassM Unit} (below : ∀ id, chronicle.Visits [id] (nested id))

include below

/-- A function is recorded when it is declared or gets its block, and its body after it. -/
theorem emitRoutine_visits {id : DeclId} {decl : Decl} {routine : Routine}
    (found : job.program.decl id = .ok decl) (kind : decl.kind = .function routine) :
    chronicle.Visits [id] (job.emitRoutine nested id) := by
  intro visited before value last holds done
  have present := Program.decl_eq_ok.mp found
  have inside : job.program.nested id = if routine.isBuiltin then []
      else (routine.body.map fun body => Stmt.declaredAll body.stmts).getD [] := by
    simp [Program.nested, present, kind]
  obtain ⟨again, other, found_again, listed, outcome⟩ := Job.run_emitRoutine_cases done
  obtain rfl := Except.ok.inj (found.symm.trans found_again)
  obtain rfl : routine = other := by
    simpa [Decl.routine?, kind, DeclKind.routine?] using listed
  rcases outcome with ⟨builtin, rfl⟩ | ⟨ordinary, reference, middle, name, function, declares,
    assigned, there, outcome⟩
  · rw [if_pos builtin] at inside
    refine ⟨[id], .single inside .nil, chronicle.silent found ?_ holds⟩
    simp [Decl.isSilent, kind, builtin]
  · rw [if_neg (by simp [ordinary])] at inside
    have holds := (((chronicle.after visited).keeps_declare id).ok before reference middle holds
      declares).1
    rcases outcome with ⟨bare, rfl⟩ | ⟨filled, empty, final, fills, rfl⟩
    · have none : routine.body = none := by
        cases body : routine.body <;> simp_all [Routine.isFilled]
      rw [none] at inside
      exact ⟨[id], .single inside .nil, chronicle.bare found listed bare assigned there holds⟩
    · obtain ⟨label, args, builder, bound, others, captures, locals, between, ending, created,
        received, _, _, ran, rfl⟩ := Job.run_fill_body fills
      have holds := chronicle.opened found listed filled assigned there empty created holds
      have holds := (((chronicle.after _).keeps_bindReceiver name routine args).ok _ _ between
        (chronicle.cursor _ holds) received).1
      obtain ⟨trail, tour, holds⟩ := @emitBody_follows ⟨job, id⟩ chronicle nested below routine
        (visited ++ [id]) _ () ending holds ran
      refine ⟨id :: trail, .single inside tour, chronicle.cursor _ ?_⟩
      rwa [List.append_assoc] at holds

theorem emitMember_visits (id : DeclId) : chronicle.Visits [id] (job.emitMember nested id) := by
  intro visited before value last holds done
  obtain ⟨decl, asked, done⟩ := (run_check_bind _ _ _ _ _).mp done
  have found := (lift_answer _ _).mp asked
  cases kind : decl.kind with
  | binding binding =>
    simp only [kind] at done
    obtain ⟨_, rfl⟩ := (lift_check _ _ _ _).mp done
    have inside : job.program.nested id = [] := by
      simp [Program.nested, Program.decl_eq_ok.mp found, kind]
    exact ⟨[id], .single inside .nil,
      chronicle.silent found (by simp [Decl.isSilent, kind]) holds⟩
  | _ =>
    simp only [kind] at done
    exact below id visited before value last holds done

/-- A type is recorded with its witness tables, before its members. -/
theorem emitProduct_visits {id : DeclId} {decl : Decl} {members : List DeclId}
    {conformances : List Conformance} {env : GenericEnv} (found : job.program.decl id = .ok decl)
    (kind : decl.kind = .product members conformances env) :
    chronicle.Visits [id] (job.emitProduct nested id members conformances) := by
  intro visited before value last holds done
  obtain ⟨ty, typed, done⟩ := (run_check_bind _ _ _ _ _).mp done
  obtain ⟨_, between, tables, done⟩ := (run_bind _ _ _ _ _).mp done
  have holds := chronicle.product found kind ((lift_answer _ _).mp typed) tables holds
  obtain ⟨trail, tour, holds⟩ := Records.forM members (emitMember_visits below)
    (visited ++ [id]) between value last holds done
  have inside : job.program.nested id = members := by
    simp [Program.nested, Program.decl_eq_ok.mp found, kind]
  exact ⟨id :: trail, .single inside tour, by rwa [List.append_assoc] at holds⟩

omit below in
/-- A declaration for which nothing is emitted itself is recorded before those in it. -/
theorem visits_of_silent {id : DeclId} {decl : Decl} {step : PassM Unit} {ids : List DeclId}
    (found : job.program.decl id = .ok decl) (silent : decl.isSilent = true)
    (same : job.program.nested id = ids) (inside : chronicle.Visits ids step) :
    chronicle.Visits [id] step := by
  intro visited before value last holds done
  obtain ⟨trail, tour, holds⟩ :=
    inside (visited ++ [id]) before value last (chronicle.silent found silent holds) done
  exact ⟨id :: trail, .single same tour, by rwa [List.append_assoc] at holds⟩

theorem emitLevel_visits (id : DeclId) : chronicle.Visits [id] (job.emitLevel nested id) := by
  intro visited before value last holds done
  obtain ⟨decl, asked, done⟩ := (run_check_bind _ _ _ _ _).mp done
  have found := (lift_answer _ _).mp asked
  have present := Program.decl_eq_ok.mp found
  have silently {ids : List DeclId} {step : PassM Unit} (silent : decl.isSilent = true)
      (same : job.program.nested id = ids) (inside : chronicle.Visits ids step)
      (done : step before = .ok value last) :=
    visits_of_silent found silent same inside visited before value last holds done
  cases kind : decl.kind with
  | module members =>
    simp only [kind] at done
    exact silently (by simp [Decl.isSilent, kind]) (by simp [Program.nested, present, kind])
      (.forM members below) done
  | function routine =>
    simp only [kind] at done
    exact emitRoutine_visits below found kind visited before value last holds done
  | product members conformances env =>
    simp only [kind] at done
    exact emitProduct_visits below found kind visited before value last holds done
  | typeExtension extended members =>
    simp only [kind] at done
    exact silently (by simp [Decl.isSilent, kind]) (by simp [Program.nested, present, kind])
      (.forM members (emitMember_visits below)) done
  | view | abstractType =>
    simp only [kind] at done
    exact silently (by simp [Decl.isSilent, kind]) (by simp [Program.nested, present, kind])
      (.pure _) done
  | «alias» aliased conformances =>
    simp only [kind] at done
    split at done
    · exact ((run_check_abort _ _ _ _).mp done).elim
    · exact silently (by simp [Decl.isSilent, kind]) (by simp [Program.nested, present, kind])
        (.pure _) done
  | imported | binding | «variable» | parameter | genericParam =>
    simp only [kind] at done
    exact ((run_check_abort _ _ _ _).mp done).elim

end Nested

theorem emitWithin_visits (levels : Nat) (id : DeclId) :
    chronicle.Visits [id] (job.emitWithin levels id) := by
  induction levels generalizing id with
  | zero =>
    intro _ _ _ _ _ done
    exact ((run_throw _ _ _ _).mp done).elim
  | succ levels levels_ih => exact emitLevel_visits levels_ih id

theorem emitModule_visits (id : DeclId) : chronicle.Visits [id] (job.emitModule id) := by
  intro visited before value last holds done
  obtain ⟨decl, asked, done⟩ := (run_check_bind _ _ _ _ _).mp done
  have found := (lift_answer _ _).mp asked
  cases kind : decl.kind with
  | module members =>
    simp only [kind] at done
    exact visits_of_silent found (by simp [Decl.isSilent, kind])
      (by simp [Program.nested, Program.decl_eq_ok.mp found, kind])
      (.forM members (emitWithin_visits job.nestingLimit)) visited before value last holds done
  | _ =>
    simp only [kind] at done
    exact ((run_check_abort _ _ _ _).mp done).elim

/-- A lowering records the tour of its module. -/
theorem lower {program : Program} {options : Options} {id : DeclId} {lowered : Lowered}
    (chronicle : Chronicle ⟨program, options⟩)
    (holds : (chronicle.after []).Holds (Pass.start options))
    (done : lower program id options = .ok lowered) :
    ∃ pass trail, Job.emitModule ⟨program, options⟩ id (Pass.start options) = .ok () pass ∧
      pass.builder.module = lowered.module ∧ program.Tour [id] trail ∧
      (chronicle.after trail).Holds pass := by
  obtain ⟨pass, ran, same, _⟩ := run_lower done
  obtain ⟨trail, tour, holds⟩ := emitModule_visits id [] _ () pass holds ran
  exact ⟨pass, trail, ran, same, tour, holds⟩

end Chronicle

end Lowering
