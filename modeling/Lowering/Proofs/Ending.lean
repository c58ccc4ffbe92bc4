import Lowering.Proofs.Pass.Depth
import Lowering.Proofs.Pass.Halting

/-
This file shows that the lowering of an assembled program ends: what is lowered or scanned next is
always a later declaration, so that no walk is longer than the program, and none is cut short.
-/

namespace Lowering

open IR

namespace Program

variable {program : Program}

/-- The way up from a declaration ends at the latest at the first one. -/
theorem Founded.answered_pathFrom (founded : program.Founded) {steps : Nat} {scope : Option DeclId}
    (ends : program.Ends steps scope) : Answered (program.pathFrom steps scope) := by
  induction steps generalizing scope with
  | zero =>
    cases scope with
    | none => exact inferInstanceAs (Answered (pure _))
    | some id => exact absurd (ends id rfl).2 (Nat.not_lt_zero _)
  | succ steps steps_ih =>
    cases scope with
    | none => exact inferInstanceAs (Answered (pure _))
    | some id =>
      obtain ⟨inside, below⟩ := ends id rfl
      obtain ⟨decl, found⟩ := find?_of_lt inside
      have := steps_ih (founded.ends_parent found (Nat.le_of_lt_succ below))
      have : Answered (program.segment decl) := by
        unfold segment
        cases decl.kind <;> infer_instance
      unfold pathFrom
      have looked : program.decl id = pure decl := decl_eq_ok.mpr found
      rw [looked, pure_bind]
      cases decl.kind <;> infer_instance

theorem Founded.walkable (founded : program.Founded) (owning : program.OwnsLocals) :
    program.Walkable where
  captures id := by
    unfold captures walkLimit captureRoutine
    cases present : program.find? id with
    | none =>
      have missing : program.routine? id = .error (.dangling id) := by
        simp [routine?, decl, present, bind, Except.bind]
      rw [missing]
      exact ⟨fun given => Except.error.inj given ▸ rfl⟩
    | some own =>
      cases listed : own.routine? with
      | none =>
        have answered : program.routine? id = .ok none :=
          (check_bind _ _ _).mpr ⟨own, decl_eq_ok.mpr present, congrArg _ listed⟩
        rw [answered]
        exact inferInstanceAs (Answered (pure _))
      | some routine =>
        obtain ⟨captures, given, _⟩ := captures_eq_ok founded owning present listed
        unfold Program.captures walkLimit captureRoutine at given
        rw [given]
        exact inferInstanceAs (Answered (pure captures))
  qualifiedName id := by
    have path : Answered (program.qualifiedPath id) := by
      unfold qualifiedPath
      cases present : program.find? id with
      | none =>
        unfold walkLimit pathFrom
        rw [show program.decl id = .error (.dangling id) by simp [decl, present]]
        exact ⟨fun given => Except.error.inj given ▸ rfl⟩
      | some decl =>
        have inside := lt_of_find? present
        refine founded.answered_pathFrom fun other same => ?_
        obtain rfl := Option.some.inj same
        exact ⟨inside, Nat.lt_succ_of_lt inside⟩
    unfold qualifiedName
    infer_instance

end Program

/-- However many levels a pass is given, it stops for no want of them. -/
theorem Job.conclusive_emitDecl (job : Job) [job.program.Walkable]
    (descends : job.program.Descends) (id : DeclId) : Conclusive (job.emitDecl id) := by
  have every (levels : Nat) (id : DeclId) :
      Conclusive (job.emitFrom (fun _ => pure ()) levels id) := by
    induction levels generalizing id with
    | zero => exact inferInstanceAs (Conclusive (pure _))
    | succ levels levels_ih => exact inferInstanceAs (Conclusive (job.emitLevel _ id))
  have limit : 0 < job.nestingLimit ∧ job.program.size ≤ id.index + job.nestingLimit := by
    unfold nestingLimit
    omega
  unfold emitDecl
  rw [job.emitWithin_eq_emitFrom, job.emitFrom_eq descends limit.1 limit.1 limit.2 limit.2]
  exact every job.nestingLimit id

/--
What a function declares in its body and what a space lists as its members comes later in the
program, so a chain of nested declarations is no longer than that. The captures of every function
are found, the lowering of every module returns or stops for another reason than an endless nesting,
and neither depends on how many steps it is given, as long as there are as many as declarations.
-/
theorem lowering_ends {program : Program} (assembled : program.Assembled)
    (founded : program.Founded) (owning : program.OwnsLocals) :
    (∀ id next, program.Proceeds id next → id.index < next.index ∧ next.index < program.size) ∧
    (∀ path : List DeclId, path.IsChain program.Proceeds →
      (∀ id ∈ path, id.index < program.size) → path.length ≤ program.size) ∧
    (∀ id decl routine, program.find? id = some decl → decl.routine? = some routine →
      ∃ captures, program.captures id = .ok captures) ∧
    (∀ root id found steps, id.index < program.size → program.size ≤ steps →
      program.captureRoutine root steps found id =
        program.captureRoutine root program.walkLimit found id) ∧
    (∀ options id levels, id.index < program.size → program.size ≤ levels →
      Job.emitWithin ⟨program, options⟩ levels id = Job.emitDecl ⟨program, options⟩ id) ∧
    ∀ options id other, lower program id options ≠ .error (.query (.endless other)) := by
  have descends := assembled.descends founded owning
  have walkable := founded.walkable owning
  refine ⟨descends, fun path => descends.length_le, ?_, ?_, ?_, ?_⟩
  · intro id decl routine found listed
    obtain ⟨captures, given, _⟩ := Program.captures_eq_ok founded owning found listed
    exact ⟨captures, given⟩
  · intro root id found steps there enough
    have limit : program.walkLimit = program.size + 1 := rfl
    exact descends.captureRoutine_eq (by omega) (by omega) (by omega) (by omega) found
  · intro options id levels there enough
    have limit : Job.nestingLimit ⟨program, options⟩ = 2 * program.size + 2 := rfl
    have further : program.size ≤ id.index + (2 * program.size + 2) := by omega
    unfold Job.emitDecl
    rw [Job.emitWithin_eq_emitFrom, Job.emitWithin_eq_emitFrom, limit]
    exact Job.emitFrom_eq ⟨program, options⟩ descends (by omega) (Nat.succ_pos _)
      (Nat.le_add_left_of_le enough) further
  · intro options id other stops
    let job : Job := ⟨program, options⟩
    have : job.program.Walkable := walkable
    have := job.conclusive_emitDecl descends
    unfold lower at stops
    dsimp only at stops
    cases ran : job.emitModule id (Pass.start options) with
    | ok value pass =>
      rw [ran] at stops
      cases stops
    | error abort pass =>
      rw [ran] at stops
      obtain rfl := Except.error.inj stops
      exact nomatch Conclusive.conclusive ran

open Assembly in
/-- Functions in a function, a method in a type in a function, and one in an extension. -/
def enclosing : Assembly Unit := do
  let main ← addModule "main"
  let box ← addProduct main "Box"
  let extended ← addExtension main box
  let method ← addMethod extended "m" [] .int false
  let outer ← addFunction main "outer" [⟨none, "n", .int⟩] .unit
  let inner ← addFunction outer "inner" [] .unit
  let type ← addProduct inner "Local"
  let deep ← addMethod type "deep" [] .unit false
  let reference ← ask (·.refExpr ⟨outer.index + 1⟩ Span.unknown)
  setBody method ⟨[.returned (some (.int ⟨.int, Span.unknown⟩ 1)) Span.unknown], Span.unknown⟩
  setBody deep ⟨[], Span.unknown⟩
  setBody inner ⟨[.expr reference, .decl type], Span.unknown⟩
  setBody outer ⟨[.block [.decl inner] Span.unknown], Span.unknown⟩

open Assembly in
theorem enclosing_assembled : enclosing.built.Assembled := by
  refine Preserves.built ?_
  refine .bind (Offered.addModule _).assembles fun main => ?_
  refine .bind (Offered.addProduct _ _).assembles fun box => ?_
  refine .bind (Offered.addExtension _ _).assembles fun extended => ?_
  refine .bind (Offered.addMethod _ _ _ _ _).assembles fun method => ?_
  refine .bind (Offered.addFunction _ _ _ _).assembles fun outer => ?_
  refine .bind (Offered.addFunction _ _ _ _).assembles fun inner => ?_
  refine .bind (Offered.addProduct _ _).assembles fun type => ?_
  refine .bind (Offered.addMethod _ _ _ _ _).assembles fun deep => ?_
  refine .bind (.ask _) fun reference => ?_
  refine .bind (Offered.setBody _ _).assembles fun _ => ?_
  refine .bind (Offered.setBody _ _).assembles fun _ => ?_
  refine .bind (Offered.setBody _ _).assembles fun _ => ?_
  exact (Offered.setBody _ _).assembles

theorem lowering_ends_enclosing :
    enclosing.built.Assembled ∧ enclosing.built.Founded ∧ enclosing.built.OwnsLocals ∧
    enclosing.built.size = 11 ∧
    (lower enclosing.built ⟨0⟩ Options.standard).toOption.map
      (·.module.functions.map IR.Function.name) =
        some ["Box.m", "outer", "outer.inner", "outer.inner.Local.deep"] ∧
    (∀ path : List DeclId, path.IsChain enclosing.built.Proceeds →
      (∀ id ∈ path, id.index < 11) → path.length ≤ 11) ∧
    (∃ captures, enclosing.built.captures ⟨7⟩ = .ok captures) ∧
    Job.emitWithin ⟨enclosing.built, Options.standard⟩ 11 ⟨5⟩ =
      Job.emitDecl ⟨enclosing.built, Options.standard⟩ ⟨5⟩ := by
  have founded : enclosing.built.Founded := by decide +kernel
  have owning : enclosing.built.OwnsLocals := by decide +kernel
  have size : enclosing.built.size = 11 := by decide +kernel
  have listed : ((enclosing.built.find? ⟨7⟩).bind Decl.routine?).isSome = true := by decide +kernel
  obtain ⟨routine, routed⟩ := Option.isSome_iff_exists.mp listed
  obtain ⟨decl, found, holds⟩ := Option.bind_eq_some_iff.mp routed
  obtain ⟨_, chains, captured, _, levels, _⟩ := lowering_ends enclosing_assembled founded owning
  rw [size] at chains
  refine ⟨enclosing_assembled, founded, owning, size, by decide +kernel, chains,
    captured ⟨7⟩ decl routine found holds, ?_⟩
  exact levels Options.standard ⟨5⟩ 11 (by rw [size]; decide) (Nat.le_of_eq size)

end Lowering
