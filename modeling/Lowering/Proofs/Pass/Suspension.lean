import Lowering.Proofs.IR.Extension
import Lowering.Proofs.Pass.Lasting

/-
This file shows that whatever is lowered in the middle of a function leaves the function alone. It
writes into blocks that it makes itself, always of other functions, and the insertion point is put
back at the end, also where it stops.
-/

namespace Lowering

open IR

theorem IR.Module.function?_addFunction {module : Module} {name : String} {function : Function}
    (present : module.function? name = some function) (other : Function) :
    (module.addFunction other).function? name = some function := by
  have present : module.functions.find? (·.name == name) = some function := present
  show (module.functions ++ [other]).find? (·.name == name) = some function
  rw [List.find?_append, present]
  rfl

/-- The name of a thunk has a mark. -/
theorem NamesM.marked_of_thunkName {program : Program} {implementation requirement : DeclId}
    {thunk : String} {before after : Names}
    (done : thunkName program implementation requirement before = .ok thunk after) :
    '$' ∈ thunk.toList := by
  obtain ⟨_, _, _, _, rfl⟩ := run_thunkName done
  simp [toString]

namespace Job

/-- The function is as it was, and so is the insertion point. -/
def waiting (name : String) (function : Function) (cursor : Option Cursor) : Contract Pass where
  Holds pass := pass.builder.module.function? name = some function ∧ pass.builder.cursor = cursor
  Stops _ pass :=
    pass.builder.module.function? name = some function ∧ pass.builder.cursor = cursor
  refused _ holds := holds

/-- The function is as it was as long as the insertion point lies in another one. -/
def elsewhere (job : Job) (name : String) (function : Function) : Invariant job where
  Holds pass := pass.builder.module.function? name = some function ∧
    ∀ place ∈ pass.builder.cursor, place.function ≠ name
  Stops _ pass := pass.builder.module.function? name = some function
  refused _ holds := holds.1
  define holds _ done := by
    obtain ⟨own, block, place, _, rfl⟩ := BuildM.run_define done
    refine ⟨(Builder.function?_put_of_ne _ _ _ ?_).trans holds.1, holds.2⟩
    exact (holds.2 _ place.cursor).symm
  append holds _ done := by
    obtain ⟨own, block, place, rfl⟩ := BuildM.run_append done
    refine ⟨(Builder.function?_put_of_ne _ _ _ ?_).trans holds.1, holds.2⟩
    exact (holds.2 _ place.cursor).symm
  report _ holds := holds
  names holds _ := holds
  function _ _ holds _ _ := ⟨Module.function?_addFunction holds.1 _, holds.2⟩
  defineStops holds stops := by
    obtain rfl | ⟨place, own, here, found, rfl⟩ := BuildM.run_define_error stops
    · exact holds.1
    have apart : own.takeTemp.2.name ≠ name := by
      rw [Function.name_takeTemp, Module.name_of_function? found]
      exact holds.2 place here
    exact (Builder.function?_put_of_ne _ _ _ apart.symm).trans holds.1
  appendStops holds stops := by
    obtain rfl := BuildM.run_append_error stops
    exact holds.1
  addressStops holds stops := by
    obtain rfl := BuildM.run_requireAddress_error stops
    exact holds.1
  functionStops holds _ _ _ := holds.1

variable {job : Job} {name : String} {function : Function} {cursor : Option Cursor}

/-- What keeps the insertion point keeps it in another function. -/
theorem keeps_elsewhere {A : Type} {step : PassM A} {post : A → Prop}
    (waits : ∀ cursor, Sustains (waiting name function cursor) step post) :
    (job.elsewhere name function).Keeps step post where
  ok before value after holds done := by
    obtain ⟨⟨present, same⟩, met⟩ :=
      (waits before.builder.cursor).ok before value after ⟨holds.1, rfl⟩ done
    exact ⟨⟨present, same ▸ holds.2⟩, met⟩
  error before abort after holds stops :=
    ((waits before.builder.cursor).error before abort after ⟨holds.1, rfl⟩ stops).1

/-- A block is made for another function, and written from its start. -/
theorem elsewhere_createBlock {A : Type} {other : String} {params : List OperandType}
    {rest : LabelId × List Value → PassM A} {post : A → Prop} {before : Pass}
    (apart : other ≠ name) (present : before.builder.module.function? name = some function)
    (further : ∀ entry, (job.elsewhere name function).Keeps (rest entry) post) :
    (job.elsewhere name function).Ends post ((do
      let entry ← BuildM.createBlock other params
      BuildM.positionAtEnd other entry.1
      rest entry : PassM A) before) := by
  refine .bind (fun entry after lifted => .bind (fun _ last moved => ?_) fun abort last stops => ?_)
    fun abort after stops => ?_
  · obtain ⟨builder, created, rfl⟩ := (lift_build _ _ _ _).mp lifted
    obtain ⟨_, positioned, rfl⟩ := (lift_build _ _ _ _).mp moved
    obtain rfl := (BuildM.run_setCursor _ _ _ _).mp positioned
    obtain ⟨own, found, _, _, rfl⟩ := BuildM.run_createBlock created
    have named : own.name = other := Module.name_of_function? found
    refine (further entry).ends ⟨?_, fun place here => Option.some.inj here ▸ apart⟩
    refine (Builder.function?_put_of_ne _ _ _ ?_).trans present
    rw [Function.name_addBlock, named]
    exact apart.symm
  · obtain ⟨_, _, moved, _⟩ := (lift_build_error _ _ _ _).mp stops
    exact ((run_modify_error _ _ _ _).mp moved).elim
  · obtain ⟨_, _, refused, _, rfl⟩ := (lift_build_error _ _ _ _).mp stops
    rw [BuildM.run_createBlock_error refused]
    exact present

namespace waiting

/-- What is written elsewhere is no matter once the insertion point is put back. -/
theorem restoring (job : Job) {step : PassM Unit}
    (writes : ∀ before : Pass, before.builder.module.function? name = some function →
      (job.elsewhere name function).Ends (fun _ => True) (step before)) :
    Sustains (waiting name function cursor) (PassM.restoring step) fun _ => True := by
  refine .of_ends fun before ⟨present, same⟩ => ?_
  have writes := writes before present
  unfold PassM.restoring
  cases ran : step before with
  | ok value after =>
    rw [ran] at writes
    exact ⟨⟨writes.1.1, same⟩, writes.2⟩
  | error abort after =>
    rw [ran] at writes
    exact ⟨writes, same⟩

theorem functionName (program : Program) (id : DeclId) :
    Sustains (waiting name function cursor) (liftM (NamesM.functionName program id)) fun _ => True
    where
  ok before value after holds done := by
    obtain ⟨names, _, rfl⟩ := (lift_names _ _ _ _).mp done
    exact ⟨holds, trivial⟩
  error before abort after holds stops := by
    obtain ⟨_, names, _, _, rfl⟩ := (lift_names_error _ _ _ _).mp stops
    exact holds

theorem thunkName (program : Program) (implementation requirement : DeclId) :
    Sustains (waiting name function cursor)
      (liftM (NamesM.thunkName program implementation requirement)) ('$' ∈ ·.toList) where
  ok before value after holds done := by
    obtain ⟨names, named, rfl⟩ := (lift_names _ _ _ _).mp done
    exact ⟨holds, NamesM.marked_of_thunkName named⟩
  error before abort after holds stops := by
    obtain ⟨_, names, _, _, rfl⟩ := (lift_names_error _ _ _ _).mp stops
    exact holds

theorem getOrCreateFunction (other : String) (signature : Signature) :
    Sustains (waiting name function cursor) (liftM (BuildM.getOrCreateFunction other signature))
      fun _ => True := by
  refine .build (fun holds done => ⟨?_, trivial⟩) fun holds stops => ?_
  · obtain ⟨_, ⟨_, _, _, rfl⟩ | ⟨_, rfl⟩⟩ := BuildM.run_getOrCreateFunction done
    · exact holds
    · exact ⟨Module.function?_addFunction holds.1 _, holds.2⟩
  · obtain ⟨_, _, _, _, rfl⟩ := BuildM.run_getOrCreateFunction_error stops
    exact holds

theorem declare (id : DeclId) :
    Sustains (waiting name function cursor) (job.declare id) fun _ => True :=
  .bind (functionName job.program id) fun other _ => .check_bind fun signature _ =>
    getOrCreateFunction other signature

theorem addWitnessTable (table : WitnessTable) :
    Sustains (waiting name function cursor) (liftM (BuildM.addWitnessTable table))
      fun _ => True := by
  refine .build (fun holds done => ?_) fun _ stops => ((run_modify_error _ _ _ _).mp stops).elim
  obtain rfl := (BuildM.run_addWitnessTable _ _ _ _).mp done
  exact ⟨holds, trivial⟩

section Witness

variable (unmarked : '$' ∉ name.toList)

include unmarked

/-- Thunks have names of their own. -/
theorem emitWitness (implementation requirement : DeclId) :
    Sustains (waiting name function cursor) (job.emitWitness implementation requirement)
      fun _ => True := by
  refine .ask_bind fun required _ => ?_
  cases required.routine? with
  | none => exact .abort _ _
  | some requiring =>
    refine .ask_bind fun implementing _ => ?_
    cases implementing.routine? with
    | none => exact .abort _ _
    | some routine =>
      refine .bind (thunkName job.program implementation requirement) fun thunk marked => ?_
      refine .ask_bind fun unapplied _ => ?_
      refine .bind (.discard (getOrCreateFunction thunk _)) fun _ _ => ?_
      refine .bind (restoring job fun before present => ?_) fun _ _ => .pure trivial
      refine elsewhere_createBlock (fun same => unmarked (same ▸ marked)) present fun entry => ?_
      exact (job.elsewhere name function).keeps_forward thunk _ requiring routine implementation
        entry.2

theorem emitConformance (ty : Ty) (conformance : Conformance) :
    Sustains (waiting name function cursor) (job.emitConformance ty conformance)
      fun _ => True := by
  have emitEntries (entries : List ConformanceEntry) :
      Sustains (waiting name function cursor) (job.emitEntries entries) fun _ => True := by
    induction entries with
    | nil => exact .pure trivial
    | cons entry rest rest_ih =>
      refine .ask_bind fun requirement _ => ?_
      split
      · exact rest_ih
      · exact .bind (emitWitness unmarked _ _) fun _ _ => .bind rest_ih fun _ _ => .pure trivial
  exact .ask_bind fun view _ => .bind (emitEntries conformance.entries) fun _ _ =>
    addWitnessTable _

end Witness

section Nested

variable {nested : DeclId → PassM Unit} (opened : function.isDeclaration = false)
  (below : ∀ id cursor, Sustains (waiting name function cursor) (nested id) fun _ => True)

include opened below

/-- A function that has a block is not filled again, so that another one is. -/
theorem emitRoutine (id : DeclId) :
    Sustains (waiting name function cursor) (job.emitRoutine nested id) fun _ => True := by
  refine .ask_bind fun decl _ => ?_
  cases decl.routine? with
  | none => exact .abort _ _
  | some routine =>
    dsimp only
    split
    · exact .pure trivial
    refine .bind (.discard (declare id)) fun _ _ => ?_
    refine .bind (functionName job.program id) fun other _ => ?_
    split
    · exact .pure trivial
    refine .of_ends fun before holds => .bind (fun seen after read => ?_)
      fun abort after stops => nomatch stops
    obtain ⟨rfl, rfl⟩ := (run_get _ _ _).mp read
    cases found : before.builder.module.function? other with
    | none => exact Sustains.ends (.abort _ _) holds
    | some own =>
      dsimp only
      split
      · exact Sustains.ends (.abort_bind _ _ _) holds
      next empty =>
      have apart : other ≠ name := by
        rintro rfl
        obtain rfl := Option.some.inj (holds.1.symm.trans found)
        exact empty (by simp [opened])
      refine (restoring job fun before present => ?_).ends holds
      refine elsewhere_createBlock apart present fun entry => ?_
      let kept : Invariant (Frame.mk job id).toJob := job.elsewhere name function
      refine .bind (kept.keeps_bindEntry id routine other entry.2) fun locals _ => ?_
      have footing : kept.Footing (fun _ => True) fun _ => True :=
        .of_free (fun _ _ _ => trivial) fun _ _ => trivial
      have body := kept.continues_emitBody footing (fun id => keeps_elsewhere (below id)) routine
        fun _ _ _ _ => trivial
      exact body.activate trivial

variable (unmarked : '$' ∉ name.toList)

omit opened in
theorem emitMember (id : DeclId) :
    Sustains (waiting name function cursor) (job.emitMember nested id) fun _ => True := by
  refine .ask_bind fun decl _ => ?_
  split
  · exact (Sustains.check _).mono fun _ _ => trivial
  · exact below id cursor

include unmarked

theorem emitLevel (id : DeclId) :
    Sustains (waiting name function cursor) (job.emitLevel nested id) fun _ => True := by
  have members (ids : List DeclId) :
      Sustains (waiting name function cursor) (ids.forM (job.emitMember nested)) fun _ => True :=
    .forM _ fun member _ => emitMember below member
  refine .ask_bind fun decl _ => ?_
  split
  · exact .forM _ fun member _ => below member cursor
  · exact .abort _ _
  · exact .abort _ _
  · exact emitRoutine opened below id
  · refine .ask_bind fun ty _ => ?_
    exact .bind (.forM _ fun conformance _ => emitConformance unmarked ty conformance)
      fun _ _ => members _
  · exact members _
  · exact .pure trivial
  · exact .pure trivial
  · split
    · exact .abort _ _
    · exact .pure trivial
  all_goals exact .abort _ _

omit below

theorem emitWithin (levels : Nat) (id : DeclId) :
    Sustains (waiting name function cursor) (job.emitWithin levels id) fun _ => True := by
  induction levels generalizing id cursor with
  | zero => exact .throw rfl
  | succ levels levels_ih => exact emitLevel opened (fun id cursor => levels_ih id) unmarked id

end Nested

end waiting

end Job

end Lowering
