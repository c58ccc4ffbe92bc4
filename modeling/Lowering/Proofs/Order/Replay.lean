import Lowering.Proofs.Order.Thunk
import Lowering.Proofs.Tandem.Declaration

/-
This file lowers a declaration in two passes, whatever was lowered before in each of them. What is
done in one pass is done in the other, unless a function is filled that the other pass has filled
before.
-/

namespace Lowering

open IR

/-- Two passes are as their names say, and have done the same since their starts. -/
structure Job.Replays (job : Job) (base peer : Pass) (cursor last : Option Cursor)
    (pass other : Pass) : Prop where
  orderly : job.Orderly pass.names pass.builder.module
  again : job.Orderly other.names other.builder.module
  forged : job.AllForged pass.builder.module
  reforged : job.AllForged other.builder.module
  repeats : base.Repeats peer pass other
  here : pass.builder.cursor = cursor
  there : other.builder.cursor = last

/-- The passes are coupled from one declaration to the next. -/
def replaying (job : Job) (base peer : Pass) (cursor last : Option Cursor) : Coupling Pass where
  Relates := job.Replays base peer cursor last
  Excused := base.Clashes peer
  Strict := False
  firm impossible := impossible.elim

/-- Two passes are about to write a function that was not filled at either start. -/
structure Job.Rewrites (job : Job) (base peer : Pass) (cursor : Cursor) (pass other : Pass) : Prop
    extends job.Replays base peer (some cursor) (some cursor) pass other where
  filled : IsFilled (pass.builder.module.function? cursor.function)
  regular : IsRegular cursor.function
  free : ¬IsFilled (base.builder.module.function? cursor.function)
  clear : ¬IsFilled (peer.builder.module.function? cursor.function)

/-- The passes are coupled while they write the body of one function. -/
def writing (job : Job) (base peer : Pass) (cursor : Cursor) : Coupling Pass where
  Relates := job.Rewrites base peer cursor
  Excused := base.Clashes peer
  Strict := False
  firm impossible := impossible.elim

namespace Job

/-- Thunks that stay the same are still known. -/
theorem AllForged.of_same {job : Job} {module later : Module} (forged : job.AllForged module)
    (same : ∀ name, ¬IsRegular name → later.function? name = module.function? name) :
    job.AllForged later :=
  fun name function marked found => forged name function marked (same name marked ▸ found)

theorem AllForged.put {job : Job} {builder : Builder} (forged : job.AllForged builder.module)
    (function : Function) (regular : IsRegular function.name) :
    job.AllForged (builder.put function).module :=
  forged.of_same fun name marked =>
    Builder.function?_put_of_ne function builder name fun here => marked (here ▸ regular)

theorem AllForged.getOrCreate {job : Job} {before after : Builder}
    (forged : job.AllForged before.module) {name : String} {signature : Signature}
    (signs : job.Signs name signature) {value : Value}
    (created : BuildM.getOrCreateFunction name signature before = .ok value after) :
    job.AllForged after.module := by
  obtain ⟨others, asked, _⟩ := BuildM.function?_getOrCreate created
  intro other function marked found
  by_cases here : other = name
  · subst here
    rcases asked with ⟨same, _⟩ | ⟨_, declared⟩
    · exact forged other function marked (same ▸ found)
    · obtain rfl := Option.some.inj (declared.symm.trans found)
      exact .declared signs
  · exact forged other function marked (others other here ▸ found)

/-- A thunk that is filled once more is still known. -/
theorem AllForged.fillThunk {job : Job} {start after : Pass}
    (forged : job.AllForged start.builder.module) {name : String} {entry : ConformanceEntry}
    {signature : Signature} {requirement implementation : Routine}
    (fills : job.Fills name entry signature requirement implementation)
    (orderly : job.Orderly start.names start.builder.module)
    (present : (start.builder.module.function? name).isSome = true)
    (done : job.fillThunk name signature requirement implementation entry.implementation start =
      .ok () after) (only : start.WritesOnly name after) :
    job.AllForged after.builder.module := by
  intro other function marked found
  by_cases here : other = name
  · subst here
    obtain ⟨old, listed⟩ := Option.isSome_iff_exists.mp present
    exact .filled (forged other old marked listed) fills orderly listed done found
  · rcases only other here with same | ⟨_, regular⟩
    · exact forged other function marked (same ▸ found)
    · exact (marked regular).elim

namespace Replays

variable {job : Job} {base peer pass other : Pass} {cursor last : Option Cursor}

/-- Each of two passes may be a start. -/
theorem start (replays : job.Replays base peer cursor last pass other) :
    job.Replays pass other cursor last pass other :=
  ⟨replays.orderly, replays.again, replays.forged, replays.reforged, .refl pass other,
    replays.here, replays.there⟩

theorem trans (first : job.Replays base peer cursor last pass other) {after end_ : Pass}
    {point place : Option Cursor} (rest : job.Replays pass other point place after end_) :
    job.Replays base peer point place after end_ :=
  ⟨rest.orderly, rest.again, rest.forged, rest.reforged, first.repeats.trans rest.repeats,
    rest.here, rest.there⟩

theorem withCursor (replays : job.Replays base peer cursor last pass other)
    (point place : Option Cursor) :
    job.Replays base peer point place (pass.withCursor point) (other.withCursor place) :=
  ⟨replays.orderly, replays.again, replays.forged, replays.reforged,
    replays.repeats.withCursor point place, rfl, rfl⟩

theorem report (replays : job.Replays base peer cursor last pass other) (diagnostic : Diagnostic) :
    job.Replays base peer cursor last { pass with report := pass.report.add diagnostic }
      { other with report := other.report.add diagnostic } :=
  ⟨replays.orderly, replays.again, replays.forged, replays.reforged,
    replays.repeats.addReport diagnostic, replays.here, replays.there⟩

/-- A function that neither start has filled is written in the same way. -/
theorem put (replays : job.Replays base peer cursor last pass other) (function : Function)
    {old again : Function} (found : pass.builder.module.function? function.name = some old)
    (present : other.builder.module.function? function.name = some again)
    (regular : IsRegular function.name)
    (free : ¬IsFilled (base.builder.module.function? function.name))
    (clear : ¬IsFilled (peer.builder.module.function? function.name))
    (describes : job.Describes function.name function) :
    job.Replays base peer cursor last { pass with builder := pass.builder.put function }
      { other with builder := other.builder.put function } :=
  ⟨replays.orderly.put function found describes, replays.again.put function present describes,
    replays.forged.put function regular, replays.reforged.put function regular,
    replays.repeats.put function found present free clear, replays.here, replays.there⟩

variable (plain : job.program.PlainNames) (unambiguous : job.program.Unambiguous)

include plain unambiguous

/-- A function that is asked for in one pass may be asked for in the other. -/
theorem getOrCreate (replays : job.Replays base peer cursor last pass other) {names peers : Names}
    (canonical : names.Canonical job.program) (known : peers.Canonical job.program) {name : String}
    {signature : Signature} (signs : job.Signs name signature) {value : Value} {builder : Builder}
    (created : BuildM.getOrCreateFunction name signature pass.builder = .ok value builder) :
    ∃ built, BuildM.getOrCreateFunction name signature other.builder = .ok value built ∧
      job.Replays base peer cursor last { pass with names := names, builder := builder }
        { other with names := peers, builder := built } ∧
      (builder.module.function? name).isSome = true ∧
      (built.module.function? name).isSome = true := by
  obtain ⟨_, again, orderly⟩ := replays.orderly.getOrCreate plain unambiguous signs
  obtain ⟨rfl, rfl⟩ := EStateM.Result.ok.inj (again.symm.trans created)
  obtain ⟨built, answered, ordered⟩ := replays.again.getOrCreate plain unambiguous signs
  obtain ⟨others, asked, _, moved⟩ := BuildM.function?_getOrCreate created
  obtain ⟨rest, there, _, point⟩ := BuildM.function?_getOrCreate answered
  refine ⟨built, answered, ⟨⟨canonical, orderly.functions⟩, ⟨known, ordered.functions⟩, ?_, ?_,
    replays.repeats.getOrCreate created answered names peers, moved.trans replays.here,
    point.trans replays.there⟩, ?_, ?_⟩
  · exact replays.forged.getOrCreate signs created
  · exact replays.reforged.getOrCreate signs answered
  · rcases asked with ⟨same, present⟩ | ⟨_, declared⟩
    · exact same ▸ present
    · simp [declared]
  · rcases there with ⟨same, present⟩ | ⟨_, declared⟩
    · exact same ▸ present
    · simp [declared]

/-- A function that is declared in one pass is declared in the other, under the same name. -/
theorem declare (replays : job.Replays base peer cursor last pass other) {id : DeclId}
    {value : Value} {after : Pass} (done : job.declare id pass = .ok value after) :
    ∃ end_ name signature, job.declare id other = .ok value end_ ∧
      job.Replays base peer cursor last after end_ ∧ job.program.qualifiedName id = .ok name ∧
      job.signature id = .ok signature ∧ after.names.assigned.get? id = some name ∧
      end_.names.assigned.get? id = some name ∧
      (end_.builder.module.function? name).isSome = true := by
  obtain ⟨name, signature, names, builder, function, named, signed, rfl, rfl, created, assigned,
    orderly⟩ := replays.orderly.run_declare plain unambiguous done
  obtain ⟨peers, _, declares, answered, called, again⟩ :=
    replays.again.declare plain unambiguous function named signed
  obtain ⟨_, given, kept, _, there⟩ := replays.getOrCreate plain unambiguous orderly.names
    again.names (.routine id function named signed) created
  obtain ⟨_, rfl⟩ := EStateM.Result.ok.inj (given.symm.trans answered)
  exact ⟨_, name, signature, declares, kept, named, signed, assigned, called, there⟩

end Replays

/-- What a step declares does not fill anything. -/
theorem height_declare {job : Job} {id : DeclId} {value : Value} {before after : Pass}
    (done : job.declare id before = .ok value after) (name : String) :
    after.builder.module.height name = before.builder.module.height name :=
  (((tallying job name _).keeps_declare id).ok before value after rfl done).1

end Job

namespace Job.Rewrites

variable {job : Job} {base peer pass other : Pass} {cursor : Cursor}
  (rewrites : job.Rewrites base peer cursor pass other)

include rewrites

/-- The function that is written is the same in both passes. -/
theorem function?_eq : other.builder.module.function? cursor.function =
    pass.builder.module.function? cursor.function :=
  (((rewrites.repeats.functions cursor.function).same rewrites.regular rewrites.filled).resolve_left
    rewrites.free).2

/-- Both passes are at the same place. -/
theorem at_peer {function : Function} {block : Block} (place : pass.builder.At function block) :
    cursor.function = function.name ∧ other.builder.At function block := by
  have point := rewrites.here.symm.trans place.cursor
  have name : cursor.function = function.name := by rw [Option.some.inj point]
  refine ⟨name, rewrites.there.trans point, ?_, place.inside, place.pending⟩
  rw [← name, rewrites.function?_eq, name]
  exact place.present

/-- The passes go on in step where the function stays filled. -/
theorem next {after last : Pass}
    (replays : job.Replays base peer (some cursor) (some cursor) after last)
    (filled : IsFilled (after.builder.module.function? cursor.function)) :
    job.Rewrites base peer cursor after last :=
  ⟨replays, filled, rewrites.regular, rewrites.free, rewrites.clear⟩

theorem put {function copy : Function} {block : Block} (place : pass.builder.At function block)
    (copies : function.Copies copy) (instruction : Instruction) :
    job.Rewrites base peer cursor
      { pass with builder := pass.builder.put (copy.extendBlock block.label instruction) }
      { other with builder := other.builder.put (copy.extendBlock block.label instruction) } := by
  obtain ⟨name, there⟩ := rewrites.at_peer place
  have written : (copy.extendBlock block.label instruction).name = function.name := copies.name
  have describes := (rewrites.orderly.functions _ _ place.present).extendBlock copies place.inside
    instruction
  have found : pass.builder.module.function? (copy.extendBlock block.label instruction).name =
      some function := written ▸ place.present
  refine rewrites.next (rewrites.toReplays.put _ found (written ▸ there.present) ?_ ?_ ?_
    (written ▸ describes)) ?_
  · exact (written.trans name.symm) ▸ rewrites.regular
  · exact (written.trans name.symm) ▸ rewrites.free
  · exact (written.trans name.symm) ▸ rewrites.clear
  · dsimp only
    rw [name, ← written, Builder.function?_put_self _ function _ found]
    exact isFilled_some.mpr (Function.extendBlock_ne_nil (copies.inside place.inside) instruction)

end Job.Rewrites

namespace writing

variable {job : Job} {base peer : Pass} {cursor : Cursor}

/-- An instruction does not fill anything anew. -/
theorem mono {pass : Pass} {builder : Builder} (clashes : base.Clashes peer pass)
    (continues : pass.builder.module.Continues builder.module) :
    base.Clashes peer { pass with builder := builder } :=
  clashes.mono fun name => Nat.le_of_eq (continues.height name).symm

theorem define (type : OperandType) (instruction : TempId → Instruction) :
    (writing job base peer cursor).Builds (BuildM.define type instruction) where
  excused before _ _ clashes done := by
    obtain ⟨builder, defined, rfl⟩ := (lift_build _ _ _ _).mp done
    exact mono clashes (.define defined)
  answers pass other rewrites := by
    cases ran : (liftM (BuildM.define type instruction) : PassM Value) pass with
    | error => exact fun impossible => impossible.elim
    | ok value after =>
      obtain ⟨builder, defined, rfl⟩ := (lift_build _ _ _ _).mp ran
      obtain ⟨function, block, here, rfl, rfl⟩ := BuildM.run_define defined
      obtain ⟨_, there⟩ := Job.Rewrites.at_peer rewrites here
      exact Or.inr ⟨_, _, (lift_build _ _ _ _).mpr ⟨_, there.define_eq type instruction, rfl⟩, rfl,
        Job.Rewrites.put rewrites here (.takeTemp function) _⟩

theorem append (instruction : Instruction) :
    (writing job base peer cursor).Builds (BuildM.append instruction) where
  excused before _ _ clashes done := by
    obtain ⟨builder, appended, rfl⟩ := (lift_build _ _ _ _).mp done
    exact mono clashes (.append appended)
  answers pass other rewrites := by
    cases ran : (liftM (BuildM.append instruction) : PassM Unit) pass with
    | error => exact fun impossible => impossible.elim
    | ok value after =>
      obtain ⟨builder, appended, rfl⟩ := (lift_build _ _ _ _).mp ran
      obtain ⟨function, block, here, rfl⟩ := BuildM.run_append appended
      obtain ⟨_, there⟩ := Job.Rewrites.at_peer rewrites here
      exact Or.inr ⟨(), _, (lift_build _ _ _ _).mpr ⟨_, there.append_eq instruction, rfl⟩, rfl,
        Job.Rewrites.put rewrites here (.refl function) _⟩

theorem report (finding : Finding) :
    Couples (writing job base peer cursor) (PassM.report finding) (PassM.report finding) :=
  Couples.modify (fun _ clashes => clashes) fun _ _ rewrites =>
    Job.Rewrites.next rewrites (rewrites.toReplays.report finding.diagnostic) rewrites.filled

theorem declare (plain : job.program.PlainNames) (unambiguous : job.program.Unambiguous)
    (id : DeclId) :
    Couples (writing job base peer cursor) (job.declare id) (job.declare id) where
  excused before _ after clashes done :=
    clashes.mono fun name => Nat.le_of_eq (Job.height_declare done name).symm
  answers pass other rewrites := by
    cases ran : job.declare id pass with
    | error => exact fun impossible => impossible.elim
    | ok value after =>
      obtain ⟨end_, _, _, declares, kept, _⟩ := rewrites.toReplays.declare plain unambiguous ran
      refine Or.inr ⟨value, end_, declares, rfl, Job.Rewrites.next rewrites kept ?_⟩
      refine Module.height_pos_iff.mp ?_
      rw [Job.height_declare ran]
      exact Module.height_pos_iff.mpr rewrites.filled

/-- A declaration inside the body is lowered in between. -/
theorem nested {step other : PassM Unit}
    (below : ∀ base peer cursor last, Couples (replaying job base peer cursor last) step other) :
    Couples (writing job base peer cursor) step other where
  excused := (below base peer none none).excused
  answers pass last rewrites := by
    have answered := (below pass last (some cursor) (some cursor)).answers pass last
      rewrites.toReplays.start
    cases ran : step pass with
    | error => exact fun impossible => impossible.elim
    | ok value after =>
      rw [ran] at answered
      rcases answered with clashes | ⟨result, end_, answer, same, kept⟩
      · exact Or.inl (.of_repeats rewrites.repeats clashes)
      · refine Or.inr ⟨result, end_, answer, same,
          Job.Rewrites.next rewrites (rewrites.toReplays.trans kept) ?_⟩
        rw [(kept.repeats.functions cursor.function).kept rewrites.regular rewrites.filled]
        exact rewrites.filled

end writing

namespace replaying

variable {job : Job} {base peer : Pass} {cursor last : Option Cursor}
  (plain : job.program.PlainNames) (unambiguous : job.program.Unambiguous)

include plain unambiguous

/-- A thunk is filled in both passes, however often it was filled before. -/
theorem emitWitness (implementation requirement : DeclId) :
    Couples (replaying job base peer cursor last) (job.emitWitness implementation requirement)
      (job.emitWitness implementation requirement) where
  excused before name after clashes done := by
    obtain ⟨_, _, _, _, unapplied, names, builder, value, end_, _, _, _, _, _, _, declared, filled,
      rfl⟩ := Job.run_emitWitness done
    refine clashes.mono fun other => ?_
    show before.builder.module.height other ≤ end_.builder.module.height other
    rw [Job.height_fillThunk filled other, (Module.Continues.getOrCreate declared).height other]
    exact Nat.le_add_right _ _
  answers pass twin replays := by
    cases ran : job.emitWitness implementation requirement pass with
    | error => exact fun impossible => impossible.elim
    | ok name after =>
      obtain ⟨required, implementing, requiredRoutine, routine, unapplied, names, builder, value,
        end_, requires, listed, implements_, given, named, typed, declared, filled, rfl⟩ :=
        Job.run_emitWitness ran
      let entry : ConformanceEntry := ⟨requirement, implementation⟩
      have implemented : job.program.IsRoutine entry.implementation :=
        ⟨implementing, Program.decl_eq_ok.mp implements_, by simp [given]⟩
      have required_ : job.program.IsRoutine entry.requirement :=
        ⟨required, Program.decl_eq_ok.mp requires, by simp [listed]⟩
      obtain ⟨forwards, canonical⟩ :=
        replays.orderly.names.forwards plain unambiguous implemented required_ named
      obtain ⟨peers, called, known⟩ := replays.again.names.thunkName plain unambiguous forwards
      have signs : job.Signs name (.lower unapplied) := .thunk entry unapplied forwards typed rfl
      have fills : job.Fills name entry (.lower unapplied) requiredRoutine routine :=
        ⟨forwards, (check_bind _ _ _).mpr ⟨required, requires, congrArg _ listed⟩,
          (check_bind _ _ _).mpr ⟨implementing, implements_, congrArg _ given⟩,
          unapplied, typed, rfl⟩
      have marked : ¬IsRegular name := fun regular => regular forwards.marked
      -- The thunk is there in both passes once it was asked for.
      obtain ⟨built, answered, asked, present, there⟩ :=
        replays.getOrCreate plain unambiguous canonical known signs declared
      obtain ⟨function, found⟩ := Option.isSome_iff_exists.mp present
      obtain ⟨copy, listed_copy⟩ := Option.isSome_iff_exists.mp there
      obtain rfl := Module.name_of_function? found
      obtain ⟨finish, ran_twin, forges⟩ := forging.fillThunk plain unambiguous marked asked.orderly
        asked.again found listed_copy False.elim filled
      have emitted := Job.emitWitness_of_run requires listed implements_ given called typed answered
        ran_twin
      have forged := asked.forged.fillThunk fills asked.orderly present filled forges.aside
      have reforged := asked.reforged.fillThunk fills asked.again there ran_twin forges.apart
      exact Or.inr ⟨_, _, emitted, rfl, forges.orderly, forges.again, forged, reforged,
        (asked.repeats.trans forges.repeats).withCursor _ _, asked.here, asked.there⟩

end replaying

section Reordered

variable {left right : Job} (alike : left.program.Reorders right.program)

include alike

/-- Two lowerings are coupled inside the body of a function. -/
def rewriting (options : right.options = left.options) (plain : left.program.PlainNames)
    (unambiguous : left.program.Unambiguous) (base peer : Pass) (cursor : Cursor) :
    Tandem left right where
  toCoupling := writing left base peer cursor
  programs := alike
  terminated rewrites := by
    have point := rewrites.there.trans rewrites.here.symm
    unfold Builder.isTerminated Builder.currentBlock
    rw [point, rewrites.here]
    dsimp only
    rw [Job.Rewrites.function?_eq rewrites]
  define := writing.define
  append := writing.append
  report finding _ := writing.report finding
  declare id := by
    rw [Job.declare_of_kindred alike.kindred]
    exact writing.declare plain unambiguous id
  Sited _ := True
  warn owner stmt _ := by
    unfold Frame.warnUnreachable
    dsimp only
    rw [options, Frame.stmtSpan_of_akin alike.akin]
    split
    · exact .ask_bind _ fun span _ => .lift (writing.report _)
    · exact .pure ()

end Reordered

/-- What is lowered of a function once its block is there. -/
def Job.fillBody (job : Job) (nested : DeclId → PassM Unit) (id : DeclId) (routine : Routine)
    (name : String) (args : List Value) : PassM Unit := do
  let locals ← job.bindEntry id routine name args
  PassM.activate locals (Frame.emitBody ⟨job, id⟩ nested routine)

theorem Job.fill_eq {job : Job} (nested : DeclId → PassM Unit) (id : DeclId) (routine : Routine)
    {name : String} (signature : Signature) {pass : Pass} {function : Function}
    (found : pass.builder.module.function? name = some function) :
    job.fill nested id routine name signature pass =
      job.fillBody nested id routine name (function.addBlock signature.params).1.paramValues
        (pass.opening function signature.params) := by
  unfold Job.fill Job.fillBody
  exact Pass.run_opening found signature.params fun entry => _

section Routine

variable {left right : Job} (alike : left.program.Reorders right.program)
  (options : right.options = left.options) (plain : left.program.PlainNames)
  (unambiguous : left.program.Unambiguous) {nested other : DeclId → PassM Unit}
  (below : ∀ id base peer cursor last,
    Couples (replaying left base peer cursor last) (nested id) (other id))

include alike options plain unambiguous below

theorem writing.fillBody (base peer : Pass) (cursor : Cursor) (id : DeclId) (routine : Routine)
    (name : String) (args : List Value) :
    Couples (writing left base peer cursor) (left.fillBody nested id routine name args)
      (right.fillBody other id routine name args) := by
  let tandem := rewriting alike options plain unambiguous base peer cursor
  refine .bind (tandem.bindEntry id routine name args) fun locals => ?_
  refine Accompanies.activate locals (tandem.emitBody (fun id => ?_) routine fun _ _ _ _ => trivial)
  exact writing.nested (below id)

namespace replaying

variable {base peer : Pass} {cursor last : Option Cursor}

/-- The body of a function is lowered in both passes, unless it was lowered before in one of them. -/
theorem fill {pass twin : Pass} (replays : left.Replays base peer cursor last pass twin)
    {name : String} (regular : IsRegular name) {function copy : Function}
    (found : pass.builder.module.function? name = some function)
    (empty : function.isDeclaration = true)
    (present : twin.builder.module.function? name = some copy) {id : DeclId} {routine : Routine}
    {after : Pass} (done : left.fill nested id routine name function.signature pass = .ok () after) :
    base.Clashes peer (after.withCursor pass.builder.cursor) ∨
      copy.isDeclaration = true ∧ ∃ end_,
        right.fill other id routine name copy.signature twin = .ok () end_ ∧
        left.Replays base peer cursor last (after.withCursor pass.builder.cursor)
          (end_.withCursor twin.builder.cursor) := by
  have bare : function.blocks = [] := by simpa [Function.isDeclaration] using empty
  have unfilled : ¬IsFilled (pass.builder.module.function? name) := fun filled =>
    isFilled_some.mp (found ▸ filled) bare
  have free : ¬IsFilled (base.builder.module.function? name) := fun old =>
    unfilled ((replays.repeats.functions name).kept regular old ▸ old)
  rw [Job.fill_eq nested id routine function.signature found] at done
  obtain rfl := Module.name_of_function? found
  let label := (function.addBlock function.signature.params).1.label
  have opened : IsFilled ((pass.opening function function.signature.params).builder.module.function?
      function.name) := by
    refine Module.height_pos_iff.mp ?_
    rw [Pass.height_opening found, if_pos rfl]
    exact Nat.succ_pos _
  have lowers := writing.fillBody alike options plain unambiguous below base peer
    ⟨function.name, label⟩ id routine function.name
    (function.addBlock function.signature.params).1.paramValues
  by_cases taken : IsFilled (twin.builder.module.function? function.name)
  · refine Or.inl (lowers.excused _ () after ⟨function.name, regular, opened, free, ?_⟩ done)
    rcases (replays.repeats.back function.name).same regular taken with old | ⟨_, same⟩
    · exact old
    · exact (unfilled (same ▸ taken)).elim
  · have clear : ¬IsFilled (peer.builder.module.function? function.name) := fun old =>
      taken ((replays.repeats.back function.name).kept regular old ▸ old)
    obtain rfl : copy = function := by
      have described := replays.orderly.functions _ _ found
      have mirrored := replays.again.functions _ _ present
      have none : copy.blocks = [] := by
        by_contra blocks
        exact taken (present ▸ isFilled_some.mpr blocks)
      calc copy = Function.declared function.name copy.signature := mirrored.bare none
        _ = Function.declared function.name function.signature := by
          rw [mirrored.signed.unique plain unambiguous described.signed]
        _ = function := (described.bare bare).symm
    have described := (replays.orderly.functions _ _ found).addBlock copy.signature.params
    have written := (replays.put (copy.addBlock copy.signature.params).2 found present regular free
      clear described).withCursor (some ⟨copy.name, label⟩) (some ⟨copy.name, label⟩)
    have answered := lowers.answers (pass.opening copy copy.signature.params)
      (twin.opening copy copy.signature.params) ⟨written, opened, regular, free, clear⟩
    rw [done] at answered
    obtain clashes | ⟨_, end_, ran, _, rewrites⟩ := answered
    · exact Or.inl clashes
    · refine Or.inr ⟨empty, end_, ?_, ?_⟩
      · rw [Job.fill_eq other id routine copy.signature present]
        exact ran
      · rw [← replays.here, ← replays.there]
        exact rewrites.toReplays.withCursor _ _

theorem emitRoutine (id : DeclId) :
    Couples (replaying left base peer cursor last) (left.emitRoutine nested id)
      (right.emitRoutine other id) where
  excused before _ after clashes done := by
    obtain ⟨decl, routine, _, _, ⟨_, rfl⟩ | ⟨_, reference, middle, name, function, declares, _,
      present, rest⟩⟩ := Job.run_emitRoutine_cases done
    · exact clashes
    have declared : base.Clashes peer middle :=
      clashes.mono fun name => Nat.le_of_eq (Job.height_declare declares name).symm
    obtain ⟨_, rfl⟩ | ⟨_, empty, end_, filled, rfl⟩ := rest
    · exact declared
    rw [Job.fill_eq nested id routine function.signature present] at filled
    obtain rfl := Module.name_of_function? present
    have opened : base.Clashes peer (middle.opening function function.signature.params) :=
      declared.mono fun name => by
        rw [Pass.height_opening present]
        exact Nat.le_add_right _ _
    exact (writing.fillBody alike options plain unambiguous below base peer
      ⟨function.name, 0⟩ id routine function.name _).excused _ () end_ opened filled
  answers pass twin replays := by
    cases ran : left.emitRoutine nested id pass with
    | error => exact fun impossible => impossible.elim
    | ok value after =>
      obtain ⟨decl, routine, found, listed, rest⟩ := Job.run_emitRoutine_cases ran
      obtain ⟨lost, _⟩ | ⟨_, mirror, _, _, known, mirrored, same⟩ :=
        Program.decl_of_rel (alike.decls id)
      · rw [lost] at found
        cases found
      obtain rfl := Except.ok.inj (known.symm.trans found)
      have again : mirror.routine? = some routine := same.routine?.trans listed
      obtain ⟨builtin, rfl⟩ | ⟨ordinary, reference, middle, name, function, declares, assigned,
        present, rest⟩ := rest
      · refine Or.inr ⟨(), twin, ?_, rfl, replays⟩
        refine (run_check_bind _ _ _ _ _).mpr ⟨mirror, (lift_answer _ _).mpr mirrored, ?_⟩
        simp only [again, builtin, if_true]
        rfl
      obtain ⟨end_, _, signature, declared, kept, named, signed, called, given, there⟩ :=
        replays.declare plain unambiguous declares
      obtain rfl := Option.some.inj (called.symm.trans assigned)
      obtain ⟨copy, listed_copy⟩ := Option.isSome_iff_exists.mp there
      rw [← Job.declare_of_kindred alike.kindred] at declared
      obtain ⟨bare, rfl⟩ | ⟨filled, empty, finished, lowered, rfl⟩ := rest
      · exact Or.inr ⟨(), end_, Job.emitRoutine_of_cases mirrored again ordinary declared given
          listed_copy (Or.inl ⟨bare, rfl⟩), rfl, kept⟩
      have regular : IsRegular _ := (plain.qualifiedName named).unmarked
      obtain clashes | ⟨bare, finish, lowers, replayed⟩ := fill alike options plain unambiguous below
        kept regular present empty listed_copy lowered
      · exact Or.inl clashes
      · exact Or.inr ⟨(), _, Job.emitRoutine_of_cases mirrored again ordinary declared given
          listed_copy (Or.inr ⟨filled, bare, finish, lowers, rfl⟩), rfl, replayed⟩

end replaying

end Routine

end Lowering
