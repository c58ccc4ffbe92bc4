import Lowering.Proofs.Meaning.Slots
import Lowering.Proofs.Reaching
import Lowering.Proofs.Separation

/-
This file shows that locals never alias. Wherever a body has got to, different declarations are
bound to different temporaries. The slots that a pattern gets are new, they come before the code of
its initializer, and a store to one of them changes no other.
-/

namespace Lowering

open IR

/-- The block makes the value, which is a slot. -/
def IR.Block.Makes (block : Block) (value : Value) : Prop :=
  ∃ slot ty, value = Value.temp slot (.address ty) ∧ .allocStack slot ty ∈ block.instructions

/--
The names get their slots and nothing else is written. The slots are temporaries that were nowhere
in the function before, and the names are bound to them.
-/
inductive Frame.Reserves (frame : Frame) (names : List DeclId) (before : Activation)
    (locations : List Value) (after : Activation) : Prop
  | intro {function : Function} {block : Block} {slots : List Instruction}
    (place : before.pass.builder.At function block)
    (slotted : frame.Slots function.temps.issued names slots locations)
    (writes : before.pass.builder.Writes slots after.pass.builder)
    (bound : after.locals = Frame.bindAll before.locals (names.zip locations))
    (distinct : (locations.filterMap Value.temp?).Nodup)
    (fresh : ∀ location ∈ locations, ∀ slot, location.temp? = some slot →
      ¬function.Mentions slot) : Frame.Reserves frame names before locations after

/-- Writing goes on at the end of the block that is open. -/
theorem Pass.Steady.longer {before after : Pass} (steady : before.Steady after)
    {function : Function} {block : Block} (place : before.builder.At function block) :
    ∃ longer, after.builder.currentBlock = .ok longer ∧
      block.instructions <+: longer.instructions := by
  obtain ⟨later, found, grown⟩ := steady.grows.module.functions _ _ place.present
  obtain ⟨longer, inside, _, extended, _⟩ := grown.blocks _ _ place.inside
  exact ⟨longer, by simp [Builder.currentBlock, steady.cursor, place.cursor, found, inside], extended⟩

namespace Frame

variable {frame : Frame} {before after : Activation}

/-- The names of a pattern reserve their slots. -/
theorem reserves_of_mapM {names : List DeclId} {locations : List Value}
    (ready : (scoping frame.toJob).Ready before)
    (done : names.mapM frame.emitLocalVar before = .ok locations after) :
    frame.Reserves names before locations after := by
  obtain ⟨function, block, place⟩ := ready.working.opened
  obtain ⟨slots, slotted, writes, bound⟩ := slots_of_mapM names place done
  have temps := slotted.temps.1
  refine .intro place slotted writes bound (temps ▸ List.nodup_range') ?_
  intro location inside slot given mentions
  have listed := temps ▸ List.mem_filterMap.mpr ⟨location, inside, given⟩
  have present := Module.mem_of_function? place.present
  have issued := mentions.issued (ready.working.formed.of_function? place.present)
    (ready.holds function present)
  exact Nat.not_lt_of_le (List.mem_range'_1.mp listed).1 issued

/-- The code of an initializer follows the slots, and it binds nothing. -/
theorem emitBinding_longer {place : DeclId} {decl : Decl} {binding : Binding}
    (found : frame.program.decl place = .ok decl) (kind : decl.kind = .binding binding)
    (ready : (scoping frame.toJob).Ready before)
    (done : frame.emitBinding binding before = .ok () after) : ∃ locations middle block longer,
      binding.pattern.names.mapM frame.emitLocalVar before = .ok locations middle ∧
        after.locals = middle.locals ∧ middle.pass.builder.currentBlock = .ok block ∧
        after.pass.builder.currentBlock = .ok longer ∧
        block.instructions <+: longer.instructions := by
  obtain ⟨locations, middle, mapped, same⟩ := run_emitBinding_locals done
  obtain ⟨again, between, mapped_again, rest⟩ := (run_bind _ _ _ _ _).mp done
  obtain ⟨rfl, rfl⟩ := EStateM.Result.ok.inj (mapped.symm.trans mapped_again)
  have usable (value : Value) (earlier later : Pass) (steady : earlier.Steady later)
      (bindable : (scoping frame.toJob).Bindable earlier value) :
      (scoping frame.toJob).Bindable later value := bindable.of_steady steady
  obtain ⟨ready, _, _, bindable⟩ := Policy.Keeps.mapM _ usable binding.pattern.names before
    (fun name _ => Policy.Keeps.emitLocalVar name) ready _ _ mapped
  obtain ⟨function, block, open_⟩ := ready.working.opened
  suffices steady : middle.pass.Steady after.pass by
    obtain ⟨longer, current, extended⟩ := steady.longer open_
    exact ⟨locations, middle, block, longer, mapped, same, open_.currentBlock, current, extended⟩
  cases given : binding.initializer with
  | none =>
    rw [given] at rest
    obtain ⟨_, rfl⟩ := (run_pure _ _ _ _).mp rest
    exact .refl _
  | some initializer =>
    have occurs := Program.occurs_initializer found kind given
    simp only [given] at rest
    generalize binding.pattern.single? = single at rest
    cases single <;> cases locations
    case some.cons =>
      exact (Policy.Keeps.emitAssign initializer occurs middle
        (bindable _ (List.mem_cons_self ..)).1 ready _ _ rest).2.1
    case none.nil =>
      obtain ⟨_, ran, _⟩ := (run_map _ _ _ _ _).mp rest
      exact (Policy.Keeps.emitValue initializer occurs middle ready _ _ ran).2.1
    all_goals exact ((run_ask_abort _ _ _ _).mp rest).elim

end Frame

namespace Job

/--
The activations in which the body of a function is lowered, between its statements and between the
slots of a pattern.
-/
inductive During (job : Job) (root id : DeclId) : Activation → Prop
  | entered {levels : Nat} {start middle entered : Pass} {decl : Decl} {routine : Routine}
    {reference : Value} {name : String} {function : Function} {locals : Locals}
    (calls : job.Calls root (levels + 1) id start) (found : job.program.decl id = .ok decl)
    (listed : decl.routine? = some routine) (filled : routine.isFilled = true)
    (declares : job.declare id start = .ok reference middle)
    (assigned : middle.names.assigned.get? id = some name)
    (present : middle.builder.module.function? name = some function)
    (empty : function.isDeclaration = true)
    (enters : job.enter id routine name function.signature middle = .ok locals entered) :
    During job root id ⟨entered, locals⟩
  | stmt {levels : Nat} {stmt : Stmt} {before after : Activation}
    (during : During job root id before)
    (occurs : ∀ expr ∈ stmt.exprs, job.program.Occurs expr)
    (done : Frame.emitStmt ⟨job, id⟩ (job.emitWithin levels) stmt before =
      .ok .fallthrough after) : During job root id after
  | variable {name : DeclId} {location : Value} {before after : Activation}
    (during : During job root id before)
    (done : Frame.emitLocalVar ⟨job, id⟩ name before = .ok location after) :
    During job root id after

/--
All activations of a body. In the middle of a statement, while a declaration inside the body is
lowered and once the block has ended, the locals are those that were there before.
-/
def Reaches (job : Job) (root id : DeclId) (reached : Activation) : Prop :=
  ∃ before, job.During root id before ∧ reached.locals = before.locals

variable {job : Job} {root id : DeclId}

/-- Once a function is declared, its body may be begun. -/
theorem Calls.ordered {levels : Nat} {start middle : Pass} {reference : Value}
    (calls : job.Calls root levels id start) (declares : job.declare id start = .ok reference middle) :
    middle.builder.module.WellFormed ∧ (scoping job).Holds middle := by
  have begins : (scoping job).Holds (Pass.start job.options) :=
    fun _ impossible => nomatch impossible
  obtain ⟨formed, ordered⟩ := Policy.holds_calls begins calls
  obtain ⟨formed, ordered, _⟩ := Policy.Visits.declare id formed ordered _ _ declares
  exact ⟨formed, ordered⟩

namespace During

variable {before after : Activation}

theorem of_begins {levels : Nat} {start entered : Pass} {locals : Locals}
    (calls : job.Calls root (levels + 1) id start)
    (filled : (Frame.routine ⟨job, id⟩).toOption.map Routine.isFilled = some true)
    (begins : job.begins id start = .ok locals entered) :
    job.During root id ⟨entered, locals⟩ := by
  obtain ⟨_, _, _, _, _, _, found, listed, filled, declares, assigned, present, empty, enters⟩ :=
    run_begins filled begins
  exact .entered calls found listed filled declares assigned present empty enters

theorem reaches (during : job.During root id before) : job.Reaches root id before :=
  ⟨before, during, rfl⟩

theorem routine (during : job.During root id before) :
    ∃ routine, Frame.routine ⟨job, id⟩ = .ok routine := by
  induction during with
  | entered _ found listed => exact ⟨_, Frame.routine_eq_ok found listed⟩
  | stmt _ _ _ during_ih | «variable» _ _ during_ih => exact during_ih

/-- The next slot can be made, and the operands at hand are those of the open block. -/
theorem ready (during : job.During root id before) : (scoping job).Ready before := by
  let policy : Policy (Frame.mk job id).toJob := scoping job
  induction during with
  | entered calls _ _ _ declares _ _ _ enters =>
    obtain ⟨formed, ordered⟩ := calls.ordered declares
    exact Policy.ready_enter formed ordered enters
  | @stmt levels stmt before after during occurs done during_ih =>
    obtain ⟨routine, owned⟩ := during.routine
    have below : policy.VisitsAll (job.emitWithin levels) := Policy.Visits.emitWithin levels
    have left := Policy.Flows.emitStmt below owned stmt occurs before during_ih _ _ done
    simp only [Policy.Left, or_true, if_true] at left
    exact left.1
  | @«variable» name _ before _ _ done during_ih =>
    have kept : policy.Keeps (Frame.emitLocalVar ⟨job, id⟩ name) before _ :=
      Policy.Keeps.emitLocalVar name before
    exact (kept during_ih _ _ done).1

theorem apart (during : job.During root id before) : before.locals.Apart := by
  induction during with
  | entered calls _ _ _ declares _ _ _ enters =>
    obtain ⟨formed, ordered⟩ := calls.ordered declares
    exact enter_apart formed ordered enters
  | @stmt levels stmt _ _ during occurs done during_ih =>
    obtain ⟨routine, owned⟩ := during.routine
    have below : (scoping (Frame.mk job id).toJob).VisitsAll (job.emitWithin levels) :=
      Policy.Visits.emitWithin levels
    exact Frame.apart_emitStmt below owned stmt occurs during.ready during_ih done
  | @«variable» name location _ _ during done during_ih =>
    exact @Frame.apart_emitLocalVar ⟨job, id⟩ _ _ name location during.ready during_ih done

/-- A body goes on from one slot of a pattern to the next. -/
theorem mapM (names : List DeclId) {locations : List Value} (during : job.During root id before)
    (done : names.mapM (Frame.emitLocalVar ⟨job, id⟩) before = .ok locations after) :
    job.During root id after := by
  induction names generalizing before locations with
  | nil =>
    obtain ⟨_, rfl⟩ := (run_pure _ _ _ _).mp done
    exact during
  | cons name rest rest_ih =>
    obtain ⟨location, between, others, ran, mapped, rfl⟩ := (run_mapM_cons _ _ _ _ _ _).mp done
    exact rest_ih (.variable during ran) mapped

/-- A body goes on past a declaration. -/
theorem declared {levels : Nat} {inner : DeclId} {value : Unit} (during : job.During root id before)
    (done : Frame.emitLocalDecl ⟨job, id⟩ (job.emitWithin levels) inner before = .ok value after) :
    job.During root id after := by
  have ran : Frame.emitStmt ⟨job, id⟩ (job.emitWithin levels) (.decl inner) before =
      .ok .fallthrough after := (run_bind _ _ _ _ _).mpr ⟨value, after, done, rfl⟩
  have none (expr : Expr) (listed : expr ∈ (Stmt.decl inner).exprs) : job.program.Occurs expr :=
    (List.not_mem_nil listed).elim
  exact .stmt during none ran

end During

/-! A body is lowered by way of these activations. -/

namespace Reaches

variable {levels : Nat}

mutual

theorem emitStmt {start reached : Activation} {flow : Flow} (during : job.During root id start)
    (stmt : Stmt) (occurs : ∀ expr ∈ stmt.exprs, job.program.Occurs expr)
    (done : Frame.emitStmt ⟨job, id⟩ (job.emitWithin levels) stmt start = .ok flow reached) :
    job.Reaches root id reached := by
  by_cases falls : flow = .fallthrough
  · subst falls
    exact (During.stmt during occurs done).reaches
  · cases stmt with
    | decl | expr =>
      obtain ⟨_, _, _, done⟩ := (run_bind _ _ _ _ _).mp done
      exact (falls ((run_pure _ _ _ _).mp done).1.symm).elim
    | block stmts span => exact emitStmts during stmts occurs done
    | returned value span =>
      obtain ⟨_, between, ran, done⟩ := (run_bind _ _ _ _ _).mp done
      obtain ⟨_, rfl⟩ := (run_pure _ _ _ _).mp done
      exact ⟨start, during, Frame.locals_emitReturn ran⟩

theorem emitStmts {start reached : Activation} {flow : Flow} (during : job.During root id start)
    (stmts : List Stmt) (occurs : ∀ expr ∈ Stmt.exprsAll stmts, job.program.Occurs expr)
    (done : Frame.emitStmts ⟨job, id⟩ (job.emitWithin levels) stmts start = .ok flow reached) :
    job.Reaches root id reached := by
  cases stmts with
  | nil =>
    obtain ⟨_, rfl⟩ := (run_pure _ _ _ _).mp done
    exact during.reaches
  | cons stmt rest =>
    have first (expr : Expr) (listed : expr ∈ stmt.exprs) : job.program.Occurs expr :=
      occurs expr (List.mem_append_left _ listed)
    obtain ⟨left, between, ran, continues⟩ := Frame.run_emitStmts_cons done
    rcases continues with ⟨rfl, done⟩ | ⟨_, _, rfl⟩ | ⟨_, _, next, warned⟩
    · exact emitStmts (.stmt during first ran) rest
        (fun expr listed => occurs expr (List.mem_append_right _ listed)) done
    · exact emitStmt during stmt first ran
    · obtain ⟨before, during, same⟩ := emitStmt during stmt first ran
      exact ⟨before, during, (Frame.locals_warnUnreachable warned).trans same⟩

end

/-- The end of a body binds nothing, and neither does a body that the compiler writes. -/
theorem emitBody {start reached : Activation} (during : job.During root id start)
    {routine : Routine} {value : Unit} (owned : Frame.routine ⟨job, id⟩ = .ok routine)
    (done : Frame.emitBody ⟨job, id⟩ (job.emitWithin levels) routine start = .ok value reached) :
    job.Reaches root id reached := by
  let kept := Invariant.unconditional (Frame.mk job id).toJob
  cases given : routine.body with
  | none =>
    unfold Frame.emitBody at done
    rw [given] at done
    exact ⟨start, during, Frame.locals_of_evaluates kept.continues_emitSynthesized done⟩
  | some body =>
    obtain ⟨decl, found, listed⟩ := Frame.decl_of_routine owned
    obtain ⟨flow, between, ran, done⟩ := Frame.run_emitBody given done
    obtain ⟨before, during, same⟩ := emitStmts during body.stmts
      (fun _ => Program.occurs_body found listed given) ran
    have ends := Frame.locals_of_evaluates (kept.continues_emitEnd body) done
    exact ⟨before, during, ends.trans same⟩

end Reaches

end Job

/--
Different declarations are bound to different temporaries wherever the lowering of a body has got
to. A pattern gets one new slot for every occurrence of a name whose type is not an error, in order,
and the code of its initializer follows. Whatever else a block does, its slots are different cells,
so a store to the slot of one local changes no other.
-/
theorem locals_apart (job : Job) (root id : DeclId) :
    (∀ reached, job.Reaches root id reached → reached.locals.Apart) ∧
    (∀ start, job.During root id start → ∀ place decl binding,
      job.program.decl place = .ok decl → decl.kind = .binding binding →
        ((∃ locations middle, binding.pattern.names.mapM (Frame.emitLocalVar ⟨job, id⟩) start =
            .ok locations middle) ↔
          ∀ name ∈ binding.pattern.names, Frame.Declarable ⟨job, id⟩ name) ∧
        (∀ locations middle, binding.pattern.names.mapM (Frame.emitLocalVar ⟨job, id⟩) start =
          .ok locations middle →
            Frame.Reserves ⟨job, id⟩ binding.pattern.names start locations middle) ∧
        ∀ after, Frame.emitBinding ⟨job, id⟩ binding start = .ok () after →
          ∃ locations middle block longer,
            binding.pattern.names.mapM (Frame.emitLocalVar ⟨job, id⟩) start =
              .ok locations middle ∧ after.locals = middle.locals ∧
            middle.pass.builder.currentBlock = .ok block ∧
            after.pass.builder.currentBlock = .ok longer ∧
            block.instructions <+: longer.instructions) ∧
    ∀ reached, job.During root id reached → ∀ block,
      reached.pass.builder.currentBlock = .ok block → ∀ first second own other, first ≠ second →
        reached.locals.get? first = some own → reached.locals.get? second = some other →
        block.Makes own → block.Makes other → ∀ rest (machine next : Machine),
          ((block.instructions ++ rest).filterMap Instruction.result?).Nodup →
          machine.PerformsAll (block.instructions ++ rest) next →
            ∃ cell apart, next.word? own = some (.address cell []) ∧
              next.word? other = some (.address apart []) ∧ cell ≠ apart ∧
              ∀ value last, next.step (.store value own) = some last →
                last.cells[apart]? = next.cells[apart]? := by
  let frame : Frame := ⟨job, id⟩
  refine ⟨fun reached ⟨before, during, same⟩ => same ▸ during.apart, ?_, ?_⟩
  · intro start during place decl binding found kind
    have ready : (scoping frame.toJob).Ready start := during.ready
    refine ⟨⟨?_, fun declarable => ?_⟩, fun locations middle mapped => ?_, fun after done => ?_⟩
    · rintro ⟨locations, middle, mapped⟩
      obtain ⟨_, slotted, _⟩ := Frame.reserves_of_mapM ready mapped
      exact slotted.declarable
    · obtain ⟨routine, owned⟩ := during.routine
      obtain ⟨function, block, place⟩ := ready.working.opened
      exact Frame.mapM_emitLocalVar_returns _ owned place declarable
    · exact Frame.reserves_of_mapM ready mapped
    · exact Frame.emitBinding_longer found kind ready done
  · rintro reached during block _ first second own other differ found found_too
      ⟨slot, ty, rfl, listed⟩ ⟨slot_too, ty_too, rfl, listed_too⟩ rest machine next distinct performs
    have apart : slot ≠ slot_too := by
      rintro rfl
      exact differ (during.apart first second _ _ slot found found_too rfl rfl)
    exact performs.stores_apart distinct (List.mem_append_left _ listed)
      (List.mem_append_left _ listed_too) apart

open Assembly in
/-- A parameter, a pattern that has a name twice and one of error type, and a closure. -/
def reserving : Assembly Unit := do
  let main ← addModule "main"
  let outer ← addFunction main "outer" [⟨none, "n", .int⟩] .int
  let a ← addVariable outer "a" .int
  let b ← addVariable outer "b" .error
  let c ← addVariable outer "c" .bool
  let pattern := .tuple [.named a, .named b, .wildcard, .named c, .named a]
  let first ← addLocalBinding outer pattern .int none
  let n ← ask (·.refExpr ⟨outer.index + 1⟩ Span.unknown)
  let (second, _) ← addLocalVar outer "d" .int (some n)
  let inner ← addFunction outer "inner" [] .int
  setBody inner ⟨[.returned (some n) Span.unknown], Span.unknown⟩
  setBody outer ⟨[.decl first, .decl second, .decl inner, .returned (some n) Span.unknown],
    Span.unknown⟩

def reservingJob : Job := ⟨reserving.built, Options.standard⟩

def reservingFrame : Frame := ⟨reservingJob, ⟨1⟩⟩

/-- What is declared is a binding of these names, with or without an initializer. -/
theorem Program.binding_of_seen {program : Program} {place : DeclId} {names : List DeclId}
    {initialized : Bool}
    (seen : (program.find? place).bind (fun decl => match decl.kind with
      | .binding binding => some (binding.pattern.names, binding.initializer.isSome)
      | _ => none) = some (names, initialized)) :
    ∃ decl binding, program.decl place = .ok decl ∧ decl.kind = .binding binding ∧
      binding.pattern.names = names ∧ binding.initializer.isSome = initialized := by
  obtain ⟨decl, found, seen⟩ := Option.bind_eq_some_iff.mp seen
  cases kind : decl.kind with
  | binding binding =>
    rw [kind] at seen
    obtain ⟨rfl, rfl⟩ := Prod.mk.inj (Option.some.inj seen)
    exact ⟨decl, binding, Program.decl_eq_ok.mpr found, kind, rfl, rfl⟩
  | _ =>
    rw [kind] at seen
    cases seen

/-- The body of the function binds its pattern, a variable with an initializer and a closure. -/
theorem reserving_run : ∃ locals entered locations middle third last block,
    reservingJob.begins ⟨1⟩ (Pass.start Options.standard) = .ok locals entered ∧
    [⟨3⟩, ⟨4⟩, ⟨5⟩, ⟨3⟩].mapM reservingFrame.emitLocalVar ⟨entered, locals⟩ =
      .ok locations middle ∧
    reservingFrame.emitLocalDecl (reservingJob.emitWithin 3) ⟨8⟩ middle = .ok () third ∧
    reservingFrame.emitLocalDecl (reservingJob.emitWithin 3) ⟨9⟩ third = .ok () last ∧
    locations = [Value.temp 1 (.address .int), Value.error (.address .error),
      Value.temp 2 (.address .bool), Value.temp 3 (.address .int)] ∧
    middle.pass.builder.currentBlock = .ok block ∧
    block.instructions = [.allocStack 1 .int, .allocStack 2 .bool, .allocStack 3 .int] ∧
    [2, 3, 4, 5, 7, 9].map (fun id => (last.locals.get? ⟨id⟩).bind Value.temp?) =
      [some 0, some 3, none, some 2, some 4, some 5] := by
  have seen : (do
      let locals ← reservingJob.begins ⟨1⟩
      PassM.activate locals do
        let locations ← [⟨3⟩, ⟨4⟩, ⟨5⟩, ⟨3⟩].mapM reservingFrame.emitLocalVar
        let middle ← get
        reservingFrame.emitLocalDecl (reservingJob.emitWithin 3) ⟨8⟩
        reservingFrame.emitLocalDecl (reservingJob.emitWithin 3) ⟨9⟩
        let last ← get
        return (locations, middle.pass.builder.currentBlock.toOption.map Block.instructions,
          [2, 3, 4, 5, 7, 9].map fun id => (last.locals.get? ⟨id⟩).bind Value.temp?) :
        PassM (List Value × Option (List Instruction) × List (Option TempId))).run'
          (Pass.start Options.standard) = some (
            [Value.temp 1 (.address .int), Value.error (.address .error),
              Value.temp 2 (.address .bool), Value.temp 3 (.address .int)],
            some [.allocStack 1 .int, .allocStack 2 .bool, .allocStack 3 .int],
            [some 0, some 3, none, some 2, some 4, some 5]) := by
    decide +kernel
  obtain ⟨_, _, ran⟩ := ok_of_run' (Option.isSome_of_eq_some seen)
  obtain rfl := Option.some.inj ((run'_of_ok ran).symm.trans seen)
  obtain ⟨locals, entered, begins, ran⟩ := (run_bind _ _ _ _ _).mp ran
  obtain ⟨ending, ran, _⟩ := (run_activate _ _ _ _ _).mp ran
  obtain ⟨locations, middle, mapped, ran⟩ := (run_bind _ _ _ _ _).mp ran
  obtain ⟨_, _, read, ran⟩ := (run_bind _ _ _ _ _).mp ran
  obtain ⟨rfl, rfl⟩ := (run_get _ _ _).mp read
  obtain ⟨_, third, declared, ran⟩ := (run_bind _ _ _ _ _).mp ran
  obtain ⟨_, last, closed, ran⟩ := (run_bind _ _ _ _ _).mp ran
  obtain ⟨_, _, read, ran⟩ := (run_bind _ _ _ _ _).mp ran
  obtain ⟨rfl, rfl⟩ := (run_get _ _ _).mp read
  obtain ⟨facts, rfl⟩ := (run_pure _ _ _ _).mp ran
  obtain ⟨same, others⟩ := Prod.mk.inj facts
  obtain ⟨written, temps⟩ := Prod.mk.inj others
  obtain ⟨block, current, instructions⟩ := ok_of_map written
  exact ⟨locals, entered, locations, middle, third, last, block, begins, mapped, declared, closed,
    same, current, instructions, temps⟩

/-- The names get four locations, but one of them is no slot, and no two locals share theirs. -/
theorem locals_apart_reserving :
    ∃ (start middle third last : Activation) (locations : List Value) (first second : Binding)
      (block : Block), reservingJob.During ⟨0⟩ ⟨1⟩ start ∧
      first.pattern.names = [⟨3⟩, ⟨4⟩, ⟨5⟩, ⟨3⟩] ∧
      first.pattern.names.mapM reservingFrame.emitLocalVar start = .ok locations middle ∧
      locations = [Value.temp 1 (.address .int), Value.error (.address .error),
        Value.temp 2 (.address .bool), Value.temp 3 (.address .int)] ∧
      reservingFrame.Reserves first.pattern.names start locations middle ∧
      second.initializer.isSome = true ∧
      reservingFrame.emitBinding second middle = .ok () third ∧
      (∃ slots between opened longer,
        second.pattern.names.mapM reservingFrame.emitLocalVar middle = .ok slots between ∧
        third.locals = between.locals ∧ between.pass.builder.currentBlock = .ok opened ∧
        third.pass.builder.currentBlock = .ok longer ∧
        opened.instructions <+: longer.instructions) ∧
      reservingJob.Reaches ⟨0⟩ ⟨1⟩ last ∧
      [2, 3, 4, 5, 7, 9].map (fun id => (last.locals.get? ⟨id⟩).bind Value.temp?) =
        [some 0, some 3, none, some 2, some 4, some 5] ∧
      last.locals.Apart ∧ middle.pass.builder.currentBlock = .ok block ∧
      ∃ (next : Machine) (cell apart : Nat),
        (block.enter []).exec block.instructions = some next ∧
        next.word? (Value.temp 3 (.address .int)) = some (.address cell []) ∧
        next.word? (Value.temp 2 (.address .bool)) = some (.address apart []) ∧ cell ≠ apart ∧
        ∀ value last, next.step (.store value (Value.temp 3 (.address .int))) = some last →
          last.cells[apart]? = next.cells[apart]? := by
  have filled : (Frame.routine reservingFrame).toOption.map Routine.isFilled = some true := by
    decide +kernel
  obtain ⟨decl, first, found, kind, names, _⟩ :=
    @Program.binding_of_seen reservingJob.program ⟨6⟩ [⟨3⟩, ⟨4⟩, ⟨5⟩, ⟨3⟩] false (by decide +kernel)
  obtain ⟨again, second, found_too, kind_too, _, initialized⟩ :=
    @Program.binding_of_seen reservingJob.program ⟨8⟩ [⟨7⟩] true (by decide +kernel)
  obtain ⟨main, located, members⟩ :=
    @Program.module_of_seen reservingJob.program ⟨0⟩ [⟨1⟩] (by decide +kernel)
  have calls : reservingJob.Calls ⟨0⟩ (21 + 1) ⟨1⟩ (Pass.start Options.standard) := by
    have limit : reservingJob.nestingLimit = 21 + 1 := by decide +kernel
    rw [← limit]
    exact .member located (show main.kind = .module ([] ++ ⟨1⟩ :: []) from members) rfl
  obtain ⟨locals, entered, _, middle, third, last, block, begins, mapped, declared, closed, rfl,
    current, instructions, temps⟩ := reserving_run
  have during : reservingJob.During ⟨0⟩ ⟨1⟩ ⟨entered, locals⟩ := .of_begins calls filled begins
  have going : reservingJob.During ⟨0⟩ ⟨1⟩ middle := during.mapM _ mapped
  have reached := ((going.declared declared).declared closed).reaches
  have emitted : reservingFrame.emitBinding second middle = .ok () third := by
    obtain ⟨own, asked, done⟩ := (run_ask_bind _ _ _ _ _).mp declared
    obtain rfl := Except.ok.inj (found_too.symm.trans ((lift_answer _ _).mp asked))
    rwa [kind_too] at done
  obtain ⟨apart, binds, stores⟩ := locals_apart reservingJob ⟨0⟩ ⟨1⟩
  have reserves := (binds _ during ⟨6⟩ decl first found kind).2.1 _ _ (names ▸ mapped)
  obtain ⟨_, _, _, bound, _⟩ := id reserves
  rw [names] at bound
  obtain ⟨cell, other, place, place_other, differ, keeps⟩ :=
    stores middle going block current ⟨3⟩ ⟨5⟩ (Value.temp 3 (.address .int))
      (Value.temp 2 (.address .bool)) (by decide) (by rw [bound]; rfl) (by rw [bound]; rfl)
      ⟨3, .int, rfl, by rw [instructions]; decide⟩ ⟨2, .bool, rfl, by rw [instructions]; decide⟩
      [] (block.enter []) _ (by rw [instructions]; decide)
      (Machine.performsAll_of_exec (by rw [instructions, List.append_nil]; rfl))
  exact ⟨_, middle, third, last, _, first, second, block, during, names, names ▸ mapped, rfl, reserves,
    initialized, emitted, (binds middle going ⟨8⟩ again second found_too kind_too).2.2 third emitted,
    reached, temps, apart last reached, current, _, cell, other, by rw [instructions]; rfl, place,
    place_other, differ, keeps⟩

end Lowering
