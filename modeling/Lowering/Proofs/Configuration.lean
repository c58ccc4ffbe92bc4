import Lowering.Proofs.Program.Assembled
import Lowering.Proofs.Tandem.Declaration

/-
This file lowers one program under two options. They name the module and may silence the warnings;
the code is the same.
-/

namespace Lowering

open IR

/-- Every declaration that a function body names is there, if the function is ever filled. -/
def Program.SitedInside (program : Program) : Prop :=
  ∀ owner captures, program.captures owner = .ok captures →
    ∀ id, program.DeclaredIn owner id → id.index < program.size

theorem Program.Sited.inside {program : Program} (sited : program.Sited) : program.SitedInside := by
  rintro owner captures _ id ⟨decl, routine, body, found, holds, given, inside⟩
  exact sited decl (mem_decls found) routine holds body given id inside

/-- The findings that the options let through, in order. -/
def Options.shown (options : Options) (findings : List Diagnostic) : List Diagnostic :=
  if options.warnsUnreachable then findings else findings.filter Diagnostic.isError

/-- Two reports show the same findings, each under its own options. -/
def Report.Conforms (first second : Options) (report other : Report) : Prop :=
  ∃ findings, report.diagnostics = first.shown findings ∧ other.diagnostics = second.shown findings

namespace Report.Conforms

variable {first second : Options} {report other : Report}

theorem add_error (conforms : report.Conforms first second other) {diagnostic : Diagnostic}
    (error : diagnostic.isError = true) :
    (report.add diagnostic).Conforms first second (other.add diagnostic) := by
  obtain ⟨findings, shown, visible⟩ := conforms
  have added (options : Options) :
      options.shown (findings ++ [diagnostic]) = options.shown findings ++ [diagnostic] := by
    unfold Options.shown
    split <;> simp [error]
  exact ⟨findings ++ [diagnostic], by rw [added, ← shown]; rfl, by rw [added, ← visible]; rfl⟩

/-- A warning is added where the options ask for it. -/
theorem add_warning (conforms : report.Conforms first second other) {diagnostic : Diagnostic}
    (warning : diagnostic.isError = false) :
    (if first.warnsUnreachable then report.add diagnostic else report).Conforms first second
      (if second.warnsUnreachable then other.add diagnostic else other) := by
  obtain ⟨findings, shown, visible⟩ := conforms
  have added (options : Options) {report : Report}
      (shown : report.diagnostics = options.shown findings) :
      (if options.warnsUnreachable then report.add diagnostic else report).diagnostics =
        options.shown (findings ++ [diagnostic]) := by
    unfold Options.shown at shown ⊢
    split at shown
    next asked => simp [asked, shown, add]
    next mute => simp [mute, shown, warning]
  exact ⟨findings ++ [diagnostic], added first shown, added second visible⟩

theorem symm (conforms : report.Conforms first second other) :
    other.Conforms second first report := by
  obtain ⟨findings, shown, visible⟩ := conforms
  exact ⟨findings, visible, shown⟩

theorem equal (conforms : report.Conforms first second other)
    (alike : first.warnsUnreachable = second.warnsUnreachable) : other = report := by
  obtain ⟨findings, shown, visible⟩ := conforms
  have same : other.diagnostics = report.diagnostics := by
    rw [shown, visible, Options.shown, Options.shown, alike]
  cases report
  cases other
  exact congrArg Report.mk same

theorem silenced (conforms : report.Conforms first second other)
    (asked : first.warnsUnreachable = true) (mute : second.warnsUnreachable = false) :
    other.diagnostics = report.diagnostics.filter Diagnostic.isError := by
  obtain ⟨findings, shown, visible⟩ := conforms
  rw [shown, visible, Options.shown, Options.shown, asked, mute]
  rfl

end Report.Conforms

/-- The builders of two modules that differ only in their names. -/
def renamed (name other : String) : Coupling Builder where
  Relates builder peer := ∃ functions tables cursor,
    builder = ⟨⟨name, functions, tables⟩, cursor⟩ ∧ peer = ⟨⟨other, functions, tables⟩, cursor⟩
  Excused _ := False
  Strict := True
  firm _ _ := id

namespace renamed

variable {own other : String}

/-- What follows a look at the builder sees the same functions and the same insertion point. -/
theorem get_bind {A : Type} {next : Builder → BuildM A}
    (rest : ∀ functions tables cursor,
      Couples (renamed own other) (next ⟨⟨own, functions, tables⟩, cursor⟩)
        (next ⟨⟨other, functions, tables⟩, cursor⟩)) :
    Couples (renamed own other) (get >>= next) (get >>= next) := by
  refine .get_bind trivial ?_
  rintro builder peer ⟨functions, tables, cursor, rfl, rfl⟩
  exact rest functions tables cursor

theorem modify {change : Builder → Builder}
    (kept : ∀ functions tables cursor,
      (renamed own other).Relates (change ⟨⟨own, functions, tables⟩, cursor⟩)
        (change ⟨⟨other, functions, tables⟩, cursor⟩)) :
    Couples (E := BuildError) (renamed own other) (modify change) (modify change) := by
  refine Couples.modify (fun _ free => free.elim) ?_
  rintro builder peer ⟨functions, tables, cursor, rfl, rfl⟩
  exact kept functions tables cursor

theorem requireFunction (name : String) :
    Couples (renamed own other) (BuildM.requireFunction name) (BuildM.requireFunction name) := by
  refine get_bind fun functions tables cursor => ?_
  dsimp only [Module.function?]
  cases functions.find? (·.name == name) with
  | some function => exact .pure function
  | none => exact .throw _

theorem requireCursor : Couples (renamed own other) BuildM.requireCursor BuildM.requireCursor := by
  refine get_bind fun functions tables cursor => ?_
  cases cursor with
  | some cursor => exact .pure cursor
  | none => exact .throw _

theorem modifyFunction (name : String) (change : Function → Function) :
    Couples (renamed own other) (BuildM.modifyFunction name change) (BuildM.modifyFunction name change) :=
  modify fun _ _ _ => ⟨_, _, _, rfl, rfl⟩

theorem setCursor (cursor : Option Cursor) :
    Couples (renamed own other) (BuildM.setCursor cursor) (BuildM.setCursor cursor) :=
  modify fun _ _ _ => ⟨_, _, _, rfl, rfl⟩

theorem addWitnessTable (table : WitnessTable) :
    Couples (renamed own other) (BuildM.addWitnessTable table) (BuildM.addWitnessTable table) :=
  modify fun _ _ _ => ⟨_, _, _, rfl, rfl⟩

theorem append (instruction : Instruction) :
    Couples (renamed own other) (BuildM.append instruction) (BuildM.append instruction) := by
  refine .bind requireCursor fun cursor => .bind (requireFunction cursor.function) fun function => ?_
  cases function.block? cursor.block with
  | none => exact .throw _
  | some block =>
    dsimp only
    split
    · exact .throw _
    · exact modifyFunction _ _

theorem define (type : OperandType) (instruction : TempId → Instruction) :
    Couples (renamed own other) (BuildM.define type instruction) (BuildM.define type instruction) := by
  have taken : Couples (renamed own other) BuildM.takeTemp BuildM.takeTemp := by
    refine .bind requireCursor fun cursor =>
      .bind (requireFunction cursor.function) fun function => ?_
    exact .bind (modifyFunction _ _) fun _ => .pure _
  exact .bind taken fun result => .bind (append _) fun _ => .pure _

theorem getOrCreateFunction (name : String) (signature : Signature) :
    Couples (renamed own other) (BuildM.getOrCreateFunction name signature)
      (BuildM.getOrCreateFunction name signature) := by
  refine get_bind fun functions tables cursor => ?_
  dsimp only [Module.function?]
  cases functions.find? (·.name == name) with
  | none => exact .bind (modify fun _ _ _ => ⟨_, _, _, rfl, rfl⟩) fun _ => .pure _
  | some existing =>
    dsimp only
    split
    · exact .throw _
    · exact .pure _

theorem createBlock (name : String) (params : List OperandType) :
    Couples (renamed own other) (BuildM.createBlock name params) (BuildM.createBlock name params) := by
  refine .bind (requireFunction name) fun function => ?_
  exact .bind (modifyFunction _ _) fun _ => .pure _

end renamed

/-- Two passes under different options have done the same, and show the same findings. -/
def configured (first second : Options) : Coupling Pass where
  Relates pass peer :=
    (renamed first.moduleName second.moduleName).Relates pass.builder peer.builder ∧
    peer.names = pass.names ∧ pass.report.Conforms first second peer.report
  Excused _ := False
  Strict := True
  firm _ _ := id

namespace configured

variable {A : Type} {first second : Options}

theorem build {step : BuildM A}
    (coupled : Couples (renamed first.moduleName second.moduleName) step step) :
    (configured first second).Builds step where
  excused _ _ _ free _ := free
  answers before peer related := by
    obtain ⟨related, same, conforms⟩ := related
    have answered := coupled.answers before.builder peer.builder related
    cases ran : step before.builder with
    | ok value builder =>
      rw [ran] at answered
      rw [(lift_build step before _ value).mpr ⟨builder, ran, rfl⟩]
      obtain free | ⟨result, last, answer, yields, kept⟩ := answered
      · exact free.elim
      · exact Or.inr ⟨result, _, (lift_build step peer _ result).mpr ⟨last, answer, rfl⟩, yields,
          kept, same, conforms⟩
    | error error builder =>
      rw [ran] at answered
      rw [(lift_build_error step before _ _).mpr ⟨error, builder, ran, rfl, rfl⟩]
      intro strict
      obtain ⟨last, stopped⟩ := answered strict
      exact ⟨_, (lift_build_error step peer _ _).mpr ⟨error, last, stopped, rfl, rfl⟩⟩

/-- Names are given alike. -/
theorem name (step : NamesM A) :
    Couples (configured first second) (liftM step : PassM A) (liftM step) where
  excused _ _ _ free _ := free
  answers before peer related := by
    obtain ⟨related, same, conforms⟩ := related
    cases ran : step before.names with
    | ok value names =>
      rw [(lift_names step before _ value).mpr ⟨names, ran, rfl⟩]
      rw [← same] at ran
      exact Or.inr ⟨value, _, (lift_names step peer _ value).mpr ⟨names, ran, rfl⟩, rfl, related,
        rfl, conforms⟩
    | error error names =>
      rw [(lift_names_error step before _ _).mpr ⟨error, names, ran, rfl, rfl⟩]
      rw [← same] at ran
      exact fun _ => ⟨_, (lift_names_error step peer _ _).mpr ⟨error, names, ran, rfl, rfl⟩⟩

theorem report {finding : Finding} (error : finding.diagnostic.isError = true) :
    Couples (configured first second) (PassM.report finding) (PassM.report finding) :=
  Couples.modify (fun _ free => free) fun _ _ ⟨related, same, conforms⟩ =>
    ⟨related, same, conforms.add_error error⟩

/-- A warning is given on the sides that ask for it. -/
theorem warn {finding : Finding} (warning : finding.diagnostic.isError = false) :
    Couples (configured first second)
      (if first.warnsUnreachable then PassM.report finding else pure ())
      (if second.warnsUnreachable then PassM.report finding else pure ()) where
  excused _ _ _ free _ := free
  answers before peer related := by
    obtain ⟨related, same, conforms⟩ := related
    have warned (options : Options) (pass : Pass) :
        (if options.warnsUnreachable then PassM.report finding else pure ()) pass =
          .ok () { pass with report :=
            if options.warnsUnreachable then pass.report.add finding.diagnostic
            else pass.report } := by
      split <;> rfl
    rw [warned first, warned second]
    exact Or.inr ⟨(), _, rfl, rfl, related, same, conforms.add_warning warning⟩

end configured

/-- The two lowerings are coupled. -/
def configuring (program : Program) (first second : Options) :
    Tandem ⟨program, first⟩ ⟨program, second⟩ where
  toCoupling := configured first second
  programs := .refl program
  terminated := by
    rintro ⟨builder, _⟩ ⟨peer, _⟩ ⟨⟨functions, tables, cursor, rfl, rfl⟩, _⟩
    rfl
  define type instruction := configured.build (renamed.define type instruction)
  append instruction := configured.build (renamed.append instruction)
  report _ error := configured.report error
  declare id := by
    refine .bind (configured.name (NamesM.functionName program id)) fun name => ?_
    refine .check_bind (Job.signature ⟨program, first⟩ id) fun signature _ => ?_
    exact configured.build (renamed.getOrCreateFunction name signature)
  Sited id := id.index < program.size
  warn owner stmt placed := by
    have found : ∃ span, Frame.stmtSpan program stmt = .ok span := by
      cases stmt with
      | decl id =>
        obtain ⟨decl, found⟩ : ∃ decl, program.decls[id.index]? = some decl :=
          ⟨_, Array.getElem?_eq_getElem (placed id rfl)⟩
        exact ⟨decl.span, by simp [Frame.stmtSpan, Program.decl, Program.find?, found]⟩
      | block stmts span => exact ⟨span, rfl⟩
      | returned value span => exact ⟨span, rfl⟩
      | expr expr => exact ⟨expr.span, rfl⟩
    obtain ⟨span, found⟩ := found
    have warned (options : Options) : Frame.warnUnreachable ⟨⟨program, options⟩, owner⟩ stmt =
        liftM (if options.warnsUnreachable then PassM.report (.unreachable span)
          else pure () : PassM Unit) := by
      unfold Frame.warnUnreachable
      dsimp only
      split
      · rw [found]
        rfl
      · rfl
    rw [warned first, warned second]
    exact .lift (configured.warn rfl)

namespace configuring

variable {program : Program} (first second : Options)

/-- The functions, the tables and the findings are there on both sides, wherever these stand. -/
theorem withCursor {before peer after last : Pass}
    (related : (configured first second).Relates before peer)
    (settled : (configured first second).Relates after last) :
    (configured first second).Relates (after.withCursor before.builder.cursor)
      (last.withCursor peer.builder.cursor) := by
  obtain ⟨_, _, cursor, same, again⟩ := related.1
  obtain ⟨⟨functions, tables, _, left, right⟩, settled⟩ := settled
  refine ⟨⟨functions, tables, cursor, ?_, ?_⟩, settled⟩
  · rw [Pass.withCursor, left, same]
  · rw [Pass.withCursor, right, again]

theorem emitWitness (implementation requirement : DeclId) :
    Couples (configured first second)
      (Job.emitWitness ⟨program, first⟩ implementation requirement)
      (Job.emitWitness ⟨program, second⟩ implementation requirement) := by
  let tandem := configuring program first second
  refine .ask_bind (program.decl requirement) fun required _ => ?_
  cases required.routine? with
  | none => exact .abort _
  | some requiredRoutine =>
    refine .ask_bind (program.decl implementation) fun implementing _ => ?_
    cases implementing.routine? with
    | none => exact .abort _
    | some routine =>
      refine .bind (configured.name (NamesM.thunkName program implementation requirement))
        fun name => ?_
      refine .ask_bind (program.unappliedType requirement) fun unapplied _ => ?_
      refine .bind (.discard (configured.build (renamed.getOrCreateFunction name _))) fun _ => ?_
      refine .bind (.restoring (fun _ _ free => free)
        (fun _ _ _ _ => withCursor first second) ?_) fun _ => .pure _
      refine .bind (configured.build (renamed.createBlock name _)) fun entry => ?_
      refine .bind (configured.build (renamed.setCursor _)) fun _ => ?_
      exact tandem.forward name _ requiredRoutine routine implementation entry.2

variable (sited : program.SitedInside)

include sited

theorem emitRoutine {nested other : DeclId → PassM Unit}
    (below : ∀ id, Couples (configured first second) (nested id) (other id)) (id : DeclId) :
    Couples (configured first second) (Job.emitRoutine ⟨program, first⟩ nested id)
      (Job.emitRoutine ⟨program, second⟩ other id) := by
  let tandem := configuring program first second
  refine .ask_bind (program.decl id) fun decl found => ?_
  cases declares : decl.routine? with
  | none => exact .abort _
  | some routine =>
    dsimp only
    split
    · exact .pure _
    refine .bind (.discard (tandem.declare id)) fun _ => ?_
    refine .bind (configured.name (NamesM.functionName program id)) fun name => ?_
    split
    · exact .pure _
    refine .get_bind trivial ?_
    rintro pass peer ⟨⟨functions, tables, cursor, left, right⟩, _⟩
    have same : peer.builder.module.function? name = pass.builder.module.function? name := by
      rw [left, right]
      rfl
    rw [same]
    cases pass.builder.module.function? name with
    | none => exact .abort _
    | some function =>
      dsimp only
      split
      · exact .abort_bind _ _ _
      refine .restoring (fun _ _ free => free) (fun _ _ _ _ => withCursor first second) ?_
      refine .bind (configured.build (renamed.createBlock name _)) fun entry => ?_
      refine .bind (configured.build (renamed.setCursor _)) fun _ => ?_
      simp only [Job.bindEntry, bind_assoc]
      refine .bind (tandem.bindReceiver name routine entry.2) fun bound => ?_
      refine .ask_bind (program.captures id) fun captures captured => ?_
      rw [Job.bindArguments_of_kindred tandem.programs.kindred]
      refine .check_bind _ fun locals _ => ?_
      refine Accompanies.activate locals (tandem.emitBody below routine fun body given inner inside =>
        sited id captures captured inner ?_)
      exact ⟨decl, routine, body, Program.decl_eq_ok.mp found, declares, given, inside⟩

theorem emitWithin (levels : Nat) (id : DeclId) :
    Couples (configured first second) (Job.emitWithin ⟨program, first⟩ levels id)
      (Job.emitWithin ⟨program, second⟩ levels id) := by
  induction levels generalizing id with
  | zero => exact .throw _
  | succ levels levels_ih =>
    refine .emitLevel (.refl program) levels_ih (emitRoutine first second sited levels_ih)
      (Couples.emitConformance (.refl program) (emitWitness first second) fun table =>
        configured.build (renamed.addWitnessTable table)) ?_ id
    intro id decl peer members others found again kind kind_again _
    obtain rfl := Option.some.inj (found.symm.trans again)
    obtain rfl := DeclKind.module.inj (kind.symm.trans kind_again)
    exact .forM _ fun member _ => levels_ih member

theorem emitModule (id : DeclId) :
    Couples (configured first second) (Job.emitModule ⟨program, first⟩ id)
      (Job.emitModule ⟨program, second⟩ id) := by
  refine .ask_bind (program.decl id) fun decl _ => ?_
  cases decl.kind with
  | module members => exact .forM _ fun member _ => emitWithin first second sited _ member
  | _ => exact .abort _

end configuring

/-- The same code under two options, and the findings that each of them lets through. -/
structure Lowered.Agrees (first second : Options) (left right : Lowered) : Prop where
  functions : right.module.functions = left.module.functions
  witnessTables : right.module.witnessTables = left.module.witnessTables
  equal : first.warnsUnreachable = second.warnsUnreachable → right.report = left.report
  silenced : first.warnsUnreachable = true → second.warnsUnreachable = false →
    right.report.diagnostics = left.report.diagnostics.filter Diagnostic.isError
  voiced : second.warnsUnreachable = true → first.warnsUnreachable = false →
    left.report.diagnostics = right.report.diagnostics.filter Diagnostic.isError

/-- Options are only asked for the name of the module and for warnings. -/
theorem lower_agrees {program : Program} (sited : program.SitedInside) (id : DeclId)
    (first second : Options) :
    (∃ abort, lower program id first = .error abort ∧ lower program id second = .error abort) ∨
      ∃ left right, lower program id first = .ok left ∧ lower program id second = .ok right ∧
        left.module.name = first.moduleName ∧ right.module.name = second.moduleName ∧
        left.Agrees first second right := by
  have start : (configured first second).Relates (Pass.start first) (Pass.start second) := by
    refine ⟨⟨_, _, _, rfl, rfl⟩, rfl, [], ?_, ?_⟩ <;>
      simp [Pass.start, Report.empty, Options.shown]
  have answered := (configuring.emitModule first second sited id).answers _ _ start
  cases ran : Job.emitModule ⟨program, first⟩ id (Pass.start first) with
  | error abort pass =>
    rw [ran] at answered
    obtain ⟨last, stopped⟩ := answered trivial
    exact Or.inl ⟨abort, by rw [lower, ran], by rw [lower, stopped]⟩
  | ok value pass =>
    rw [ran] at answered
    obtain free | ⟨_, last, answer, _, ⟨functions, tables, cursor, left, right⟩, _, conforms⟩ :=
      answered
    · exact free.elim
    refine Or.inr ⟨_, _, by rw [lower, ran], by rw [lower, answer], ?_, ?_, ?_, ?_,
      conforms.equal, conforms.silenced, conforms.symm.silenced⟩
    all_goals simp [left, right]

/--
Options never change the code. Two lowerings of a program abort alike, or they return modules with
the same functions and witness tables. Their reports are the same, but for the warnings where only
one of them gives these.
-/
theorem lower_configured {program : Program} (sited : program.Sited) (id : DeclId)
    (first second : Options) :
    (∃ abort, lower program id first = .error abort ∧ lower program id second = .error abort) ∨
      ∃ left right, lower program id first = .ok left ∧ lower program id second = .ok right ∧
        left.module.name = first.moduleName ∧ right.module.name = second.moduleName ∧
        left.Agrees first second right :=
  lower_agrees sited.inside id first second

open Assembly in
/-- A function with a reference that fails, and an expression that is never executed. -/
def overrunning : Assembly Unit := do
  let main ← addModule "main"
  let function ← addFunction main "f" [] .unit
  let unbound ← addVariable function "x" .unit
  let failing := Expr.ref ⟨.unit, Span.unknown⟩ unbound
  let ending := Stmt.block [.returned none Span.unknown] Span.unknown
  setBody function ⟨[.expr failing, ending, .expr failing], Span.unknown⟩

/-- The warning comes after the error, and it is the only thing that is silenced. -/
theorem lower_configured_overrunning :
    overrunning.built.Sited ∧ ∃ left right,
      lower overrunning.built ⟨0⟩ ⟨"a", true⟩ = .ok left ∧
      lower overrunning.built ⟨0⟩ ⟨"b", false⟩ = .ok right ∧
      left.report.diagnostics.map Diagnostic.severity = [.error, .warning] ∧
      right.report.diagnostics.map Diagnostic.severity = [.error] ∧
      left.Agrees ⟨"a", true⟩ ⟨"b", false⟩ right := by
  have sited : overrunning.built.Sited := by decide +kernel
  have seen : (lower overrunning.built ⟨0⟩ ⟨"a", true⟩).toOption.map
      (fun lowered => lowered.report.diagnostics.map Diagnostic.severity) =
        some [.error, .warning] := by
    decide +kernel
  obtain ⟨left, done, voiced⟩ := ok_of_map seen
  obtain ⟨abort, stopped, _⟩ | ⟨same, right, again, last, _, _, agrees⟩ :=
    lower_configured sited ⟨0⟩ ⟨"a", true⟩ ⟨"b", false⟩
  · rw [done] at stopped
    cases stopped
  · obtain rfl := Except.ok.inj (done.symm.trans again)
    refine ⟨sited, left, right, done, last, voiced, ?_, agrees⟩
    rw [agrees.silenced rfl rfl]
    obtain ⟨first, rest, found, error, tail⟩ := List.map_eq_cons_iff.mp voiced
    obtain ⟨second, others, listed, warning, none⟩ := List.map_eq_cons_iff.mp tail
    obtain rfl := List.map_eq_nil_iff.mp none
    simp [found, listed, Diagnostic.isError, error, warning]

end Lowering
