import Lowering.Proofs.Configuration
import Lowering.Proofs.Pass.Trimming
import Lowering.Proofs.Program.Capturing
import Lowering.Proofs.Termination

/-
This file shows that what is never executed has no influence on the code, unless a function captures
something only there. Captures are looked for anywhere in a body, and so they are the only way.
-/

namespace Lowering

open IR

/-- The warning for code that is never executed. -/
def Diagnostic.isUnreachable (diagnostic : Diagnostic) : Bool :=
  diagnostic == (Finding.unreachable diagnostic.span).diagnostic

/-- The diagnostics without the warnings for code that is never executed. -/
def Report.withoutUnreachable (report : Report) : List Diagnostic :=
  report.diagnostics.filter (!·.isUnreachable)

/-- All other findings are errors. -/
theorem Finding.isUnreachable_eq (finding : Finding) :
    (!finding.diagnostic.isUnreachable) = finding.diagnostic.isError := by
  cases finding <;> simp [Diagnostic.isUnreachable, Diagnostic.isError, diagnostic]

theorem lower_ofFindings {program : Program} {id : DeclId} {options : Options} {lowered : Lowered}
    (done : lower program id options = .ok lowered) : lowered.report.OfFindings := by
  have start : (reporting ⟨program, options⟩).Holds (Pass.start options) :=
    fun _ impossible => nomatch impossible
  obtain ⟨pass, listed, _, report, _⟩ := (reporting ⟨program, options⟩).lower start done
  exact report ▸ listed

theorem Report.OfFindings.withoutUnreachable {report : Report} (listed : report.OfFindings) :
    report.withoutUnreachable = report.diagnostics.filter Diagnostic.isError := by
  refine List.filter_congr fun diagnostic inside => ?_
  obtain ⟨finding, rfl⟩ := listed diagnostic inside
  exact finding.isUnreachable_eq

theorem Lowered.Agrees.module_eq {first second : Options} {left right : Lowered}
    (agrees : left.Agrees first second right) (named : left.module.name = right.module.name) :
    left.module = right.module := by
  obtain ⟨⟨name, functions, tables⟩, report⟩ := left
  obtain ⟨⟨other, own, others⟩, again⟩ := right
  obtain rfl : name = other := named
  obtain rfl : own = functions := agrees.functions
  obtain rfl : others = tables := agrees.witnessTables
  rfl

section Inside

variable {program : Program} {nested : List DeclId → DeclId → Answer (List DeclId)} {root : DeclId}

mutual

/-- Whoever looks for captures looks up every declaration in a statement. -/
theorem Program.inside_of_captureStmt (stmt : Stmt) {found captures : List DeclId}
    (captured : program.captureStmt nested root found stmt = .ok captures) :
    ∀ id ∈ stmt.locals, id.index < program.size := by
  cases stmt with
  | decl id =>
    intro inner listed
    obtain rfl := List.mem_singleton.mp listed
    obtain ⟨decl, present, _⟩ := (check_bind _ _ _).mp captured
    exact lt_of_find? (decl_eq_ok.mp present)
  | block stmts span => exact inside_of_captureStmts stmts captured
  | returned value span | expr value => exact fun _ impossible => nomatch impossible

theorem Program.inside_of_captureStmts (stmts : List Stmt) {found captures : List DeclId}
    (captured : program.captureStmts nested root found stmts = .ok captures) :
    ∀ id ∈ Stmt.localsAll stmts, id.index < program.size := by
  cases stmts with
  | nil => exact fun _ impossible => nomatch impossible
  | cons stmt rest =>
    obtain ⟨between, first, later⟩ := (check_bind _ _ _).mp captured
    intro id listed
    exact (List.mem_append.mp listed).elim (inside_of_captureStmt stmt first id)
      (inside_of_captureStmts rest later id)

end

/-- A function is only filled when its captures are known. -/
theorem Program.sitedInside (program : Program) : program.SitedInside := by
  rintro owner captures captured id ⟨decl, routine, body, found, holds, given, inside⟩
  obtain ⟨answer, present, captured⟩ := (check_bind _ _ _).mp captured
  obtain ⟨own, again, same⟩ := (check_bind _ _ _).mp present
  obtain rfl := Option.some.inj (found.symm.trans (decl_eq_ok.mp again))
  obtain rfl := (check_pure _ _).mp same
  rw [holds, Option.bind_some, given] at captured
  exact inside_of_captureStmts body.stmts captured id inside

end Inside

/--
Code that is never executed has no influence on the module and its errors. Where a function without
that code has the same captures, and every function around it too, a program is lowered as it is
without that code, but for the warnings.
-/
theorem lower_trimmed {program : Program} {function : DeclId}
    (spares : program.Spares function) (id : DeclId) (options : Options) :
    (∃ abort, lower program id options = .error abort ∧
      lower (program.trimmed function) id options = .error abort) ∨
    ∃ left right, lower program id options = .ok left ∧
      lower (program.trimmed function) id options = .ok right ∧ right.module = left.module ∧
      right.report.withoutUnreachable = left.report.withoutUnreachable := by
  let mute : Options := ⟨options.moduleName, false⟩
  have same : lower (program.trimmed function) id mute = lower program id mute := by
    unfold lower
    dsimp only
    rw [Job.emitModule_trimmed spares rfl]
  have muted (program : Program) :
      (∃ abort, lower program id options = .error abort ∧ lower program id mute = .error abort) ∨
      ∃ lowered silent, lower program id options = .ok lowered ∧
        lower program id mute = .ok silent ∧ lowered.module = silent.module ∧
        lowered.report.withoutUnreachable = silent.report.withoutUnreachable := by
    obtain stopped | ⟨lowered, silent, done, last, name, named, agrees⟩ :=
      lower_agrees program.sitedInside id options mute
    · exact Or.inl stopped
    refine Or.inr ⟨lowered, silent, done, last, ?_, ?_⟩
    · exact agrees.module_eq (name.trans named.symm)
    rw [(lower_ofFindings done).withoutUnreachable, (lower_ofFindings last).withoutUnreachable]
    cases asked : options.warnsUnreachable with
    | false => rw [agrees.equal asked]
    | true => simp [agrees.silenced asked rfl]
  obtain ⟨abort, stops, halts⟩ | ⟨left, silent, done, last, module, report⟩ := muted program
  · obtain ⟨other, stopped, halted⟩ | ⟨_, _, _, runs, _⟩ := muted (program.trimmed function)
    · rw [same, halts] at halted
      obtain rfl := Except.error.inj halted
      exact Or.inl ⟨abort, stops, stopped⟩
    · exact nomatch (same.trans halts).symm.trans runs
  · obtain ⟨_, _, halted⟩ | ⟨right, quiet, ran, ends, module_again, report_again⟩ :=
      muted (program.trimmed function)
    · exact nomatch (same.trans last).symm.trans halted
    · obtain rfl := Except.ok.inj ((same.trans last).symm.trans ends)
      exact Or.inr ⟨left, right, done, ran, module_again.trans module.symm,
        report_again.trans report.symm⟩

open Assembly in
/-- A nested function that refers to a parameter after the return and, if so told, before it. -/
def lingering (before : Bool) : Assembly Unit := do
  let main ← addModule "main"
  let outer ← addFunction main "outer" [⟨none, "x", .int⟩] .unit
  let inner ← addFunction outer "inner" [] .unit
  let captured ← ask (·.refExpr ⟨outer.index + 1⟩ Span.unknown)
  let ending := Stmt.block [.returned none Span.unknown, .expr captured] Span.unknown
  let rest := [ending, .expr captured]
  setBody inner ⟨if before then .expr captured :: rest else rest, Span.unknown⟩
  setBody outer ⟨[.decl inner], Span.unknown⟩

/-- A capture that is known before the return stays, and so does the code. -/
theorem lower_trimmed_lingering :
    (lingering true).built.Spares ⟨3⟩ ∧ ∃ left right,
      lower (lingering true).built ⟨0⟩ Options.standard = .ok left ∧
      lower ((lingering true).built.trimmed ⟨3⟩) ⟨0⟩ Options.standard = .ok right ∧
      left.report.diagnostics.map Diagnostic.severity = [.warning] ∧ right.report.diagnostics = [] ∧
      right.module = left.module ∧
      right.report.withoutUnreachable = left.report.withoutUnreachable := by
  have spares : (lingering true).built.Spares ⟨3⟩ := by decide +kernel
  have warned : (lower (lingering true).built ⟨0⟩ Options.standard).toOption.map
      (·.report.diagnostics.map Diagnostic.severity) = some [.warning] := by
    decide +kernel
  have silent : (lower ((lingering true).built.trimmed ⟨3⟩) ⟨0⟩ Options.standard).toOption.map
      (·.report.diagnostics) = some [] := by
    decide +kernel
  obtain ⟨left, done, voiced⟩ := ok_of_map warned
  obtain ⟨right, ran, quiet⟩ := ok_of_map silent
  obtain ⟨abort, stopped, _⟩ | ⟨first, second, lowered, again, module, report⟩ :=
    lower_trimmed spares ⟨0⟩ Options.standard
  · exact nomatch done.symm.trans stopped
  · obtain rfl := Except.ok.inj (done.symm.trans lowered)
    obtain rfl := Except.ok.inj (ran.symm.trans again)
    exact ⟨spares, left, right, done, ran, voiced, quiet, module, report⟩

/-- A parameter that is only referred to after the return is captured, and the signature tells. -/
theorem lingering_disagrees : ∃ left right,
    lower (lingering false).built ⟨0⟩ Options.standard = .ok left ∧
    lower ((lingering false).built.trimmed ⟨3⟩) ⟨0⟩ Options.standard = .ok right ∧
    left.module.functions.map (fun function => (function.name, function.signature.params.length)) =
      [("outer", 1), ("outer.inner", 1)] ∧
    right.module.functions.map (fun function => (function.name, function.signature.params.length)) =
      [("outer", 1), ("outer.inner", 0)] ∧ right.module ≠ left.module := by
  have kept : (lower (lingering false).built ⟨0⟩ Options.standard).toOption.map
      (·.module.functions.map fun function => (function.name, function.signature.params.length)) =
        some [("outer", 1), ("outer.inner", 1)] := by
    decide +kernel
  have cut : (lower ((lingering false).built.trimmed ⟨3⟩) ⟨0⟩ Options.standard).toOption.map
      (·.module.functions.map fun function => (function.name, function.signature.params.length)) =
        some [("outer", 1), ("outer.inner", 0)] := by
    decide +kernel
  obtain ⟨left, done, first⟩ := ok_of_map kept
  obtain ⟨right, ran, second⟩ := ok_of_map cut
  refine ⟨left, right, done, ran, first, second, fun same => ?_⟩
  rw [same, first] at second
  exact absurd second (by decide)

end Lowering
