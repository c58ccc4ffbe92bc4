import Lowering.Proofs.Filling
import Lowering.Proofs.Naming
import Lowering.Proofs.Order.Level

/-
This file lowers a module whose members are listed in another order. The same functions, witness
tables and findings come out, in another order too.
-/

namespace Lowering

open IR

/-- The same code and the same findings, up to order. -/
structure Lowered.Rearranges (lowered other : Lowered) : Prop where
  name : other.module.name = lowered.module.name
  functions : lowered.module.functions.Perm other.module.functions
  witnessTables : lowered.module.witnessTables.Perm other.module.witnessTables
  diagnostics : lowered.report.diagnostics.Perm other.report.diagnostics

theorem Lowered.Rearranges.symm {lowered other : Lowered} (same : lowered.Rearranges other) :
    other.Rearranges lowered :=
  ⟨same.name.symm, same.functions.symm, same.witnessTables.symm, same.diagnostics.symm⟩

namespace Program

/-- The module lists these members. -/
def withMembers (program : Program) (id : DeclId) (members : List DeclId) : Program :=
  program.modify id fun decl => { decl with kind := .module members }

theorem find?_of_mem_entries {program : Program} {id : DeclId} {decl : Decl}
    (inside : (id, decl) ∈ program.entries) : program.find? id = some decl := by
  obtain ⟨⟨given, index⟩, listed, same⟩ := List.mem_map.mp inside
  obtain ⟨rfl, rfl⟩ := Prod.mk.inj same
  simpa [find?] using List.mk_mem_zipIdx_iff_getElem?.mp listed

namespace Reorders

theorem withMembers {program : Program} {id : DeclId} {decl : Decl} {members others : List DeclId}
    (found : program.find? id = some decl) (kind : decl.kind = .module members)
    (order : members.Perm others) : program.Reorders (program.withMembers id others) where
  size := size_modify _ _ _
  decls other := by
    unfold Program.find? Program.withMembers Program.modify at *
    rw [Array.getElem?_modify]
    split
    next here =>
      rw [← here, found]
      obtain ⟨name, _, ty, parent, span⟩ := decl
      obtain rfl : _ = DeclKind.module members := kind
      exact .some (.module order name ty parent span)
    next =>
      cases program.decls[other.index]? with
      | none => exact .none
      | some given => exact .some (.same given)

variable {program other : Program} (alike : program.Reorders other)

include alike

theorem plainNames (plain : program.PlainNames) : other.PlainNames := by
  intro decl inside
  obtain ⟨id, found⟩ := exists_find?_of_mem (Array.mem_def.mp inside)
  obtain ⟨again, present, same⟩ := alike.symm.find? found
  exact same.akin.name ▸ plain again (Array.mem_def.mpr (mem_decls present))

theorem unambiguous (unambiguous : program.Unambiguous) : other.Unambiguous := by
  rintro ⟨id, decl⟩ inside ⟨peer, last⟩ listed routine function path qualified same
  obtain ⟨again, found, kept⟩ := alike.symm.find? (find?_of_mem_entries inside)
  obtain ⟨mirror, present, alike_last⟩ := alike.symm.find? (find?_of_mem_entries listed)
  rw [alike.akin.qualifiedPath] at qualified same
  exact unambiguous (id, again) (mem_entries found) (peer, mirror) (mem_entries present)
    (kept.routine?.symm ▸ routine) (alike_last.routine?.symm ▸ function) path qualified same

end Reorders

/-- A function with a body is named for its declaration. -/
theorem Bodied.isRegular {program : Program} (plain : program.PlainNames) {name : String}
    (bodied : program.Bodied name) : IsRegular name := by
  obtain ⟨_, _, _, _, _, _, path, uses, qualified, rfl⟩ := bodied
  exact NamesM.unmarked_numbered (plain.qualifiedName qualified) uses

end Program

/-- Two modules hold the same functions if every name stands for the same one. -/
theorem IR.Module.WellFormed.perm {module other : Module} (formed : module.WellFormed)
    (again : other.WellFormed)
    (same : ∀ name, other.function? name = module.function? name) :
    module.functions.Perm other.functions := by
  refine (List.perm_ext_iff_of_nodup (.of_map _ formed.names) (.of_map _ again.names)).mpr ?_
  intro function
  constructor
  · intro inside
    exact Module.mem_of_function? ((same function.name).trans (formed.function?_of_mem inside))
  · intro inside
    exact Module.mem_of_function? ((same function.name).symm.trans (again.function?_of_mem inside))

section Runs

variable {program other : Program} (alike : program.Reorders other) (plain : program.PlainNames)
  (unambiguous : program.Unambiguous) {options : Options} {id : DeclId} {pass last : Pass}

include plain in
/-- A thunk has as many blocks as the tables have entries for it. -/
theorem height_of_run (ran : Job.emitModule ⟨program, options⟩ id (Pass.start options) = .ok () pass)
    {name : String} (marked : ¬IsRegular name) :
    pass.builder.module.height name = pass.builder.module.thunks.count name := by
  rcases (accounted_of_run ran).blocks name with same | ⟨_, bodied⟩
  · exact same
  · exact (marked (bodied.isRegular plain)).elim

include alike plain unambiguous

/-- Every name stands for the same function after both runs. -/
theorem function?_of_runs
    (ran : Job.emitModule ⟨program, options⟩ id (Pass.start options) = .ok () pass)
    (done : Job.emitModule ⟨other, options⟩ id (Pass.start options) = .ok () last)
    (replays : Job.Replays ⟨program, options⟩ (Pass.start options) (Pass.start options) none none
      pass last) (name : String) :
    last.builder.module.function? name = pass.builder.module.function? name := by
  have repeats := replays.repeats
  have none : ¬IsFilled ((Pass.start options).builder.module.function? name) := by
    rintro ⟨_, impossible, _⟩
    cases impossible
  have present : (last.builder.module.function? name).isSome =
      (pass.builder.module.function? name).isSome := by
    rw [Bool.eq_iff_iff]
    exact ⟨fun there => ((repeats.back name).declared there).resolve_left nofun,
      fun there => ((repeats.functions name).declared there).resolve_left nofun⟩
  by_cases regular : IsRegular name
  · refine replays.orderly.function?_eq plain unambiguous replays.again present ?_ ?_
    · intro filled
      exact (((repeats.functions name).same regular filled).resolve_left none).2
    · intro filled
      exact (((repeats.back name).same regular filled).resolve_left none).2.symm
  cases found : pass.builder.module.function? name with
  | none =>
    rw [found] at present
    simpa using present
  | some function =>
    rw [found] at present
    obtain ⟨copy, listed⟩ := Option.isSome_iff_exists.mp present
    have forged := replays.forged name function regular found
    have again := replays.reforged name copy regular listed
    have tables : pass.builder.module.thunks.Perm last.builder.module.thunks :=
      (repeats.tables.perm (.refl _)).flatMap_right _
    rw [listed, forged.unique plain unambiguous again ?_]
    rw [← Module.height_of_function? found, ← Module.height_of_function? listed,
      height_of_run plain ran regular, height_of_run (alike.plainNames plain) done regular,
      tables.count_eq]

/-- A lowering returns if it returns for any other order. -/
theorem lower_of_reorders {lowered : Lowered} (done : lower program id options = .ok lowered) :
    ∃ again, lower other id options = .ok again ∧ lowered.Rearranges again := by
  have formed {program : Program} {lowered : Lowered}
      (done : lower program id options = .ok lowered) : lowered.module.WellFormed := by
    obtain ⟨_, _, formed, _, wellFormed, _⟩ :=
      (naming ⟨program, options⟩).lower (naming_start program options) done
    exact formed ▸ wellFormed
  obtain ⟨pass, ran, module, report⟩ := run_lower done
  let start := Pass.start options
  have orderly : Job.Orderly ⟨program, options⟩ start.names start.builder.module := .empty _ _
  have forged : Job.AllForged ⟨program, options⟩ start.builder.module :=
    fun _ _ _ impossible => nomatch impossible
  have lowers : Couples (replaying ⟨program, options⟩ start start none none)
      (Job.emitModule ⟨program, options⟩ id) (Job.emitModule ⟨other, options⟩ id) :=
    @replaying.emitModule ⟨program, options⟩ ⟨other, options⟩ alike rfl plain unambiguous id start
      start none none
  have answered := lowers.answers start start ⟨orderly, orderly, forged, forged, .refl _ _, rfl, rfl⟩
  rw [ran] at answered
  obtain ⟨_, _, _, _, _, impossible, _⟩ | ⟨_, last, again, _, replays⟩ := answered
  · cases impossible
  have lowered_again : lower other id options = .ok ⟨last.builder.module, last.report⟩ := by
    rw [lower, again]
  refine ⟨_, lowered_again, ?_, ?_, ?_, ?_⟩
  · rw [← module]
    exact replays.repeats.called.trans replays.repeats.named.symm
  · refine (formed done).perm (formed lowered_again) fun name => ?_
    rw [← module]
    exact function?_of_runs alike plain unambiguous ran again replays name
  · rw [← module]
    exact replays.repeats.tables.perm (.refl _)
  · rw [← report]
    exact replays.repeats.reports.perm (.refl _)

end Runs

/--
The order in which a module lists its members does not matter, if names are plain and no two
functions have one path. A lowering returns for one order just if it returns for another, and then
the functions, the witness tables and the findings are the same, up to order.
-/
theorem lower_rearranged {program : Program} (plain : program.PlainNames)
    (unambiguous : program.Unambiguous) {id : DeclId} {decl : Decl} {members others : List DeclId}
    (found : program.find? id = some decl) (kind : decl.kind = .module members)
    (order : members.Perm others) (options : Options) :
    (∀ lowered, lower program id options = .ok lowered →
      ∃ other, lower (program.withMembers id others) id options = .ok other ∧
        lowered.Rearranges other) ∧
      ∀ other, lower (program.withMembers id others) id options = .ok other →
        ∃ lowered, lower program id options = .ok lowered ∧ lowered.Rearranges other := by
  have alike := Program.Reorders.withMembers found kind order
  refine ⟨fun lowered done => lower_of_reorders alike plain unambiguous done, fun other done => ?_⟩
  obtain ⟨lowered, again, same⟩ := lower_of_reorders alike.symm (alike.plainNames plain)
    (alike.unambiguous unambiguous) done
  exact ⟨lowered, again, same.symm⟩

open Assembly in
/--
Two types share a method through an extension, which comes after them, and a function calls one that
comes after it. What follows its return is never executed.
-/
def entwined : Assembly Unit := do
  let main ← addModule "main"
  let view ← addView main "V"
  let requirement ← addMethod view "get" [] .int false
  let first ← addProduct main "A"
  let second ← addProduct main "B"
  let extended ← addExtension main view
  let implementation ← addMethod extended "fetch" [] .int false
  let one : Expr := .int ⟨.int, Span.unknown⟩ 1
  setBody implementation ⟨[.returned (some one) Span.unknown], Span.unknown⟩
  addConformance first view [⟨requirement, implementation⟩]
  addConformance second view [⟨requirement, implementation⟩]
  let caller ← addFunction main "f" [] .int
  let callee ← addFunction main "g" [] .int
  let typed := Ty.function [] .int
  let call := Expr.call ⟨.int, Span.unknown⟩ (.ref ⟨typed, Span.unknown⟩ callee) []
  setBody caller ⟨[.returned (some call) Span.unknown, .expr one], Span.unknown⟩
  setBody callee ⟨[.returned (some one) Span.unknown], Span.unknown⟩

/-- The callee now comes before its caller, and the extension before the types that share it. -/
theorem lower_rearranged_entwined :
    entwined.built.PlainNames ∧ entwined.built.Unambiguous ∧
      ∃ decl, entwined.built.find? ⟨0⟩ = some decl ∧
        decl.kind = .module [⟨1⟩, ⟨4⟩, ⟨5⟩, ⟨6⟩, ⟨9⟩, ⟨10⟩] ∧
        ∃ lowered other, lower entwined.built ⟨0⟩ Options.standard = .ok lowered ∧
          lower (entwined.built.withMembers ⟨0⟩ [⟨10⟩, ⟨6⟩, ⟨9⟩, ⟨5⟩, ⟨1⟩, ⟨4⟩]) ⟨0⟩
            Options.standard = .ok other ∧
          lowered.module.functions.map Function.name = ["V.fetch$witness$V.get", "V.fetch", "f", "g"] ∧
          lowered.report.diagnostics.length = 1 ∧ lowered.Rearranges other := by
  have plain : entwined.built.PlainNames := by decide +kernel
  have unambiguous : entwined.built.Unambiguous := by decide +kernel
  have listed : (entwined.built.find? ⟨0⟩).map (fun decl => (decl.kindText, decl.members)) =
      some ("module", [⟨1⟩, ⟨4⟩, ⟨5⟩, ⟨6⟩, ⟨9⟩, ⟨10⟩]) := by
    decide +kernel
  obtain ⟨decl, found, kind⟩ : ∃ decl, entwined.built.find? ⟨0⟩ = some decl ∧
      decl.kind = .module [⟨1⟩, ⟨4⟩, ⟨5⟩, ⟨6⟩, ⟨9⟩, ⟨10⟩] := by
    obtain ⟨decl, found, seen⟩ := Option.map_eq_some_iff.mp listed
    obtain ⟨text, members⟩ := Prod.mk.inj seen
    refine ⟨decl, found, ?_⟩
    unfold Decl.kindText DeclKind.text at text
    unfold Decl.members at members
    cases kind : decl.kind with
    | module given => rw [← members, kind, DeclKind.members]
    | function routine => cases known : routine.kind <;> simp [kind, known] at text
    | _ => simp [kind] at text
  have order : [(⟨1⟩ : DeclId), ⟨4⟩, ⟨5⟩, ⟨6⟩, ⟨9⟩, ⟨10⟩].Perm [⟨10⟩, ⟨6⟩, ⟨9⟩, ⟨5⟩, ⟨1⟩, ⟨4⟩] := by
    decide
  have lowers : (lower entwined.built ⟨0⟩ Options.standard).toOption.map (fun lowered =>
      (lowered.module.functions.map Function.name, lowered.report.diagnostics.length)) =
        some (["V.fetch$witness$V.get", "V.fetch", "f", "g"], 1) := by
    decide +kernel
  obtain ⟨lowered, done, seen⟩ := ok_of_map lowers
  obtain ⟨names, warned⟩ := Prod.mk.inj seen
  obtain ⟨other, again, same⟩ :=
    (lower_rearranged plain unambiguous found kind order Options.standard).1 lowered done
  exact ⟨plain, unambiguous, decl, found, kind, lowered, other, done, again, names, warned, same⟩

end Lowering
