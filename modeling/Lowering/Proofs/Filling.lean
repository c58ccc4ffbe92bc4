import Lowering.Proofs.IR.Carrying
import Lowering.Proofs.Naming
import Lowering.Proofs.Pass.Lasting
import Lowering.Proofs.Program.Assembled
import Lowering.Proofs.Program.Path
import Mathlib.Data.List.Nodup

/-
This file counts what fills a function. The body of a function is lowered once, but a thunk is
filled again for every entry of a witness table that names it.
-/

namespace Lowering

open IR

namespace IR

namespace Module

/-- A function goes by a name of its own. -/
theorem WellFormed.function?_of_mem {module : Module} (formed : module.WellFormed)
    {function : Function} (inside : function ∈ module.functions) :
    module.function? function.name = some function := by
  have exists_one : (module.function? function.name).isSome := by
    rw [function?, List.find?_isSome]
    exact ⟨function, inside, by simp⟩
  obtain ⟨other, found⟩ := Option.isSome_iff_exists.mp exists_one
  rw [found, List.inj_on_of_nodup_map formed.names (mem_of_function? found) inside
    (name_of_function? found)]

/-- The functions that the witness tables name, once for each entry. -/
def thunks (module : Module) : List String :=
  module.witnessTables.flatMap fun table => table.entries.map WitnessEntry.function

@[simp] theorem thunks_addWitnessTable (module : Module) (table : WitnessTable) :
    (module.addWitnessTable table).thunks =
      module.thunks ++ table.entries.map WitnessEntry.function := by
  simp [thunks, addWitnessTable]

@[simp] theorem thunks_put (function : Function) (builder : Builder) :
    (builder.put function).module.thunks = builder.module.thunks := rfl

/--
A function has a block for each of its uses as a thunk, some of which may not be in a witness table
yet, and one more for its body, if it has one.
-/
structure Accounted (module : Module) (pending : List String) (thunk bodied : String → Prop) :
    Prop where
  blocks : ∀ name, module.height name = (pending ++ module.thunks).count name ∨
    module.height name = (pending ++ module.thunks).count name + 1 ∧ bodied name
  named : ∀ name ∈ pending ++ module.thunks, thunk name

namespace Accounted

variable {module later : Module} {pending : List String} {thunk bodied : String → Prop}

theorem empty (name : String) (thunk bodied : String → Prop) :
    (empty name).Accounted [] thunk bodied :=
  ⟨fun _ => Or.inl rfl, fun _ impossible => nomatch impossible⟩

/-- What goes on inside blocks does not count. -/
theorem of_continues (accounted : module.Accounted pending thunk bodied)
    (continues : module.Continues later) : later.Accounted pending thunk bodied where
  blocks name := by
    rw [continues.height, thunks, continues.tables]
    exact accounted.blocks name
  named := by
    rw [thunks, continues.tables]
    exact accounted.named

theorem of_perm (accounted : module.Accounted pending thunk bodied) {others : List String}
    (same : (others ++ later.thunks).Perm (pending ++ module.thunks))
    (functions : later.functions = module.functions) : later.Accounted others thunk bodied where
  blocks name := by
    rw [same.count_eq, height, function?, functions]
    exact accounted.blocks name
  named name inside := accounted.named name (same.mem_iff.mp inside)

/-- No function has two blocks just if no thunk is used twice, unless a body is in its place. -/
theorem once_iff (accounted : module.Accounted [] thunk bodied) (formed : module.WellFormed)
    (apart : ∀ name, thunk name → ¬bodied name) :
    (∀ function ∈ module.functions, function.blocks.length ≤ 1) ↔ module.thunks.Nodup := by
  rw [List.nodup_iff_count_le_one]
  constructor
  · intro once name
    have low : module.height name ≤ 1 := by
      cases found : module.function? name with
      | none => simp [height, found]
      | some function =>
        rw [height_of_function? found]
        exact once function (mem_of_function? found)
    have blocks := accounted.blocks name
    rw [List.nil_append] at blocks
    rcases blocks with same | ⟨same, _⟩ <;> omega
  · intro once function inside
    have blocks := accounted.blocks function.name
    rw [List.nil_append, height_of_function? (formed.function?_of_mem inside)] at blocks
    rcases blocks with same | ⟨same, bodies⟩
    · rw [same]
      exact once function.name
    · have unused : function.name ∉ module.thunks :=
        fun used => apart _ (accounted.named _ used) bodies
      have none := List.count_eq_zero.mpr unused
      omega

section Blocks

variable {builder : Builder} {function : Function}

/-- A block for a thunk leaves its entry pending. -/
theorem addThunk (accounted : builder.module.Accounted pending thunk bodied)
    (found : builder.module.function? function.name = some function)
    (forwards : thunk function.name) (params : List OperandType) :
    (builder.put (function.addBlock params).2).module.Accounted (function.name :: pending)
      thunk bodied := by
  refine ⟨fun name => ?_, List.forall_mem_cons.mpr ⟨forwards, accounted.named⟩⟩
  have counted : (function.name :: pending ++ builder.module.thunks).count name =
      (pending ++ builder.module.thunks).count name + if name = function.name then 1 else 0 := by
    rw [List.cons_append, List.count_cons]
    simp only [beq_iff_eq, eq_comm (a := function.name)]
  rw [height_addBlock found, thunks_put, counted]
  rcases accounted.blocks name with same | ⟨same, bodies⟩
  · exact Or.inl (by rw [same])
  · exact Or.inr ⟨by omega, bodies⟩

/-- The block for a body is the first one of its function. -/
theorem addBody (accounted : builder.module.Accounted pending thunk bodied)
    (found : builder.module.function? function.name = some function)
    (declared : function.isDeclaration = true) (bodies : bodied function.name)
    (params : List OperandType) :
    (builder.put (function.addBlock params).2).module.Accounted pending thunk bodied := by
  refine ⟨fun name => ?_, accounted.named⟩
  rw [height_addBlock found, thunks_put]
  split
  next same =>
    subst same
    have none : builder.module.height function.name = 0 := by
      rw [height_of_function? found]
      simpa [Function.isDeclaration] using declared
    have unused : (pending ++ builder.module.thunks).count function.name = 0 := by
      rcases accounted.blocks function.name with same | ⟨same, _⟩ <;> omega
    exact Or.inr ⟨by rw [none, unused], bodies⟩
  next => exact accounted.blocks name

end Blocks

end Accounted

end Module

end IR

/-- The name is that of a function with a body, be it synthesized. -/
def Program.Bodied (program : Program) (name : String) : Prop :=
  ∃ id decl routine, program.find? id = some decl ∧ decl.routine? = some routine ∧
    routine.isFilled = true ∧ program.HasName id name

/-- The name is that of the thunk from a requirement to its implementation. -/
def Program.IsThunk (program : Program) (name : String) : Prop :=
  ∃ implementation requirement function path, program.HasName implementation function ∧
    program.qualifiedName requirement = .ok path ∧ name = s!"{function}$witness${path}"

/-- Plain names tell thunks from other functions. -/
theorem Program.IsThunk.not_hasName {program : Program} (plain : program.PlainNames)
    {name : String} (thunk : program.IsThunk name) (id : DeclId) : ¬program.HasName id name := by
  rintro ⟨path, uses, qualified, rfl⟩
  obtain ⟨_, _, function, suffix, _, _, same⟩ := thunk
  refine NamesM.unmarked_numbered (plain.qualifiedName qualified) uses ?_
  rw [same]
  simp [toString]

theorem Program.IsThunk.not_bodied {program : Program} (plain : program.PlainNames)
    {name : String} (thunk : program.IsThunk name) : ¬program.Bodied name :=
  fun ⟨id, _, _, _, _, _, named⟩ => thunk.not_hasName plain id named

/-- Functions are named for their declarations, and their blocks are accounted for. -/
def accounting (job : Job) (pending : List String) : Invariant job where
  Holds pass := (naming job).Holds pass ∧
    pass.builder.module.Accounted pending job.program.IsThunk job.program.Bodied
  define holds _ done := ⟨holds.1, holds.2.of_continues (.define done)⟩
  append holds _ done := ⟨holds.1, holds.2.of_continues (.append done)⟩
  report _ holds := holds
  names := by
    rintro pass names _ _ ⟨named, accounted⟩ given
    refine ⟨fun id name assigned => ?_, accounted⟩
    exact ((NamesM.run_functionName given).2.2 id name assigned).elim (named id name) fun new => new
  function name signature holds _ _ := ⟨holds.1, holds.2.of_continues (.addFunction _ name signature)⟩

namespace accounting

variable {job : Job} {pending : List String}

theorem holds_start (program : Program) (options : Options) :
    (accounting ⟨program, options⟩ []).Holds (Pass.start options) :=
  ⟨naming_start program options, .empty _ _ _⟩

/-- What is counted does not depend on the insertion point. -/
theorem holds_withCursor (pass : Pass) (cursor : Option Cursor)
    (holds : (accounting job pending).Holds pass) :
    (accounting job pending).Holds (pass.withCursor cursor) :=
  holds

/-- A thunk gets another block, whether it has one or not. -/
theorem fillThunk {name : String} {signature : Signature} {requirement implementation : Routine}
    {id : DeclId} {before after : Pass} (holds : (accounting job pending).Holds before)
    (forwards : job.program.IsThunk name)
    (done : job.fillThunk name signature requirement implementation id before = .ok () after) :
    (accounting job (name :: pending)).Holds after := by
  let kept := accounting job (name :: pending)
  obtain ⟨label, args, builder, created, done⟩ := Job.run_fillThunk done
  obtain ⟨function, found, _, _, rfl⟩ := BuildM.run_createBlock created
  have named := Module.name_of_function? found
  have start : kept.Holds { before with builder := before.builder.put _ } :=
    ⟨holds.1, named ▸ holds.2.addThunk (named.symm ▸ found) (named.symm ▸ forwards)
      signature.params⟩
  exact ((kept.keeps_forward name signature requirement implementation id args).ok _ () after
    (holds_withCursor _ _ start) done).1

theorem emitWitness {implementation requirement : DeclId} {name : String} {before after : Pass}
    (holds : (accounting job pending).Holds before)
    (done : job.emitWitness implementation requirement before = .ok name after) :
    (accounting job (name :: pending)).Holds after := by
  let kept := accounting job pending
  obtain ⟨_, _, _, _, unapplied, names, builder, value, last, _, _, _, _, named, _, declared,
    filled, rfl⟩ := Job.run_emitWitness done
  obtain ⟨function, path, given, qualifies, rfl⟩ := NamesM.run_thunkName named
  have holds := kept.names holds given
  have thunk : job.program.IsThunk s!"{function}$witness${path}" :=
    ⟨implementation, requirement, function, path,
      holds.1 _ _ (NamesM.run_functionName given).2.1, qualifies, rfl⟩
  have holds : kept.Holds { before with names := names, builder := builder } :=
    ⟨holds.1, holds.2.of_continues (.getOrCreate declared)⟩
  exact holds_withCursor _ _ (fillThunk holds thunk filled)

/-- Each entry gives its thunk a block. -/
theorem emitEntries {entries : List ConformanceEntry} {witnesses : List WitnessEntry}
    {before after : Pass} (holds : (accounting job pending).Holds before)
    (done : job.emitEntries entries before = .ok witnesses after) :
    (accounting job (witnesses.map WitnessEntry.function ++ pending)).Holds after := by
  induction entries generalizing pending witnesses before with
  | nil =>
    obtain ⟨rfl, rfl⟩ := (run_pure _ _ _ _).mp done
    exact holds
  | cons entry rest rest_ih =>
    obtain ⟨requirement, _, done⟩ := (run_check_bind _ _ _ _ _).mp done
    split at done
    next => exact rest_ih holds done
    next =>
      obtain ⟨thunk, first, emitted, done⟩ := (run_bind _ _ _ _ _).mp done
      obtain ⟨others, last, later, done⟩ := (run_bind _ _ _ _ _).mp done
      obtain ⟨rfl, rfl⟩ := (run_pure _ _ _ _).mp done
      obtain ⟨named, accounted⟩ := rest_ih (emitWitness holds emitted) later
      exact ⟨named, accounted.of_perm (List.perm_middle.symm.append_right _) rfl⟩

/-- What was pending is in the table afterwards. -/
theorem keeps_emitConformance (ty : Ty) (conformance : Conformance) :
    (accounting job pending).Keeps (job.emitConformance ty conformance) fun _ => True := by
  refine ⟨fun before value after holds done => ?_, fun _ _ _ _ _ => trivial⟩
  obtain ⟨view, _, done⟩ := (run_check_bind _ _ _ _ _).mp done
  obtain ⟨entries, between, emitted, done⟩ := (run_bind _ _ _ _ _).mp done
  obtain ⟨named, accounted⟩ := emitEntries holds emitted
  obtain ⟨builder, added, rfl⟩ := (lift_build _ _ _ _).mp done
  obtain rfl := (BuildM.run_addWitnessTable _ _ _ _).mp added
  refine ⟨⟨named, accounted.of_perm ?_ rfl⟩, trivial⟩
  show (pending ++ (between.builder.module.addWitnessTable _).thunks).Perm _
  rw [Module.thunks_addWitnessTable, ← List.append_assoc, List.append_assoc (List.map _ _)]
  exact List.perm_append_comm

end accounting

/-- The blocks stay accounted for from one declaration to the next. -/
def accounts (job : Job) : Lasting job where
  toInvariant := accounting job []
  cursor {pass} cursor holds := accounting.holds_withCursor pass cursor holds
  body := by
    intro id decl routine name function pass label args builder found listed filled assigned present
      empty created holds
    obtain ⟨again, found_again, _, _, rfl⟩ := BuildM.run_createBlock created
    obtain rfl := Option.some.inj (present.symm.trans found_again)
    have named := Module.name_of_function? present
    have bodied : job.program.Bodied name :=
      ⟨id, decl, routine, Program.decl_eq_ok.mp found, listed, filled, holds.1 id name assigned⟩
    exact ⟨holds.1, holds.2.addBody (named.symm ▸ present) empty (named.symm ▸ bodied)
      function.signature.params⟩
  conformance _ _ _ _ := accounting.keeps_emitConformance _ _

/-- After a lowering nothing is pending. -/
theorem accounted_of_run {program : Program} {options : Options} {id : DeclId} {pass : Pass}
    (ran : Job.emitModule ⟨program, options⟩ id (Pass.start options) = .ok () pass) :
    pass.builder.module.Accounted [] program.IsThunk program.Bodied :=
  (((accounts ⟨program, options⟩).keeps_emitModule id).ok _ () pass
    (accounting.holds_start program options) ran).1.2

/--
A function has one block for each entry of a witness table that names it, and one more if it is a
function with a body that is lowered. Where names are plain, every function has at most one block
just if no two entries name the same thunk.
-/
theorem lower_fills {program : Program} {options : Options} {id : DeclId} {lowered : Lowered}
    (done : lower program id options = .ok lowered) :
    (∀ function ∈ lowered.module.functions,
      function.blocks.length = lowered.module.thunks.count function.name ∨
        function.blocks.length = lowered.module.thunks.count function.name + 1 ∧
          program.Bodied function.name) ∧
      (program.PlainNames →
        ((∀ function ∈ lowered.module.functions, function.blocks.length ≤ 1) ↔
          lowered.module.thunks.Nodup)) := by
  obtain ⟨pass, ran, same, _⟩ := run_lower done
  have accounted := accounted_of_run ran
  obtain ⟨_, _, formed, _, wellFormed, _⟩ :=
    (naming ⟨program, options⟩).lower (naming_start program options) done
  rw [formed] at wellFormed
  rw [same] at accounted
  refine ⟨fun function inside => ?_, fun plain => ?_⟩
  · have blocks := accounted.blocks function.name
    rwa [List.nil_append, Module.height_of_function? (wellFormed.function?_of_mem inside)] at blocks
  · exact accounted.once_iff wellFormed fun _ => Program.IsThunk.not_bodied plain

open Assembly in
/-- Two types conform to a view through the method that an extension gives it. -/
def conforming : Assembly Unit := do
  let main ← addModule "main"
  let view ← addView main "V"
  let requirement ← addMethod view "get" [] .int false
  let extended ← addExtension main view
  let implementation ← addMethod extended "get" [] .int false
  let one : Expr := .int ⟨.int, Span.unknown⟩ 1
  setBody implementation ⟨[.returned (some one) Span.unknown], Span.unknown⟩
  let first ← addProduct main "A"
  let second ← addProduct main "B"
  addConformance first view [⟨requirement, implementation⟩]
  addConformance second view [⟨requirement, implementation⟩]

open Assembly in
theorem conforming_assembled : conforming.built.Assembled := by
  refine Preserves.built ?_
  refine .bind (Offered.addModule _).assembles fun main => ?_
  refine .bind (Offered.addView _ _).assembles fun view => ?_
  refine .bind (Offered.addMethod _ _ _ _ _).assembles fun requirement => ?_
  refine .bind (Offered.addExtension _ _).assembles fun extended => ?_
  refine .bind (Offered.addMethod _ _ _ _ _).assembles fun implementation => ?_
  refine .bind (Offered.setBody _ _).assembles fun _ => ?_
  refine .bind (Offered.addProduct _ _).assembles fun first => ?_
  refine .bind (Offered.addProduct _ _).assembles fun second => ?_
  refine .bind (Offered.addConformance _ _ _).assembles fun _ => ?_
  exact (Offered.addConformance _ _ _).assembles

theorem lower_fills_conforming :
    conforming.built.PlainNames ∧
      ∃ lowered, lower conforming.built ⟨0⟩ Options.standard = .ok lowered ∧
        lowered.module.thunks = ["V.get$witness$V.get", "V.get$witness$V.get"] ∧
        (∀ function ∈ lowered.module.functions,
          function.blocks.length = lowered.module.thunks.count function.name ∨
            function.blocks.length = lowered.module.thunks.count function.name + 1 ∧
              conforming.built.Bodied function.name) ∧
        ((∀ function ∈ lowered.module.functions, function.blocks.length ≤ 1) ↔
          lowered.module.thunks.Nodup) := by
  have plain : conforming.built.PlainNames := by decide +kernel
  have lowers : (lower conforming.built ⟨0⟩ Options.standard).toOption.map (·.module.thunks) =
      some ["V.get$witness$V.get", "V.get$witness$V.get"] := by
    decide +kernel
  obtain ⟨lowered, done, thunks⟩ := ok_of_map lowers
  obtain ⟨counted, once⟩ := lower_fills done
  exact ⟨plain, lowered, done, thunks, counted, once plain⟩

/-- Both conformances fill the one thunk. -/
theorem conforming_refills :
    conforming.built.Assembled ∧
      ∃ lowered, lower conforming.built ⟨0⟩ Options.standard = .ok lowered ∧
        lowered.report.containsError = false ∧
        ¬∀ function ∈ lowered.module.functions, function.blocks.length ≤ 1 := by
  refine ⟨conforming_assembled, ?_⟩
  have lowers : (lower conforming.built ⟨0⟩ Options.standard).toOption.map
      (fun lowered => (lowered.report.containsError,
        (lowered.module.function? "V.get$witness$V.get").map (·.blocks.length))) =
        some (false, some 2) := by
    decide +kernel
  obtain ⟨lowered, done, seen⟩ := ok_of_map lowers
  obtain ⟨clean, blocks⟩ := Prod.mk.inj seen
  obtain ⟨thunk, found, count⟩ := Option.map_eq_some_iff.mp blocks
  refine ⟨lowered, done, clean, ?_⟩
  intro once
  have bounded := once thunk (Module.mem_of_function? found)
  omega

end Lowering
