import Lowering.Proofs.Filling
import Lowering.Proofs.Pass.Chronicle
import Lowering.Proofs.Pass.Continuing

/-
This file accounts for the functions of a module: each function declaration that is lowered has its
own function, and a function with blocks is that of such a declaration or a thunk.
-/

namespace Lowering

open IR

namespace Job

variable (job : Job)

/-- The declaration has its function, with a block if there is something to lower for it. -/
def Owns (pass : Pass) (id : DeclId) : Prop :=
  ∀ decl routine, job.program.decl id = .ok decl → decl.routine? = some routine →
    routine.isBuiltin = false → ∃ name, pass.names.assigned.get? id = some name ∧
      (pass.builder.module.function? name).isSome ∧
      (routine.isFilled = true → 0 < pass.builder.module.height name)

/-- The name is that of a thunk, or of one of the declarations, for which there is a body. -/
def Explains (visited : List DeclId) (pass : Pass) (name : String) : Prop :=
  job.program.IsThunk name ∨ ∃ id ∈ visited, ∃ decl routine, job.program.decl id = .ok decl ∧
    decl.routine? = some routine ∧ routine.isFilled = true ∧
    pass.names.assigned.get? id = some name

/-- The functions so far are those of the declarations lowered so far, and thunks. -/
structure Covered (visited : List DeclId) (pass : Pass) : Prop where
  distinct : pass.names.Distinct job.program
  lowered : ∀ id ∈ visited, job.Owns pass id
  filled : ∀ name, 0 < pass.builder.module.height name → job.Explains visited pass name

variable {job} {visited : List DeclId} {before after : Pass}

theorem Owns.of_carries {id : DeclId} (owns : job.Owns before id) (carries : before.Carries after)
    (height : ∀ name, before.builder.module.height name ≤ after.builder.module.height name) :
    job.Owns after id := by
  intro decl routine found listed ordinary
  obtain ⟨name, assigned, there, blocks⟩ := owns decl routine found listed ordinary
  exact ⟨name, carries.names id name assigned, carries.module.isSome there,
    fun filled => Nat.lt_of_lt_of_le (blocks filled) (height name)⟩

theorem Explains.mono {name : String} (explains : job.Explains visited before name)
    {others : List DeclId} (inside : visited ⊆ others) (names : before.names.Extends after.names) :
    job.Explains others after name := by
  rcases explains with thunk | ⟨id, listed, decl, routine, found, given, filled, assigned⟩
  · exact Or.inl thunk
  · exact Or.inr ⟨id, inside listed, decl, routine, found, given, filled, names id name assigned⟩

/-- A block takes nothing from what a declaration owns. -/
theorem Owns.addBlock {id : DeclId} {function : Function} (owns : job.Owns before id)
    (found : before.builder.module.function? function.name = some function)
    (params : List OperandType) :
    job.Owns { before with builder := before.builder.put (function.addBlock params).2 } id := by
  refine owns.of_carries (.addBlock found params) fun name => ?_
  show _ ≤ (before.builder.put (function.addBlock params).2).module.height name
  rw [Module.height_addBlock found]
  exact Nat.le_add_right _ _

namespace Covered

theorem start (program : Program) (options : Options) :
    Covered ⟨program, options⟩ [] (Pass.start options) where
  distinct := Names.distinct_empty program
  lowered _ impossible := nomatch impossible
  filled _ impossible := (Nat.lt_irrefl 0 impossible).elim

/-- Nothing is covered or lost inside blocks. -/
theorem of_continues (covered : job.Covered visited before)
    (continues : before.Continues job.program after) : job.Covered visited after where
  distinct := continues.distinct
  lowered id inside := (covered.lowered id inside).of_carries continues.carries
    fun name => Nat.le_of_eq (continues.module.height name).symm
  filled name blocks := (covered.filled name (continues.module.height name ▸ blocks)).mono
    (fun _ kept => kept) continues.names

/-- A declaration for which nothing is lowered is added. -/
theorem visit (covered : job.Covered visited before) {id : DeclId} (owns : job.Owns before id) :
    job.Covered (visited ++ [id]) before where
  distinct := covered.distinct
  lowered other inside := by
    rcases List.mem_append.mp inside with old | new
    · exact covered.lowered other old
    · rwa [List.mem_singleton.mp new]
  filled name blocks :=
    (covered.filled name blocks).mono (List.subset_append_left _ _) fun _ _ kept => kept

/-- A function gets a block if its name explains that. -/
theorem addBlock (covered : job.Covered visited before) {function : Function}
    (found : before.builder.module.function? function.name = some function)
    (params : List OperandType) {others : List DeclId} (inside : visited ⊆ others)
    (explains : job.Explains others before function.name)
    (owns : ∀ id ∈ others, id ∈ visited ∨ job.Owns { before with
      builder := before.builder.put (function.addBlock params).2 } id) :
    job.Covered others
      { before with builder := before.builder.put (function.addBlock params).2 } where
  distinct := covered.distinct
  lowered id listed :=
    (owns id listed).elim (fun old => (covered.lowered id old).addBlock found params) fun new => new
  filled name blocks := by
    change 0 < (before.builder.put (function.addBlock params).2).module.height name at blocks
    rw [Module.height_addBlock found] at blocks
    split at blocks
    next same => exact same ▸ explains
    next => exact (covered.filled name blocks).mono inside fun _ _ kept => kept

end Covered

end Job

/-- The steps of a body neither fill nor lose a function. -/
def covered (job : Job) (plain : job.program.PlainNames) (visited : List DeclId) :
    Invariant job :=
  .ofContinues job plain (job.Covered visited) (fun _ holds => holds.distinct)
    fun _ _ holds continues => holds.of_continues continues

namespace covered

variable {job : Job} {plain : job.program.PlainNames} {visited : List DeclId}

theorem holds_withCursor (pass : Pass) (cursor : Option Cursor)
    (holds : (covered job plain visited).Holds pass) :
    (covered job plain visited).Holds (pass.withCursor cursor) :=
  Job.Covered.of_continues holds (.withCursor pass holds.distinct cursor)

/-- The block of a thunk is explained by its name. -/
theorem keeps_emitWitness (implementation requirement : DeclId) :
    (covered job plain visited).Keeps (job.emitWitness implementation requirement)
      fun _ => True := by
  let kept := covered job plain visited
  refine ⟨fun before name after holds done => ?_, fun _ _ _ _ _ => trivial⟩
  obtain ⟨_, _, required, routine, unapplied, names, builder, value, last, _, _, _, _, named, _,
    declared, filled, rfl⟩ := Job.run_emitWitness done
  obtain ⟨function, path, given, qualifies, rfl⟩ := NamesM.run_thunkName named
  have holds := kept.names holds given
  have thunk : job.program.IsThunk s!"{function}$witness${path}" := by
    have assigned := (NamesM.run_functionName given).2.1
    exact ⟨implementation, requirement, function, path, holds.distinct.hasName assigned, qualifies,
      rfl⟩
  have holds := Job.Covered.of_continues holds
    ((Pass.Continues.refl holds.distinct).build (.getOrCreate declared))
  obtain ⟨label, args, opened, created, forwards⟩ := Job.run_fillThunk filled
  obtain ⟨own, found, _, _, rfl⟩ := BuildM.run_createBlock created
  have same := Module.name_of_function? found
  have start := Job.Covered.addBlock holds (same.symm ▸ found) (Signature.lower unapplied).params
    (fun _ inside => inside) (Or.inl (same.symm ▸ thunk)) fun _ => Or.inl
  refine ⟨holds_withCursor _ _ ?_, trivial⟩
  exact ((kept.keeps_forward _ _ required routine implementation args).ok _ () last
    (holds_withCursor _ _ start) forwards).1

end covered

/-- The functions are covered as the declarations are lowered. -/
def covering (job : Job) (plain : job.program.PlainNames) : Chronicle job where
  after := covered job plain
  cursor := covered.holds_withCursor _
  silent := by
    intro visited id decl pass found silent covered
    refine Job.Covered.visit covered ?_
    intro again routine found_again listed ordinary
    obtain rfl := Except.ok.inj (found.symm.trans found_again)
    cases kind : decl.kind <;>
      simp_all [Decl.routine?, DeclKind.routine?, Decl.isSilent]
  bare := by
    intro visited id decl routine name function pass found listed bare assigned present covered
    refine Job.Covered.visit covered ?_
    intro again other found_again listed_again _
    obtain rfl := Except.ok.inj (found.symm.trans found_again)
    obtain rfl := Option.some.inj (listed.symm.trans listed_again)
    exact ⟨name, assigned, by simp [present], by simp [bare]⟩
  opened := by
    intro visited id decl routine name function pass label args builder found listed filled assigned
      present empty created covered
    obtain ⟨again, present_again, _, _, rfl⟩ := BuildM.run_createBlock created
    obtain rfl := Option.some.inj (present.symm.trans present_again)
    obtain rfl := Module.name_of_function? present
    refine Job.Covered.addBlock covered present _ (List.subset_append_left _ _) ?_ ?_
    · exact Or.inr ⟨id, by simp, decl, routine, found, listed, filled, assigned⟩
    · intro other inside
      rcases List.mem_append.mp inside with old | new
      · exact Or.inl old
      · refine Or.inr fun again own found_again _ _ => ⟨function.name, ?_, ?_, fun _ => ?_⟩
        · rwa [List.mem_singleton.mp new]
        · exact (Module.Carries.addBlock present _).isSome (by simp [present])
        · show 0 < (pass.builder.put _).module.height function.name
          rw [Module.height_addBlock present, if_pos rfl]
          exact Nat.succ_pos _
  product := by
    intro visited id decl members conformances env ty before last found kind _ done holds
    have kept := (Sustains.forM conformances fun conformance _ =>
      (covered job plain visited).keeps_emitConformance
        (fun _ _ => covered.keeps_emitWitness _ _)
        (fun _ _ holds => ⟨holds.distinct, holds.lowered, holds.filled⟩) ty).ok
        before () last holds done
    refine Job.Covered.visit kept.1 ?_
    intro again routine found_again listed _
    obtain rfl := Except.ok.inj (found.symm.trans found_again)
    simp [Decl.routine?, kind, DeclKind.routine?] at listed

/--
Where names are plain, every function declaration that is lowered has one function, under the name
that it was given and that no other declaration has. The function has blocks just if the declaration
has a body or is synthesized. Every other function with blocks is a thunk of a witness table.
-/
theorem lower_covers {program : Program} {options : Options} {id : DeclId} {lowered : Lowered}
    (plain : program.PlainNames) (done : lower program id options = .ok lowered) :
    ∃ pass, Job.emitModule ⟨program, options⟩ id (Pass.start options) = .ok () pass ∧
      pass.builder.module = lowered.module ∧
      (∀ target decl routine, program.Lowers id target → program.decl target = .ok decl →
        decl.routine? = some routine → routine.isBuiltin = false →
        ∃ name function, pass.names.assigned.get? target = some name ∧
          (∀ other, pass.names.assigned.get? other = some name → other = target) ∧
          lowered.module.function? name = some function ∧
          (lowered.module.functions.map Function.name).count name = 1 ∧
          (function.blocks ≠ [] ↔ routine.body.isSome = true ∨ routine.isSynthesized = true)) ∧
      ∀ function ∈ lowered.module.functions, function.blocks ≠ [] →
        function.name ∈ lowered.module.thunks ∨
          ∃ target decl routine, program.Lowers id target ∧ program.decl target = .ok decl ∧
            decl.routine? = some routine ∧ routine.isBuiltin = false ∧
            pass.names.assigned.get? target = some function.name := by
  obtain ⟨pass, trail, ran, same, tour, covered⟩ :=
    (covering ⟨program, options⟩ plain).lower (.start program options) done
  have accounted := accounted_of_run ran
  obtain ⟨_, _, formed, _, wellFormed, _⟩ :=
    (naming ⟨program, options⟩).lower (naming_start program options) done
  have visited (target : DeclId) : target ∈ trail ↔ program.Lowers id target := by
    simpa using (tour.mem_iff : target ∈ trail ↔ ∃ root ∈ [id], program.Lowers root target)
  refine ⟨pass, ran, same, ?_, ?_⟩
  · intro target decl routine lowers found listed ordinary
    obtain ⟨name, assigned, there, blocks⟩ :=
      covered.lowered target ((visited target).mpr lowers) decl routine found listed ordinary
    obtain ⟨function, present⟩ := Option.isSome_iff_exists.mp there
    have filled : routine.isFilled = true ↔
        routine.body.isSome = true ∨ routine.isSynthesized = true := by
      simp [Routine.isFilled, ordinary]
    refine ⟨name, function, assigned, ?_, same ▸ present, ?_, ?_⟩
    · exact fun other given => covered.distinct.injective other target name given assigned
    · refine List.count_eq_one_of_mem (formed ▸ wellFormed.names) (List.mem_map.mpr ?_)
      exact ⟨function, same ▸ Module.mem_of_function? present, Module.name_of_function? present⟩
    · rw [← filled]
      constructor
      · intro given
        rcases covered.filled name (Module.height_pos_iff.mpr ⟨function, present, given⟩) with
          thunk | ⟨other, _, decl', routine', found', listed', filled', assigned'⟩
        · exact (thunk.not_hasName plain target (covered.distinct.hasName assigned)).elim
        · obtain rfl := covered.distinct.injective other target name assigned' assigned
          obtain rfl := Except.ok.inj (found.symm.trans found')
          obtain rfl := Option.some.inj (listed.symm.trans listed')
          exact filled'
      · intro given
        obtain ⟨again, present_again, nonempty⟩ := Module.height_pos_iff.mp (blocks given)
        obtain rfl := Option.some.inj (present.symm.trans present_again)
        exact nonempty
  · intro function inside nonempty
    have present := (formed ▸ wellFormed : lowered.module.WellFormed).function?_of_mem inside
    rw [← same] at present
    have tall := Module.height_pos_iff.mpr ⟨function, present, nonempty⟩
    rcases covered.filled function.name tall with
      thunk | ⟨target, inside, decl, routine, found, listed, filled, assigned⟩
    · refine Or.inl ?_
      rcases accounted.blocks function.name with count | ⟨_, bodied⟩
      · rw [count, List.nil_append, List.count_pos_iff, same] at tall
        exact tall
      · exact (thunk.not_bodied plain bodied).elim
    · refine Or.inr ⟨target, decl, routine, (visited target).mp inside, found, listed, ?_, assigned⟩
      simp only [Routine.isFilled, Bool.and_eq_true, Bool.not_eq_true'] at filled
      exact filled.1

open Assembly in
/--
A type inside a function, with a method that satisfies a view and a constructor that is synthesized,
and another function that is declared after the return.
-/
def sheltering : Assembly Unit := do
  let main ← addModule "main"
  let view ← addView main "V"
  let requirement ← addMethod view "get" [] .int false
  let outer ← addFunction main "outer" [] .int
  let inner ← addProduct outer "Inner"
  discard <| addMemberwiseConstructor inner
  let method ← addMethod inner "get" [] .int false
  let one : Expr := .int ⟨.int, Span.unknown⟩ 1
  setBody method ⟨[.returned (some one) Span.unknown], Span.unknown⟩
  addConformance inner view [⟨requirement, method⟩]
  let late ← addFunction outer "late" [] .int
  setBody outer ⟨[.decl inner, .returned (some one) Span.unknown, .decl late], Span.unknown⟩
  discard <| addFunction main "bare" [] .int

theorem lower_covers_sheltering :
    sheltering.built.PlainNames ∧ sheltering.built.Lowers ⟨0⟩ ⟨8⟩ ∧
      ∃ lowered, lower sheltering.built ⟨0⟩ Options.standard = .ok lowered ∧
        lowered.module.functions.map (fun function => (function.name, function.blocks.length)) =
          [("outer", 1), ("outer.Inner.get$witness$V.get", 1), ("outer.Inner.get", 1),
            ("outer.Inner.init", 1), ("bare", 0)] ∧
        ∃ pass, Job.emitModule ⟨sheltering.built, Options.standard⟩ ⟨0⟩
            (Pass.start Options.standard) = .ok () pass ∧
          (∃ name function, pass.names.assigned.get? ⟨8⟩ = some name ∧
            lowered.module.function? name = some function ∧ function.blocks ≠ []) ∧
          ∀ function ∈ lowered.module.functions, function.blocks ≠ [] →
            function.name ∈ lowered.module.thunks ∨ ∃ target decl routine,
              sheltering.built.Lowers ⟨0⟩ target ∧ sheltering.built.decl target = .ok decl ∧
              decl.routine? = some routine ∧ routine.isBuiltin = false ∧
              pass.names.assigned.get? target = some function.name := by
  have plain : sheltering.built.PlainNames := by decide +kernel
  have reached : sheltering.built.Lowers ⟨0⟩ ⟨8⟩ :=
    have outer : (⟨4⟩ : DeclId) ∈ sheltering.built.nested ⟨0⟩ := by decide +kernel
    have type : (⟨5⟩ : DeclId) ∈ sheltering.built.nested ⟨4⟩ := by decide +kernel
    have member : (⟨8⟩ : DeclId) ∈ sheltering.built.nested ⟨5⟩ := by decide +kernel
    .step outer (.step type (.step member (.refl _)))
  have method : (sheltering.built.decl ⟨8⟩).toOption.map
      (·.routine?.map fun routine => (routine.isBuiltin, routine.body.isSome)) =
        some (some (false, true)) := by
    decide +kernel
  have lowers : (lower sheltering.built ⟨0⟩ Options.standard).toOption.map
      (·.module.functions.map fun function => (function.name, function.blocks.length)) =
        some [("outer", 1), ("outer.Inner.get$witness$V.get", 1), ("outer.Inner.get", 1),
          ("outer.Inner.init", 1), ("bare", 0)] := by
    decide +kernel
  obtain ⟨decl, found, seen⟩ := ok_of_map method
  obtain ⟨routine, listed, seen⟩ := Option.map_eq_some_iff.mp seen
  obtain ⟨ordinary, body⟩ := Prod.mk.inj seen
  obtain ⟨lowered, done, functions⟩ := ok_of_map lowers
  obtain ⟨pass, ran, _, owns, explained⟩ := lower_covers plain done
  obtain ⟨name, function, assigned, _, present, _, blocks⟩ :=
    owns ⟨8⟩ decl routine reached found listed ordinary
  exact ⟨plain, reached, lowered, done, functions, pass, ran,
    ⟨name, function, assigned, present, blocks.mpr (Or.inl body)⟩, explained⟩

end Lowering
