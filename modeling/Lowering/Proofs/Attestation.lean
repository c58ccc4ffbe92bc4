import Lowering.Proofs.Filling
import Lowering.Proofs.Forwarding
import Lowering.Proofs.Pass.Chronicle
import Lowering.Proofs.Program.Conforming

/-
This file reads the witness tables of a module back: they state the conformances of the types that
were lowered, in order, and the thunk of every entry forwards to its implementation.
-/

namespace Lowering

open IR

namespace Job

variable (job : Job)

/--
The thunk of an entry is there under the given name. It has the signature of the requirement, and
its first block forwards to the implementation.
-/
def Satisfies (pass : Pass) (entry : ConformanceEntry) (name : String) : Prop :=
  job.program.NamesThunk pass.names entry name ∧
    ∃ required requirement implementing implementation unapplied function block,
      job.program.decl entry.requirement = .ok required ∧ required.routine? = some requirement ∧
      job.program.decl entry.implementation = .ok implementing ∧
      implementing.routine? = some implementation ∧
      job.program.unappliedType entry.requirement = .ok unapplied ∧
      pass.builder.module.function? name = some function ∧
      function.signature = Signature.lower unapplied ∧ function.entry? = some block ∧
      block.params.map Prod.snd = (Signature.lower unapplied).params ∧
      job.Forwards pass requirement implementation entry.implementation
        (Signature.lower unapplied).result block

/-- The entry of a witness table is that of a conformance. -/
def Meets (pass : Pass) (entry : ConformanceEntry) (witness : WitnessEntry) : Prop :=
  witness.requirement = entry.requirement ∧
    (∃ required, job.program.decl entry.requirement = .ok required ∧
      witness.name = required.name) ∧
    job.Satisfies pass entry witness.function

/-- The witness table is that of a conformance of a type: every function that is required has its
entry. -/
def Attests (pass : Pass) (stated : DeclId × Conformance) (table : WitnessTable) : Prop :=
  job.program.declaredType stated.1 = .ok table.ty ∧
    job.program.nominal stated.2.view = .ok table.view ∧
    List.Forall₂ (job.Meets pass) (stated.2.entries.filter job.program.demands) table.entries

/-- The witness tables are those of the conformances so far, and all thunks are those of entries. -/
structure Attested (stated : List (DeclId × Conformance)) (pass : Pass) : Prop where
  distinct : pass.names.Distinct job.program
  recorded : ∀ name, job.program.IsThunk name → 0 < pass.builder.module.height name →
    ∃ entry ∈ job.program.pairings, job.Satisfies pass entry name
  tables : List.Forall₂ (job.Attests pass) stated pass.builder.module.witnessTables

variable {job} {before after : Pass} {stated : List (DeclId × Conformance)}

/-- The block of a thunk is terminated, so that it stays as it is. -/
theorem Satisfies.of_carries {entry : ConformanceEntry} {name : String}
    (satisfies : job.Satisfies before entry name) (carries : before.Carries after) :
    job.Satisfies after entry name := by
  obtain ⟨named, required, requirement, implementing, implementation, unapplied, function, block,
    requires, listed, implements_, given, typed, present, signature, first, params, forwards⟩ :=
    satisfies
  obtain ⟨later, there, kept, entry_kept⟩ := carries.module name function present
  exact ⟨named.of_extends carries.names, required, requirement, implementing, implementation,
    unapplied, later, block, requires, listed, implements_, given, typed, there,
    kept.trans signature, entry_kept block first forwards.isTerminated, params,
    forwards.of_carries carries⟩

theorem Meets.of_carries {entry : ConformanceEntry} {witness : WitnessEntry}
    (meets : job.Meets before entry witness) (carries : before.Carries after) :
    job.Meets after entry witness :=
  ⟨meets.1, meets.2.1, meets.2.2.of_carries carries⟩

theorem Attests.of_carries {one : DeclId × Conformance} {table : WitnessTable}
    (attests : job.Attests before one table) (carries : before.Carries after) :
    job.Attests after one table :=
  ⟨attests.1, attests.2.1, attests.2.2.imp fun _ _ meets => meets.of_carries carries⟩

namespace Attested

theorem start (program : Program) (options : Options) :
    Attested ⟨program, options⟩ [] (Pass.start options) where
  distinct := Names.distinct_empty program
  recorded _ _ impossible := (Nat.lt_irrefl 0 impossible).elim
  tables := .nil

/-- A pass goes on with more blocks, if those of thunks are accounted for. -/
theorem of_carries (attested : job.Attested stated before) (carries : before.Carries after)
    (distinct : after.names.Distinct job.program)
    (recorded : ∀ name, job.program.IsThunk name → 0 < after.builder.module.height name →
      0 < before.builder.module.height name ∨
        ∃ entry ∈ job.program.pairings, job.Satisfies after entry name)
    (tables : after.builder.module.witnessTables = before.builder.module.witnessTables) :
    job.Attested stated after where
  distinct := distinct
  recorded name thunk tall := by
    rcases recorded name thunk tall with old | new
    · obtain ⟨entry, listed, satisfies⟩ := attested.recorded name thunk old
      exact ⟨entry, listed, satisfies.of_carries carries⟩
    · exact new
  tables := by
    rw [tables]
    exact attested.tables.imp fun _ _ attests => attests.of_carries carries

theorem of_continues (attested : job.Attested stated before)
    (continues : before.Continues job.program after) : job.Attested stated after :=
  attested.of_carries continues.carries continues.distinct
    (fun name _ tall => Or.inl (continues.module.height name ▸ tall)) continues.module.tables

/-- A block is added to a function that is no thunk. -/
theorem addBlock (attested : job.Attested stated before) {function : Function}
    (found : before.builder.module.function? function.name = some function)
    (other : ¬job.program.IsThunk function.name) (params : List OperandType) :
    job.Attested stated
      { before with builder := before.builder.put (function.addBlock params).2 } := by
  refine attested.of_carries (.addBlock found params) attested.distinct ?_ rfl
  intro name thunk tall
  change 0 < (before.builder.put (function.addBlock params).2).module.height name at tall
  rw [Module.height_addBlock found] at tall
  split at tall
  next same => exact (other (same ▸ thunk)).elim
  next => exact Or.inl tall

/-- Where requirements are discerned, the thunk of an entry is no other's. -/
theorem satisfies_of_namesThunk (attested : job.Attested stated before)
    (plain : job.program.PlainNames) (discerns : job.program.Discerns)
    {entry : ConformanceEntry} (listed : entry ∈ job.program.pairings) {name : String}
    (named : job.program.NamesThunk before.names entry name) (thunk : job.program.IsThunk name)
    (tall : 0 < before.builder.module.height name) : job.Satisfies before entry name := by
  obtain ⟨other, inside, satisfies⟩ := attested.recorded name thunk tall
  obtain rfl := named.unique plain attested.distinct discerns listed inside satisfies.1
  exact satisfies

/-- The thunk of an entry gets a block, which is its first unless the entry was met before. -/
theorem fillThunk (attested : job.Attested stated before) (plain : job.program.PlainNames)
    (discerns : job.program.Discerns) {entry : ConformanceEntry}
    (listed : entry ∈ job.program.pairings) {name : String}
    (named : job.program.NamesThunk before.names entry name) {required implementing : Decl}
    {requirement implementation : Routine} {unapplied : FunType} {function : Function}
    (requires : job.program.decl entry.requirement = .ok required)
    (given : required.routine? = some requirement)
    (implements_ : job.program.decl entry.implementation = .ok implementing)
    (found : implementing.routine? = some implementation)
    (typed : job.program.unappliedType entry.requirement = .ok unapplied)
    (present : before.builder.module.function? name = some function)
    (signed : function.signature = Signature.lower unapplied)
    (done : job.fillThunk name (Signature.lower unapplied) requirement implementation
      entry.implementation before = .ok () after) :
    job.Attested stated after ∧ before.Carries after ∧ job.Satisfies after entry name := by
  have thunk : job.program.IsThunk name := by
    obtain ⟨own, path, assigned, qualifies, same⟩ := named
    exact ⟨_, _, own, path, attested.distinct.hasName assigned, qualifies, same⟩
  obtain ⟨label, args, builder, created, forwards⟩ := Job.run_fillThunk done
  obtain ⟨_, again, _, _, rfl⟩ := BuildM.run_createBlock created
  obtain rfl := Option.some.inj (present.symm.trans again)
  have same := Module.name_of_function? present
  let opened := Pass.withCursor (some ⟨name, label⟩) { before with
    builder := before.builder.put (function.addBlock (Signature.lower unapplied).params).2 }
  have distinct : opened.names.Distinct job.program := attested.distinct
  have goes := (((continuing job plain opened).keeps_forward name _ requirement implementation
    entry.implementation args).ok opened () after (.refl distinct) forwards).1
  have adds : before.Carries opened := ⟨fun _ _ kept => kept, .addBlock (same ▸ present) _⟩
  have carries : before.Carries after := adds.trans goes.carries
  have satisfies : job.Satisfies after entry name := by
    by_cases empty : function.blocks = []
    · obtain ⟨params, types, rfl, drafts⟩ := Builder.Drafts.of_createBlock present empty created
      obtain ⟨filled, block, there, typed_filled, first, rfl, forwarded⟩ :=
        Job.run_forward plain distinct (signed ▸ drafts) forwards
      obtain ⟨own, path, assigned, qualifies, rfl⟩ := named
      exact ⟨⟨own, path, carries.names _ _ assigned, qualifies, rfl⟩, required, requirement,
        implementing, implementation, unapplied, filled, block, requires, given, implements_, found,
        typed, there, typed_filled, first, types, forwarded⟩
    · have tall := Module.height_pos_iff.mpr ⟨function, present, empty⟩
      exact (attested.satisfies_of_namesThunk plain discerns listed named thunk tall).of_carries
        carries
  refine ⟨attested.of_carries carries goes.distinct ?_ goes.module.tables, carries, satisfies⟩
  intro other _ tall
  rw [goes.module.height] at tall
  change 0 < (before.builder.put (function.addBlock _).2).module.height other at tall
  rw [Module.height_addBlock (same ▸ present)] at tall
  split at tall
  next here => exact Or.inr ⟨entry, listed, here ▸ same ▸ satisfies⟩
  next => exact Or.inl tall

theorem emitWitness (attested : job.Attested stated before) (plain : job.program.PlainNames)
    (discerns : job.program.Discerns) {entry : ConformanceEntry}
    (listed : entry ∈ job.program.pairings) {name : String}
    (done : job.emitWitness entry.implementation entry.requirement before = .ok name after) :
    job.Attested stated after ∧ before.Carries after ∧ job.Satisfies after entry name := by
  obtain ⟨required, implementing, requirement, implementation, unapplied, names, builder, value,
    last, requires, given, implements_, found, named, typed, declared, filled, rfl⟩ :=
    Job.run_emitWitness done
  obtain ⟨own, path, assigns, qualifies, rfl⟩ := NamesM.run_thunkName named
  -- Up to the block the pass only continues: the implementation is named, and the thunk declared.
  let going := continuing job plain before
  have continues : before.Continues job.program
      { before with names := names, builder := builder } :=
    (going.names (.refl attested.distinct) assigns).build (.getOrCreate declared)
  obtain ⟨function, present, signed⟩ := BuildM.function?_of_getOrCreate declared
  obtain ⟨attested, carries, satisfies⟩ := (attested.of_continues continues).fillThunk plain
    discerns listed ⟨own, path, (NamesM.run_functionName assigns).2.1, qualifies, rfl⟩ requires
    given implements_ found typed present signed filled
  have rest := Pass.Continues.withCursor last attested.distinct builder.cursor
  exact ⟨attested.of_continues rest, continues.carries.trans (carries.trans rest.carries),
    satisfies.of_carries rest.carries⟩

/-- Each function that is required gets its entry. -/
theorem emitEntries (attested : job.Attested stated before) (plain : job.program.PlainNames)
    (discerns : job.program.Discerns) {entries : List ConformanceEntry}
    (listed : ∀ entry ∈ entries, entry ∈ job.program.pairings) {witnesses : List WitnessEntry}
    (done : job.emitEntries entries before = .ok witnesses after) :
    job.Attested stated after ∧ before.Carries after ∧
      List.Forall₂ (job.Meets after) (entries.filter job.program.demands) witnesses := by
  induction entries generalizing before witnesses with
  | nil =>
    obtain ⟨rfl, rfl⟩ := (run_pure _ _ _ _).mp done
    exact ⟨attested, .refl _, .nil⟩
  | cons entry rest rest_ih =>
    have later := fun other inside => listed other (List.mem_cons_of_mem entry inside)
    obtain ⟨requirement, asked, done⟩ := (run_check_bind _ _ _ _ _).mp done
    have requires := (lift_answer _ _).mp asked
    have demands : job.program.demands entry = requirement.routine?.isSome := by
      simp [Program.demands, requires, Except.toOption]
    split at done
    next other =>
      rw [List.filter_cons_of_neg (by simpa [demands] using other)]
      exact rest_ih attested later done
    next function =>
      rw [List.filter_cons_of_pos (by simpa [demands, Option.isSome_iff_ne_none] using function)]
      obtain ⟨thunk, between, emitted, done⟩ := (run_bind _ _ _ _ _).mp done
      obtain ⟨others, last, more, done⟩ := (run_bind _ _ _ _ _).mp done
      obtain ⟨rfl, rfl⟩ := (run_pure _ _ _ _).mp done
      obtain ⟨attested, first, satisfies⟩ :=
        attested.emitWitness plain discerns (listed entry (List.mem_cons_self ..)) emitted
      obtain ⟨attested, carries, meets⟩ := rest_ih attested later more
      exact ⟨attested, first.trans carries,
        .cons ⟨rfl, ⟨requirement, requires, rfl⟩, satisfies.of_carries carries⟩ meets⟩

/-- A conformance adds its table. -/
theorem emitConformance (attested : job.Attested stated before) (plain : job.program.PlainNames)
    (discerns : job.program.Discerns) {id : DeclId} {ty : Ty}
    (declared : job.program.declaredType id = .ok ty) {conformance : Conformance}
    (listed : ∀ entry ∈ conformance.entries, entry ∈ job.program.pairings)
    (done : job.emitConformance ty conformance before = .ok () after) :
    job.Attested (stated ++ [(id, conformance)]) after := by
  obtain ⟨view, asked, done⟩ := (run_check_bind _ _ _ _ _).mp done
  obtain ⟨witnesses, between, emitted, done⟩ := (run_bind _ _ _ _ _).mp done
  obtain ⟨attested, _, meets⟩ := attested.emitEntries plain discerns listed emitted
  obtain ⟨builder, added, rfl⟩ := (lift_build _ _ _ _).mp done
  obtain rfl := (BuildM.run_addWitnessTable _ _ _ _).mp added
  have carries : between.Carries { between with
      builder := between.builder.modifyModule (Module.addWitnessTable · ⟨ty, view, witnesses⟩) } :=
    ⟨fun _ _ kept => kept, fun _ function found => ⟨function, found, rfl, fun _ first _ => first⟩⟩
  have attests : job.Attests between (id, conformance) ⟨ty, view, witnesses⟩ :=
    ⟨declared, (lift_answer _ _).mp asked, meets⟩
  refine ⟨attested.distinct, fun name thunk tall => ?_, ?_⟩
  · obtain ⟨entry, listed, satisfies⟩ := attested.recorded name thunk tall
    exact ⟨entry, listed, satisfies.of_carries carries⟩
  · have tables := List.rel_append attested.tables (List.Forall₂.cons attests .nil)
    exact tables.imp fun _ _ attests => attests.of_carries carries

/-- A type adds the tables of its conformances, in order. -/
theorem emitConformances (attested : job.Attested stated before) (plain : job.program.PlainNames)
    (discerns : job.program.Discerns) {id : DeclId} {ty : Ty}
    (declared : job.program.declaredType id = .ok ty) {conformances : List Conformance}
    (listed : ∀ conformance ∈ conformances, ∀ entry ∈ conformance.entries,
      entry ∈ job.program.pairings)
    (done : conformances.forM (job.emitConformance ty) before = .ok () after) :
    job.Attested (stated ++ conformances.map (id, ·)) after := by
  induction conformances generalizing stated before with
  | nil =>
    obtain ⟨_, rfl⟩ := (run_pure _ _ _ _).mp done
    simpa using attested
  | cons conformance rest rest_ih =>
    obtain ⟨_, between, emitted, done⟩ := (run_bind _ _ _ _ _).mp done
    have attested := attested.emitConformance plain discerns declared
      (listed conformance (List.mem_cons_self ..)) emitted
    have whole := rest_ih attested
      (fun other inside => listed other (List.mem_cons_of_mem _ inside)) done
    rwa [List.append_assoc] at whole

end Attested

end Job

/-- The conformances are stated by witness tables as the declarations are lowered. -/
def attesting (job : Job) (plain : job.program.PlainNames) (discerns : job.program.Discerns) :
    Chronicle job where
  after visited := .ofContinues job plain (job.Attested (visited.flatMap job.program.stated))
    (fun _ attested => attested.distinct) fun _ _ attested => attested.of_continues
  cursor cursor attested := Job.Attested.of_continues attested
    (.withCursor _ (Job.Attested.distinct attested) cursor)
  silent := by
    intro visited id decl pass found silent attested
    have none : job.program.stated id = [] := by
      cases kind : decl.kind <;>
        simp_all [Program.stated, Program.conformances, Decl.isSilent]
    simpa [none] using attested
  bare := by
    intro visited id decl routine name function pass found listed _ _ _ attested
    have none := job.program.stated_of_routine found listed
    simpa [none] using attested
  opened := by
    intro visited id decl routine name function pass label args builder found listed _ assigned
      present _ created attested
    obtain ⟨_, again, _, _, rfl⟩ := BuildM.run_createBlock created
    obtain rfl := Option.some.inj (present.symm.trans again)
    obtain rfl := Module.name_of_function? present
    have named := (Job.Attested.distinct attested).hasName assigned
    have kept := Job.Attested.addBlock attested present
      (fun thunk => thunk.not_hasName plain id named) function.signature.params
    have none := job.program.stated_of_routine found listed
    show job.Attested ((visited ++ [id]).flatMap job.program.stated) _
    simpa [none] using kept
  product := by
    intro visited id decl members conformances env ty before last found kind typed done attested
    have present := Program.decl_eq_ok.mp found
    have same : Program.conformances decl = conformances := by simp [Program.conformances, kind]
    have kept := Job.Attested.emitConformances attested plain discerns typed
      (fun conformance stated entry inside =>
        Program.mem_pairings present (same.symm ▸ stated) inside) done
    show job.Attested ((visited ++ [id]).flatMap job.program.stated) last
    simpa [Program.stated, found, same] using kept

/--
Where names are plain, and what one implementation satisfies is told apart by qualified paths, the
witness tables of the module are those of the conformances of the types that were lowered, in order.
A table has an entry for each function that its view requires, and the thunk of the entry has the
signature of the requirement and forwards to the implementation.
-/
theorem lower_attests {program : Program} {options : Options} {id : DeclId} {lowered : Lowered}
    (plain : program.PlainNames) (discerns : program.Discerns)
    (done : lower program id options = .ok lowered) :
    ∃ pass trail, Job.emitModule ⟨program, options⟩ id (Pass.start options) = .ok () pass ∧
      pass.builder.module = lowered.module ∧ program.Tour [id] trail ∧
      List.Forall₂ (Job.Attests ⟨program, options⟩ pass) (trail.flatMap program.stated)
        lowered.module.witnessTables := by
  obtain ⟨pass, trail, ran, same, tour, attested⟩ :=
    Chronicle.lower (attesting ⟨program, options⟩ plain discerns)
      (Job.Attested.start program options) done
  exact ⟨pass, trail, ran, same, tour, same ▸ Job.Attested.tables attested⟩

open Assembly in
/--
A type inside a function conforms to a view with a constructor and two methods. One of the methods
is mutating, but not the one that satisfies it.
-/
def vouching : Assembly Unit := do
  let main ← addModule "main"
  let view ← addView main "V"
  let made ← addConstructor view []
  let reading ← addMethod view "get" [] .int false
  let writing ← addMethod view "set" [] .int true
  let outer ← addFunction main "outer" [] .int
  let inner ← addProduct outer "Inner"
  let constructor ← addConstructor inner []
  let method ← addMethod inner "get" [] .int false
  addConformance inner view [⟨made, constructor⟩, ⟨reading, method⟩, ⟨writing, method⟩]
  let one : Expr := .int ⟨.int, Span.unknown⟩ 1
  setBody outer ⟨[.decl inner, .returned (some one) Span.unknown], Span.unknown⟩

theorem lower_attests_vouching :
    vouching.built.PlainNames ∧ vouching.built.Discerns ∧
      ∃ lowered, lower vouching.built ⟨0⟩ Options.standard = .ok lowered ∧
        lowered.module.witnessTables.map (fun table =>
          (table.view.name, table.entries.map fun entry => (entry.name, entry.function))) =
            [("V", [("init", "outer.Inner.init$witness$V.init"),
              ("get", "outer.Inner.get$witness$V.get"), ("set", "outer.Inner.get$witness$V.set")])] ∧
        ∃ pass trail, Job.emitModule ⟨vouching.built, Options.standard⟩ ⟨0⟩
            (Pass.start Options.standard) = .ok () pass ∧
          pass.builder.module = lowered.module ∧ vouching.built.Tour [⟨0⟩] trail ∧
          List.Forall₂ (Job.Attests ⟨vouching.built, Options.standard⟩ pass)
            (trail.flatMap vouching.built.stated) lowered.module.witnessTables := by
  have plain : vouching.built.PlainNames := by decide +kernel
  have discerns : vouching.built.Discerns := by decide +kernel
  have lowers : (lower vouching.built ⟨0⟩ Options.standard).toOption.map
      (·.module.witnessTables.map fun table =>
        (table.view.name, table.entries.map fun entry => (entry.name, entry.function))) =
        some [("V", [("init", "outer.Inner.init$witness$V.init"),
          ("get", "outer.Inner.get$witness$V.get"), ("set", "outer.Inner.get$witness$V.set")])] := by
    decide +kernel
  obtain ⟨lowered, done, tables⟩ := ok_of_map lowers
  exact ⟨plain, discerns, lowered, done, tables, lower_attests plain discerns done⟩

end Lowering
