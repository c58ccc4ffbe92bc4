import Lowering.Proofs.Construction
import Lowering.Proofs.Program.Memberwise
import Lowering.Proofs.Prologue

/-
This file shows what a memberwise constructor is lowered to: it stores to each member that its type
had when the constructor was declared, and to no other.
-/

namespace Lowering

open IR

namespace IR

/-- Each value is stored to the address of its member, one after another. -/
inductive StoresMembers (program : Program) (env : GenericEnv) (record : Value) :
    List (DeclId × Value) → List Instruction → Prop
  | nil : StoresMembers program env record [] []
  | cons {var : DeclId} {value : Value} {address : TempId} {member : Decl}
      {rest : List (DeclId × Value)} {stores : List Instruction}
      (found : program.find? var = some member)
      (later : StoresMembers program env record rest stores) :
      StoresMembers program env record ((var, value) :: rest)
        (.recordMemberAddr address record var member.name
            (.address (member.ty.contextualized env)) ::
          .store value (Value.temp address (.address (member.ty.contextualized env))) :: stores)

/--
A block that makes room for a record, stores the parameters to these members of it, one by one, and
returns what is there.
-/
def Block.Initializes (program : Program) (env : GenericEnv) (ty : Ty) (vars : List DeclId)
    (block : Block) : Prop :=
  vars.length = block.params.length ∧ ∃ slot stores loaded,
    block.instructions = .allocStack slot ty :: (stores ++
      [.load loaded (Value.temp slot (.address ty)) (.object ty),
        .ret (Value.temp loaded (.object ty))]) ∧
    StoresMembers program env (Value.temp slot (.address ty)) (vars.zip block.paramValues) stores

/-- The members that a function takes the address of, in order. -/
def Function.addressed (function : Function) : List DeclId :=
  function.instructions.filterMap fun
    | .recordMemberAddr _ _ member _ _ => some member
    | _ => none

end IR

namespace Frame

variable {frame : Frame} {decl : Decl} {routine : Routine} {before after : Activation}
  {function : Function} {block : Block}

theorem run_recordMemberAddr {record address : Value} {var : DeclId} {name : String} {ty : Ty}
    (place : before.pass.builder.At function block)
    (done : (liftM (BuildM.recordMemberAddr record var name ty) : BodyM Value) before =
      .ok address after) :
    ∃ temp final, address = Value.temp temp (.address ty) ∧ after.locals = before.locals ∧
      after.pass.builder.At final
        (block.add (.recordMemberAddr temp record var name (.address ty))) ∧
      final.name = function.name := by
  obtain ⟨pass, lifted, rfl⟩ := (lift_pass _ _ _ _).mp done
  obtain ⟨builder, addressed, rfl⟩ := (lift_build _ _ _ _).mp lifted
  obtain ⟨again, other, same, rfl, rfl⟩ :=
    BuildM.run_define (BuildM.run_requireAddress_bind addressed)
  obtain ⟨rfl, rfl⟩ := place.unique same
  exact ⟨_, _, rfl, rfl, place.define rfl, rfl⟩

theorem run_store {value location : Value} (place : before.pass.builder.At function block)
    (done : (liftM (BuildM.store value location) : BodyM Unit) before = .ok () after) :
    ∃ final, after.locals = before.locals ∧
      after.pass.builder.At final (block.add (.store value location)) ∧
      final.name = function.name := by
  obtain ⟨pass, lifted, rfl⟩ := (lift_pass _ _ _ _).mp done
  obtain ⟨builder, stored, rfl⟩ := (lift_build _ _ _ _).mp lifted
  obtain ⟨_, _, same, rfl⟩ := BuildM.run_append (BuildM.run_requireAddress_bind stored)
  obtain ⟨rfl, rfl⟩ := place.unique same
  exact ⟨_, rfl, place.append rfl, rfl⟩

/-- The members are stored to as long as there are parameters. -/
theorem run_emitMemberStores (found : frame.program.decl frame.owner = .ok decl)
    (listed : decl.routine? = some routine) {record : Value} (vars : List DeclId)
    {params : List DeclId} {values : List Value}
    (bound : List.Forall₂ (fun param value => before.locals.get? param = some value) params values)
    (place : before.pass.builder.At function block)
    (done : frame.emitMemberStores record (vars.zip params) before = .ok () after) :
    ∃ stores final last, after.locals = before.locals ∧ after.pass.builder.At final last ∧
      final.name = function.name ∧ last.label = block.label ∧ last.params = block.params ∧
      last.instructions = block.instructions ++ stores ∧
      StoresMembers frame.program routine.env record (vars.zip values) stores := by
  induction vars generalizing params values before function block with
  | nil =>
    obtain ⟨_, rfl⟩ := (run_pure _ _ _ _).mp done
    exact ⟨[], function, block, rfl, place, rfl, rfl, rfl, (List.append_nil _).symm, .nil⟩
  | cons var vars vars_ih =>
    cases bound with
    | nil =>
      obtain ⟨_, rfl⟩ := (run_pure _ _ _ _).mp done
      exact ⟨[], function, block, rfl, place, rfl, rfl, rfl, (List.append_nil _).symm, .nil⟩
    | @cons param value params values given bound =>
      obtain ⟨member, there, done⟩ := (run_ask_bind _ _ _ _ _).mp done
      obtain ⟨ty, seen, done⟩ := (run_ask_bind _ _ _ _ _).mp done
      obtain ⟨own, asked, seen⟩ := (check_bind _ _ _).mp seen
      obtain rfl := Except.ok.inj ((routine_eq_ok found listed).symm.trans asked)
      obtain rfl := (check_pure _ _).mp seen
      obtain ⟨address, first, addressed, done⟩ := (run_bind _ _ _ _ _).mp done
      obtain ⟨temp, other, rfl, same, placed, name⟩ := run_recordMemberAddr place addressed
      obtain ⟨known, _, looked, done⟩ := (run_bind _ _ _ _ _).mp done
      obtain ⟨held, rfl⟩ := run_local? looked
      rw [same] at held
      obtain rfl := given.symm.trans held
      obtain ⟨_, second, stored, done⟩ := (run_bind _ _ _ _ _).mp done
      obtain ⟨third, kept, placed, name_kept⟩ := run_store placed stored
      obtain ⟨stores, final, last, locals, place, named, label, params, instructions, all⟩ :=
        vars_ih (bound.imp fun _ _ held => by rw [kept, same, held]) placed done
      have there := Program.decl_eq_ok.mp ((lift_answer _ _).mp there)
      refine ⟨.recordMemberAddr temp record var member.name _ :: .store value _ :: stores, final,
        last, ?_, place, ?_, label, params, ?_, .cons there all⟩
      · rw [locals, kept, same]
      · rw [named, name_kept, name]
      · rw [instructions]
        simp [Block.add]

/-- The body of a memberwise constructor stores the parameters, and returns the receiver. -/
theorem run_emitSynthesized (found : frame.program.decl frame.owner = .ok decl)
    (listed : decl.routine? = some routine) (synthesized : routine.isSynthesized = true)
    (constructs : routine.isConstructor = true) {self : DeclId} (own : routine.self = some self)
    {slot : TempId} {ty : Ty}
    (known : before.locals.get? self = some (Value.temp slot (.address ty))) {values : List Value}
    (bound : List.Forall₂ (fun param value => before.locals.get? param = some value)
      routine.params values)
    (place : before.pass.builder.At function block)
    (done : frame.emitSynthesized before = .ok () after) :
    ∃ type vars stores loaded final last, decl.parent = some type ∧
      frame.program.storedVars type = .ok vars ∧
      after.pass.builder.module.function? function.name = some final ∧
      final.block? block.label = some last ∧ last.params = block.params ∧
      last.instructions = block.instructions ++ (stores ++
        [.load loaded (Value.temp slot (.address ty)) (.object ty),
          .ret (Value.temp loaded (.object ty))]) ∧
      StoresMembers frame.program routine.env (Value.temp slot (.address ty)) (vars.zip values)
        stores := by
  unfold emitSynthesized at done
  obtain ⟨again, asked, done⟩ := (run_ask_bind _ _ _ _ _).mp done
  obtain rfl := Except.ok.inj (found.symm.trans ((lift_answer _ _).mp asked))
  obtain ⟨holds, owned, done⟩ := (run_ask_bind _ _ _ _ _).mp done
  obtain rfl := Except.ok.inj ((routine_eq_ok found listed).symm.trans owned)
  simp only [synthesized, constructs, Bool.and_self, Bool.not_true, Bool.false_eq_true,
    if_false] at done
  cases outer : decl.parent with
  | none =>
    simp only [outer] at done
    exact ((run_ask_abort _ _ _ _).mp done).elim
  | some type =>
    simp only [outer] at done
    obtain ⟨space, _, done⟩ := (run_ask_bind _ _ _ _ _).mp done
    cases kind : space.kind with
    | product =>
      simp only [kind, own] at done
      obtain ⟨held, _, looked, done⟩ := (run_bind _ _ _ _ _).mp done
      obtain ⟨same, rfl⟩ := run_local? looked
      obtain rfl := known.symm.trans same
      simp only [pure_bind] at done
      obtain ⟨vars, stored, done⟩ := (run_ask_bind _ _ _ _ _).mp done
      obtain ⟨_, between, members, done⟩ := (run_bind _ _ _ _ _).mp done
      obtain ⟨stores, final, last, locals, placed, named, label, params, instructions, all⟩ :=
        run_emitMemberStores found listed vars bound place members
      -- The receiver is returned like that of any other constructor.
      have ends : emitConstructorEnd routine between = .ok () after := by
        unfold emitConstructorEnd
        rw [own]
        refine (bind_of_ok rfl).trans ?_
        rw [locals, known]
        exact done
      obtain ⟨loaded, later, present, inside⟩ :=
        run_emitConstructorEnd placed own (locals ▸ known) ends
      rw [named] at present
      rw [label] at inside
      refine ⟨type, vars, stores, loaded, later, (last.add _).add _, rfl,
        (lift_answer _ _).mp stored, present, inside, params, ?_, all⟩
      simp [Block.add, instructions]
    | _ =>
      simp only [kind] at done
      exact ((run_ask_abort _ _ _ _).mp done).elim

end Frame

/-- Of declarations in the order of their declaration, those before a bound come first. -/
theorem filter_eq_take {ids : List DeclId}
    (ascend : ids.Pairwise fun first later => first.index < later.index) (bound : Nat) :
    ids.filter (·.index < bound) = ids.take (ids.filter (·.index < bound)).length := by
  induction ids with
  | nil => rfl
  | cons id rest rest_ih =>
    obtain ⟨behind, ascend⟩ := List.pairwise_cons.mp ascend
    by_cases below : id.index < bound
    · rw [List.filter_cons_of_pos (by simpa using below), List.length_cons, List.take_succ_cons,
        ← rest_ih ascend]
    · have nothing : (id :: rest).filter (·.index < bound) = [] := by
        refine List.filter_eq_nil_iff.mpr fun other listed => ?_
        rcases List.mem_cons.mp listed with rfl | later
        · simpa using below
        · simpa using Nat.le_trans (Nat.le_of_not_lt below) (Nat.le_of_lt (behind other later))
      rw [nothing]
      rfl

/-- What is paired with as many values as there are declarations before the bound is these. -/
theorem zip_filter_eq {ids : List DeclId} {values : List Value}
    (ascend : ids.Pairwise fun first later => first.index < later.index) {bound : Nat}
    (count : (ids.filter (·.index < bound)).length = values.length) :
    (ids.filter (·.index < bound)).zip values = ids.zip values := by
  rw [filter_eq_take ascend, count]
  calc (ids.take values.length).zip values
    _ = (ids.take values.length).zip (values.take values.length) := by rw [List.take_length]
    _ = (ids.zip values).take values.length := List.take_zipWith.symm
    _ = ids.zip values :=
      List.take_of_length_le (List.length_zip ▸ Nat.min_le_right _ _)

namespace Job

variable {job : Job} {id : DeclId} {decl : Decl} {routine : Routine}

/-- A block initializes the members that the type had when the constructor was declared. -/
def Initialized (program : Program) (id : DeclId) (decl : Decl) (routine : Routine) (result : Ty)
    (block : Block) : Prop :=
  ∃ type vars, decl.parent = some type ∧ program.storedVars type = .ok vars ∧
    block.Initializes program routine.env (result.contextualized routine.env)
      (vars.filter (·.index < id.index))

theorem fill_initializes {nested : DeclId → PassM Unit} {name : String} {before after : Pass}
    {function : Function} {self : DeclId} {result : Ty} (formed : job.program.Formed)
    (assembled : job.program.Assembled) (found : job.program.find? id = some decl)
    (listed : decl.routine? = some routine) (constructs : routine.isConstructor = true)
    (synthesized : routine.isSynthesized = true) (bare : routine.body = none)
    (filled : routine.isFilled = true)
    (makes : job.program.MakesReceiver id decl.ty routine self result)
    (present : before.builder.module.function? name = some function)
    (empty : function.isDeclaration = true) (signed : job.signature id = .ok function.signature)
    (done : job.fill nested id routine name function.signature before = .ok () after) :
    ∃ final block, after.builder.module.function? name = some final ∧
      final.block? function.labels.issued = some block ∧
      Initialized job.program id decl routine result block := by
  obtain ⟨captures, locals, entered, final, entry, captured, _, enters, begins, _, prologue⟩ :=
    enter_prologue formed assembled found listed filled present empty signed
  have nothing := Program.captures_of_bodyless found (by rw [listed]; exact bare)
  obtain rfl := Except.ok.inj (nothing.symm.trans captured)
  have free := (assembled.routed id decl found routine listed).2 constructs
  have takers : routine.takers [] = routine.params := by
    rw [Routine.takers, Routine.receivers, free]
    rfl
  obtain ⟨given, own, slot, same, known, room, _, bound⟩ := prologue.constructs constructs
  obtain rfl := Option.some.inj (makes.given.symm.trans same)
  obtain ⟨again, known_again, _, _, typed⟩ := makes.borrows
  obtain rfl := Option.some.inj (known.symm.trans known_again)
  have based : own.ty.base = result := by
    rw [typed]
    rfl
  rw [based] at room bound
  have arguments : List.Forall₂ (fun param value => locals.get? param = some value)
      routine.params entry.paramValues := by
    refine List.forall₂_iff_zip.mpr ⟨?_, fun listed => ?_⟩
    · rw [← takers, ← prologue.exhausted, Block.paramValues, List.length_map]
    · exact prologue.arguments _ _ (takers.symm ▸ listed)
  rw [fill_eq_enter, bind_of_ok enters] at done
  obtain ⟨last, ran, rfl⟩ := (run_activate _ _ _ _ _).mp done
  unfold Frame.emitBody at ran
  simp only [bare] at ran
  obtain ⟨type, vars, stores, loaded, later, block, outer, stored, there, inside, params,
    instructions, all⟩ := @Frame.run_emitSynthesized ⟨job, id⟩ _ _ _ _ _ _
      (Program.decl_eq_ok.mpr found) listed synthesized constructs self same _ _ bound _ arguments
      begins.place ran
  have successive := assembled.successive
  have count := assembled.tallies.length_params successive stored found listed synthesized outer
  have exhausted : entry.params.length = routine.params.length := by
    rw [prologue.exhausted, takers]
  have label : entry.label = function.labels.issued := begins.label
  refine ⟨later, block, begins.name ▸ there, label ▸ inside, type, vars, outer, stored,
    by rw [count, params, exhausted], slot, stores, loaded, ?_, ?_⟩
  · rw [instructions, room]
    rfl
  · rw [Block.paramValues, params, ← Block.paramValues,
      zip_filter_eq (formed.storedVars_ascend successive stored)]
    · exact all
    · rw [count, Block.paramValues, List.length_map, exhausted]

/-- The shape of a first block that initializes what its parameters are for. -/
def initializing (program : Program) (id : DeclId) (decl : Decl) (routine : Routine)
    (result : Ty) : Aim where
  target := id
  shape _ block := Initialized program id decl routine result block
  admits _ := True
  earlier _ _ := trivial

end Job

/-- A block has as many parameters as it initializes members. -/
theorem IR.Block.Initializes.iff {program : Program} {env : GenericEnv} {ty : Ty}
    {vars : List DeclId} {bound : Nat} {block : Block}
    (initializes : block.Initializes program env ty (vars.filter (·.index < bound))) :
    block.Initializes program env ty vars ↔ ∀ var ∈ vars, var.index < bound := by
  constructor
  · intro all
    have same := List.length_filter_eq_length_iff.mp (initializes.1.trans all.1.symm)
    exact fun var listed => by simpa using same var listed
  · intro all
    rwa [List.filter_eq_self.mpr fun var listed => by simpa using all var listed] at initializes

open Assembly in
/--
Whatever a program is assembled of, and in whatever order: a memberwise constructor that is lowered
makes room for its receiver, stores its parameters to the stored members that the type had when the
constructor was declared, one by one and in their order, and returns what is there. It initializes
all stored members exactly when none was declared later. A body that it is given is lowered instead.
-/
theorem lower_initializes {calls : List Call} {program : Program}
    (made : Call.makeAll calls Program.empty = some program) {root id : DeclId} {options : Options}
    {lowered : Lowered} (done : lower program root options = .ok lowered)
    (lowers : program.Lowers root id) {decl : Decl} (found : program.find? id = some decl)
    {routine : Routine} (listed : decl.routine? = some routine)
    (constructs : routine.isConstructor = true) (synthesized : routine.isSynthesized = true)
    (bare : routine.body = none) :
    ∃ type vars pass name function block types result,
      decl.parent = some type ∧ program.storedVars type = .ok vars ∧ vars.Nodup ∧
      Job.emitModule ⟨program, options⟩ root (Pass.start options) = .ok () pass ∧
      pass.builder.module = lowered.module ∧ pass.names.assigned.get? id = some name ∧
      lowered.module.function? name = some function ∧ function.entry? = some block ∧
      ((∀ path, program.qualifiedName id = .ok path → '$' ∉ path.toList) →
        function.blocks = [block]) ∧
      decl.ty = .function types result ∧
      block.Initializes program routine.env (result.contextualized routine.env)
        (vars.filter (·.index < id.index)) ∧
      (block.Initializes program routine.env (result.contextualized routine.env) vars ↔
        ∀ var ∈ vars, var.index < id.index) := by
  have formed := Call.makeAll_formed calls Program.formed_empty made
  have assembled := Call.makeAll_assembled calls .empty made
  obtain ⟨self, result, makes⟩ := assembled.receiving id decl routine found listed constructs
  obtain ⟨types, typed⟩ := makes.returns
  have ordinary : routine.isBuiltin = false := by
    simp only [Routine.isConstructor, Routine.isBuiltin, beq_iff_eq] at constructs ⊢
    rw [constructs]
    rfl
  have filled : routine.isFilled = true := by simp [Routine.isFilled, ordinary, synthesized]
  obtain ⟨pass, ran, same, _⟩ := run_lower done
  have start := naming_start program options
  have empty := Module.wellFormed_empty options.moduleName
  let job : Job := ⟨program, options⟩
  let aim := Job.initializing program id decl routine result
  have known : job.program.decl id = .ok decl := Program.decl_eq_ok.mpr found
  have fills (levels : Nat) (before : Pass) :
      aim.Delivers job (job.emitRoutine (job.emitWithin levels) id) before := by
    refine Job.Aim.delivers_of_filled (Policy.Visits.emitWithin levels) known listed filled ?_
      before
    intro name function middle last _ _ present empty signed fills _
    exact Job.fill_initializes formed assembled found listed constructs synthesized bare filled
      makes present (List.isEmpty_iff.mpr empty) signed fills
  have delivers := Job.Aim.emitModule_delivers known listed ordinary fills lowers
    (Pass.start options)
  obtain ⟨name, ⟨assigned, function, block, present, first, type, vars, outer, stored, initializes⟩,
    _⟩ := delivers empty start () pass ran trivial
  obtain ⟨good, _⟩ := Policy.Visits.emitModule root (Pass.start options) empty start () pass ran
  have ascend := formed.storedVars_ascend assembled.successive stored
  refine ⟨type, vars, pass, name, function, block, types, result, outer, stored,
    nodup_of_ascend ascend, ran, same, assigned, same ▸ present,
    (good.of_function? present).entry_eq.trans first, fun unmarked => ?_, typed, initializes,
    initializes.iff⟩
  exact Job.sole_block ran assigned unmarked present (Function.mem_of_block? first)

/--
Two types with memberwise constructors: the first gets another stored member afterwards, and the
constructor of the second is given a body.
-/
def lateCalls : List Assembly.Call := [
  .addModule "main", .addProduct ⟨0⟩ "Point", .addStoredProperty ⟨1⟩ "x" .int,
  .addMemberwiseConstructor ⟨1⟩, .addStoredProperty ⟨1⟩ "y" .int, .addProduct ⟨0⟩ "Cell",
  .addStoredProperty ⟨9⟩ "v" .int, .addMemberwiseConstructor ⟨9⟩,
  .setBody ⟨12⟩ ⟨[], Span.unknown⟩]

def late : Program := Assembly.Call.made lateCalls

theorem late_made : Assembly.Call.makeAll lateCalls Program.empty = some late :=
  Assembly.Call.makeAll_eq_made (by decide +kernel)

/-- The member that was there before is initialized, and the constructor is the only block. -/
theorem lower_initializes_late :
    Assembly.Call.makeAll lateCalls Program.empty = some late ∧ late.Lowers ⟨0⟩ ⟨4⟩ ∧
      late.storedVars ⟨1⟩ = .ok [⟨2⟩, ⟨7⟩] ∧
      ∃ lowered decl routine, lower late ⟨0⟩ Options.standard = .ok lowered ∧
        late.find? ⟨4⟩ = some decl ∧ decl.routine? = some routine ∧
        routine.isConstructor = true ∧ routine.isSynthesized = true ∧ routine.body = none ∧
        ∃ pass name function block types result, decl.parent = some ⟨1⟩ ∧
          Job.emitModule ⟨late, Options.standard⟩ ⟨0⟩ (Pass.start Options.standard) = .ok () pass ∧
          pass.builder.module = lowered.module ∧ pass.names.assigned.get? ⟨4⟩ = some name ∧
          lowered.module.function? name = some function ∧ function.blocks = [block] ∧
          decl.ty = .function types result ∧
          block.Initializes late routine.env (result.contextualized routine.env) [⟨2⟩] ∧
          ¬block.Initializes late routine.env (result.contextualized routine.env) [⟨2⟩, ⟨7⟩] := by
  have lowers : (lower late ⟨0⟩ Options.standard).toOption.map (·.report.containsError) =
      some false := by
    decide +kernel
  have seen : (late.find? ⟨4⟩).bind (fun decl => decl.routine?.map fun routine => (decl.parent,
      routine.isConstructor, routine.isSynthesized, routine.body.isNone)) =
        some (some ⟨1⟩, true, true, true) := by
    decide +kernel
  have members : late.storedVars ⟨1⟩ = .ok [⟨2⟩, ⟨7⟩] := by decide +kernel
  have reached : late.Lowers ⟨0⟩ ⟨4⟩ :=
    have type : (⟨1⟩ : DeclId) ∈ late.nested ⟨0⟩ := by decide +kernel
    have member : (⟨4⟩ : DeclId) ∈ late.nested ⟨1⟩ := by decide +kernel
    .step type (.step member (.refl _))
  have unmarked : ∀ path, late.qualifiedName ⟨4⟩ = .ok path → '$' ∉ path.toList := by
    have qualified : late.qualifiedName ⟨4⟩ = .ok "Point.init" := by decide +kernel
    rintro path given
    obtain rfl := Except.ok.inj (qualified.symm.trans given)
    decide
  obtain ⟨lowered, done, _⟩ := ok_of_map lowers
  obtain ⟨decl, found, seen⟩ := Option.bind_eq_some_iff.mp seen
  obtain ⟨routine, listed, seen⟩ := Option.map_eq_some_iff.mp seen
  simp only [Prod.mk.injEq, Option.isNone_iff_eq_none] at seen
  obtain ⟨parent, constructs, synthesized, bare⟩ := seen
  obtain ⟨type, vars, pass, name, function, block, types, result, outer, stored, _, ran, same,
    assigned, present, _, single, typed, initializes, all⟩ :=
    lower_initializes late_made done reached found listed constructs synthesized bare
  obtain rfl := Option.some.inj (parent.symm.trans outer)
  obtain rfl := Except.ok.inj (members.symm.trans stored)
  refine ⟨late_made, reached, stored, lowered, decl, routine, done, found, listed, constructs,
    synthesized, bare, pass, name, function, block, types, result, outer, ran, same, assigned,
    present, single unmarked, typed, initializes, fun whole => ?_⟩
  exact absurd (all.mp whole ⟨7⟩ (by simp)) (by decide)

/-- The later member is left as it was, and so is the one that the given body leaves out. -/
theorem late_members_unset :
    Assembly.Call.makeAll lateCalls Program.empty = some late ∧
      late.storedVars ⟨1⟩ = .ok [⟨2⟩, ⟨7⟩] ∧ late.storedVars ⟨9⟩ = .ok [⟨10⟩] ∧
      (∀ entry ∈ [(⟨4⟩, ⟨1⟩), (⟨12⟩, ⟨9⟩)], ∃ decl routine, late.find? entry.1 = some decl ∧
        decl.parent = some entry.2 ∧ decl.routine? = some routine ∧
        routine.isConstructor = true ∧ routine.isSynthesized = true) ∧
      ∃ lowered point cell, lower late ⟨0⟩ Options.standard = .ok lowered ∧
        lowered.report.containsError = false ∧
        lowered.module.function? "Point.init" = some point ∧
        lowered.module.function? "Cell.init" = some cell ∧
        point.addressed = [⟨2⟩] ∧ cell.addressed = [] := by
  have declared (id type : DeclId) (seen : (late.find? id).bind (fun decl =>
      decl.routine?.map fun routine => (decl.parent, routine.isConstructor,
        routine.isSynthesized)) = some (some type, true, true)) :
      ∃ decl routine, late.find? id = some decl ∧ decl.parent = some type ∧
        decl.routine? = some routine ∧ routine.isConstructor = true ∧
        routine.isSynthesized = true := by
    obtain ⟨decl, found, seen⟩ := Option.bind_eq_some_iff.mp seen
    obtain ⟨routine, listed, seen⟩ := Option.map_eq_some_iff.mp seen
    obtain ⟨parent, constructs, synthesized⟩ : _ ∧ _ ∧ _ := by
      simpa only [Prod.mk.injEq] using seen
    exact ⟨decl, routine, found, parent, listed, constructs, synthesized⟩
  have seen : (lower late ⟨0⟩ Options.standard).toOption.map (fun lowered =>
      (lowered.report.containsError, (lowered.module.function? "Point.init").map
        Function.addressed, (lowered.module.function? "Cell.init").map Function.addressed)) =
        some (false, some [⟨2⟩], some []) := by
    decide +kernel
  obtain ⟨lowered, done, seen⟩ := ok_of_map seen
  simp only [Prod.mk.injEq, Option.map_eq_some_iff] at seen
  obtain ⟨clean, ⟨point, present, addressed⟩, cell, found, nothing⟩ := seen
  refine ⟨late_made, by decide +kernel, by decide +kernel, ?_, lowered, point, cell, done, clean,
    present, found, addressed, nothing⟩
  simp only [List.forall_mem_cons, List.not_mem_nil, false_implies, implies_true, and_true]
  exact ⟨declared ⟨4⟩ ⟨1⟩ (by decide +kernel), declared ⟨12⟩ ⟨9⟩ (by decide +kernel)⟩

end Lowering
