import Lowering.Proofs.Pass.Declaration
import Lowering.Proofs.Pass.Signature
import Lowering.Proofs.Program.Assembled
import Lowering.Proofs.Program.Conforming

/-
This file compares the arguments of calls with the parameters of the functions that they call. A
function has a parameter for each of its captures, but neither a method call nor a thunk passes
any: the counts agree exactly if what is called captures nothing.
-/

namespace Lowering

open IR

/-- The function of the module that an instruction calls, and how many arguments it passes. -/
def IR.Instruction.call? : Instruction → Option (String × Nat)
  | .apply _ ⟨.function name, _⟩ args _ => some (name, args.length)
  | _ => none

/-- The calls of functions by name, in the order of the listing. -/
def IR.Module.calls (module : Module) : List (String × Nat) :=
  (module.functions.flatMap Function.instructions).filterMap Instruction.call?

theorem IR.Instruction.apply_of_call? {instruction : Instruction} {name : String} {count : Nat}
    (calls : instruction.call? = some (name, count)) :
    ∃ result ty args type,
      instruction = .apply result ⟨.function name, ty⟩ args type ∧ args.length = count := by
  unfold call? at calls
  split at calls
  next result given ty args type =>
    obtain ⟨rfl, rfl⟩ := Prod.mk.inj (Option.some.inj calls)
    exact ⟨result, ty, args, type, rfl, rfl⟩
  next => cases calls

namespace Program

variable (program : Program)

/--
The type of a reference, a member or a call is that of what it denotes, and a call passes as many
arguments as the type of its callee says.
-/
def Annotates : Expr → Prop
  | .ref note id => ∀ decl ∈ program.find? id, note.ty = decl.ty.base
  | .member note _ id => ∀ decl ∈ program.find? id, note.ty = decl.ty.base
  | .call note callee args =>
    note.ty = (Expr.ofCall callee args note.span).ty ∧
      ∀ funType ∈ callee.ty.asFunction?, args.length = funType.params.length
  | _ => True

/-- Every expression is annotated as its construction does it. -/
def Annotated : Prop :=
  ∀ decl ∈ program.decls.toList, ∀ root ∈ decl.exprs, ∀ expr ∈ root.walk, program.Annotates expr

/-- A method satisfies a method and a constructor a constructor, with as many parameters. -/
def Matches (entry : ConformanceEntry) : Prop :=
  ∀ required ∈ program.find? entry.requirement, ∀ requirement ∈ required.routine?,
    ∀ implementing ∈ program.find? entry.implementation,
      ∀ implementation ∈ implementing.routine?,
        (requirement.isMember = true ∧ implementation.isMember = true ∨
          requirement.isConstructor = true ∧ implementation.isConstructor = true) ∧
        (appliedType required).params.length = (appliedType implementing).params.length

def Matched : Prop :=
  ∀ decl ∈ program.decls.toList, ∀ conformance ∈ conformances decl,
    ∀ entry ∈ conformance.entries, program.Matches entry

instance (expr : Expr) : Decidable (program.Annotates expr) := by
  cases expr <;> unfold Annotates <;> infer_instance

instance : Decidable program.Annotated := by
  unfold Annotated
  infer_instance

instance (entry : ConformanceEntry) : Decidable (program.Matches entry) := by
  unfold Matches
  infer_instance

instance : Decidable program.Matched := by
  unfold Matched
  infer_instance

variable {program}

theorem Annotated.of_occurs (annotated : program.Annotated) {expr : Expr}
    (occurs : program.Occurs expr) : program.Annotates expr := by
  obtain ⟨id, decl, root, found, listed, below⟩ := occurs
  exact annotated decl (mem_decls found) root listed expr below

theorem Matched.of_entry (matched : program.Matched) {id : DeclId} {decl : Decl}
    {members : List DeclId} {listed : List Conformance} {env : GenericEnv}
    (found : program.find? id = some decl) (kind : decl.kind = .product members listed env)
    {conformance : Conformance} (stated : conformance ∈ listed) {entry : ConformanceEntry}
    (inside : entry ∈ conformance.entries) {required implementing : Decl}
    {requirement implementation : Routine}
    (requires : program.find? entry.requirement = some required)
    (requirement_listed : required.routine? = some requirement)
    (implements : program.find? entry.implementation = some implementing)
    (implementation_listed : implementing.routine? = some implementation) :
    (requirement.isMember = true ∧ implementation.isMember = true ∨
      requirement.isConstructor = true ∧ implementation.isConstructor = true) ∧
    (appliedType required).params.length = (appliedType implementing).params.length := by
  refine matched decl (mem_decls found) conformance ?_ entry inside required requires requirement
    requirement_listed implementing implements implementation implementation_listed
  rw [conformances, kind]
  exact stated

end Program

namespace Job

variable (job : Job)

/-- Every instruction of the module so far has a sanctioned origin. -/
def AllSanctioned (pass : Pass) : Prop :=
  ∀ function ∈ pass.builder.module.functions, ∀ block ∈ function.blocks,
    ∀ instruction ∈ block.instructions, job.Sanctioned pass instruction

variable {job}

/-- What is sanctioned stays so when a pass goes on. -/
theorem Sanctioned.of_grows {before after : Pass} {opened : Option Cursor}
    (grown : before.Grows opened after) {instruction : Instruction}
    (sanctioned : job.Sanctioned before instruction) : job.Sanctioned after instruction := by
  intro result function args type same
  rcases sanctioned result function args type same with value | method | implementation
  · obtain ⟨callee, funType, env, occurs, refers, rest⟩ := value
    exact Or.inl ⟨callee, funType, env, occurs, refers.of_grows grown, rest⟩
  · obtain ⟨id, decl, routine, funType, env, found, listed, declared, rest⟩ := method
    exact Or.inr (Or.inl ⟨id, decl, routine, funType, env, found, listed, declared.of_grows grown,
      rest⟩)
  · obtain ⟨id, decl, members, conformances, env, conformance, entry, required, requirement,
      unapplied, found, kind, stated, inside, requires, listed, declared, rest⟩ := implementation
    exact Or.inr (Or.inr ⟨id, decl, members, conformances, env, conformance, entry, required,
      requirement, unapplied, found, kind, stated, inside, requires, listed,
      declared.of_grows grown, rest⟩)

/-- No instruction is new. -/
theorem AllSanctioned.of_same {before after : Pass} {opened : Option Cursor}
    (sanctioned : job.AllSanctioned before) (grown : before.Grows opened after)
    (same : after.builder.module.functions = before.builder.module.functions) :
    job.AllSanctioned after := by
  intro function inside block stands instruction listed
  exact (sanctioned function (same ▸ inside) block stands instruction listed).of_grows grown

/-- One function is put in the place of another. -/
theorem AllSanctioned.put {pass : Pass} {opened : Option Cursor} {function : Function}
    {cursor : Option Cursor} (sanctioned : job.AllSanctioned pass)
    (grown : pass.Grows opened { pass with
      builder := { pass.builder.put function with cursor := cursor } })
    (new : ∀ block ∈ function.blocks, ∀ instruction ∈ block.instructions,
      job.Sanctioned pass instruction) :
    job.AllSanctioned { pass with builder := { pass.builder.put function with cursor := cursor } } := by
  intro other inside block stands instruction listed
  rcases mem_modifyFirst _ _ _ _ inside with old | ⟨_, _, rfl⟩
  · exact (sanctioned other old block stands instruction listed).of_grows grown
  · exact (new block stands instruction listed).of_grows grown

/-- The function with one more instruction, which is sanctioned. -/
theorem AllSanctioned.extend {pass : Pass} (sanctioned : job.AllSanctioned pass)
    {function blocks : Function} {block : Block} (place : pass.builder.At function block)
    (same : blocks.blocks = function.blocks) {instruction : Instruction}
    (last : job.Sanctioned pass instruction) :
    ∀ later ∈ (blocks.extendBlock block.label instruction).blocks,
      ∀ other ∈ later.instructions, job.Sanctioned pass other := by
  have listed := sanctioned function (Module.mem_of_function? place.present)
  intro later stands other inside
  rcases mem_modifyFirst _ _ _ _ stands with old | ⟨first, found, rfl⟩
  · exact listed later (same ▸ old) other inside
  · rw [same] at found
    obtain rfl : block = first := Option.some.inj (place.inside.symm.trans found)
    rcases List.mem_append.mp inside with early | final
    · exact listed block (Function.mem_of_block? place.inside) other early
    · exact List.mem_singleton.mp final ▸ last

end Job

/-- A policy that every call has a sanctioned origin. -/
def calling (job : Job) : Policy job where
  Holds := job.AllSanctioned
  Usable _ _ := True
  usable_of_steady _ _ := trivial
  usable_literal _ _ _ := trivial
  usable_error _ _ := trivial
  usable_error_again _ _ _ := trivial
  usable_declared _ := trivial
  define := by
    intro pass type instruction value builder working sanctioned defines _ origin done
    have grown := (working.define defines done).2.grows
    obtain ⟨function, block, place, rfl, rfl⟩ := BuildM.run_define done
    exact ⟨sanctioned.put grown (sanctioned.extend place rfl (origin _)), trivial⟩
  append := by
    intro pass instruction value builder working sanctioned silent _ done
    have grown := Pass.grows_append done
    obtain ⟨function, block, place, rfl⟩ := BuildM.run_append done
    refine sanctioned.put grown (sanctioned.extend place rfl (.of_not_apply pass ?_))
    intro result callee args type same
    subst same
    cases silent
  report := by
    intro pass finding sanctioned
    exact sanctioned.of_same ⟨.refl none _, List.prefix_append _ _, fun _ _ given => given⟩ rfl
  names := by
    intro pass names sanctioned kept _
    exact sanctioned.of_same ⟨.refl none _, List.prefix_refl _, kept⟩ rfl
  function := by
    intro pass name signature formed sanctioned absent
    have grown : pass.Grows none { pass with
        builder := pass.builder.modifyModule
          (Module.addFunction · (Function.declared name signature)) } :=
      ⟨.addFunction none _ _, List.prefix_refl _, fun _ _ given => given⟩
    intro function inside block stands instruction listed
    rcases List.mem_append.mp inside with old | new
    · exact (sanctioned function old block stands instruction listed).of_grows grown
    · rw [List.mem_singleton.mp new] at stands
      cases stands
  block := by
    intro pass name params label args builder formed sanctioned done
    have grown := (Pass.opens_block formed done).grows
    obtain ⟨function, found, rfl, rfl, rfl⟩ := BuildM.run_createBlock done
    refine ⟨sanctioned.put grown ?_, fun _ _ => trivial⟩
    intro block stands instruction listed
    rcases List.mem_append.mp stands with old | new
    · exact sanctioned function (Module.mem_of_function? found) block old instruction listed
    · rw [List.mem_singleton.mp new] at listed
      cases listed
  table := by
    intro pass table sanctioned
    exact sanctioned.of_same
      ⟨.addWitnessTable none _ table, List.prefix_refl _, fun _ _ given => given⟩ rfl
  cursor := by
    intro pass cursor sanctioned
    exact sanctioned.of_same ⟨.refl none _, List.prefix_refl _, fun _ _ given => given⟩ rfl

/-- A function type keeps its number of parameters in any generic environment. -/
theorem Ty.length_contextualized {ty : Ty} {env : GenericEnv} {funType seen : FunType}
    (typed : ty.asFunction? = some funType) (given : (ty.contextualized env).asFunction? = some seen) :
    seen.params.length = funType.params.length := by
  cases ty with
  | function params result =>
    obtain rfl := Option.some.inj typed
    rw [Ty.contextualized] at given
    obtain rfl := Option.some.inj given
    simp [Ty.contextualizedAll_eq_map]
  | _ => cases typed

theorem Ty.base_of_asFunction? {ty : Ty} {funType : FunType}
    (typed : ty.asFunction? = some funType) : ty.base = ty := by
  cases ty <;> first | rfl | cases typed

/-- What a call refers to, and by how much the counts of arguments and parameters differ. -/
def Job.Accounts (job : Job) (pass : Pass) (name : String) (count : Nat) : Prop :=
  ∃ callee called captures, pass.builder.module.function? name = some callee ∧
    pass.names.assigned.get? called = some name ∧
    job.signature called = .ok callee.signature ∧ job.program.captures called = .ok captures ∧
    callee.signature.params.length = count + captures.length

/-- Only a function is declared. -/
theorem Job.Declared.exists_routine {job : Job} {pass : Pass} {id : DeclId} {value : Value}
    (declared : job.Declared pass id value) :
    ∃ decl routine, job.program.decl id = .ok decl ∧ decl.routine? = some routine := by
  obtain ⟨_, _, _, _, signed, _⟩ := declared
  exact Job.routine_of_signature signed

namespace Job.Declared

variable {job : Job} {pass : Pass} {id : DeclId} {decl : Decl} {routine : Routine}
  {name : String} {ty : OperandType} {count : Nat}

/-- A call passes the receiver and what the type of its callee says, and nothing else. -/
theorem accounts (declared : job.Declared pass id ⟨.function name, ty⟩)
    (found : job.program.decl id = .ok decl) (listed : decl.routine? = some routine)
    (length : count = (if routine.isMember then 1 else 0) +
      (Program.appliedType decl).params.length) : job.Accounts pass name count := by
  obtain ⟨given, signature, function, assigned, signed, same, present, typed⟩ := declared
  obtain ⟨captures, captured, total⟩ := Job.length_params found listed signed
  have named : name = given := by
    have kinds := congrArg Value.kind same
    simpa [Value.function] using kinds
  subst named
  refine ⟨function, id, captures, present, assigned, typed ▸ signed, captured, ?_⟩
  rw [typed, total, length]
  omega

end Job.Declared

/-- Every sanctioned call is accounted for. -/
theorem Job.Sanctioned.accounts {job : Job} {pass : Pass} {instruction : Instruction}
    (routed : job.program.Routed) (annotated : job.program.Annotated)
    (matched : job.program.Matched) (sanctioned : job.Sanctioned pass instruction)
    {name : String} {count : Nat} (calls : instruction.call? = some (name, count)) :
    job.Accounts pass name count := by
  obtain ⟨result, ty, args, type, same, rfl⟩ := Instruction.apply_of_call? calls
  rcases sanctioned _ _ _ _ same with value | method | implementation
  · obtain ⟨callee, funType, env, occurs, refers, callable, length⟩ := value
    obtain ⟨note, id, decl, routine, rfl, found, listed, free, none, declared⟩ := refers name rfl
    obtain ⟨own, typed⟩ := (routed id decl (Program.decl_eq_ok.mp found) routine listed).1
    refine declared.accounts found listed ?_
    have annotates : note.ty = decl.ty.base :=
      annotated.of_occurs occurs decl (Program.decl_eq_ok.mp found)
    have callable : (decl.ty.contextualized env).asFunction? = some funType := by
      rw [← Ty.base_of_asFunction? typed, ← annotates]
      exact callable
    rw [length, Ty.length_contextualized typed callable]
    simp [Program.appliedType, typed, free]
  · obtain ⟨id, decl, routine, funType, env, found, listed, declared, callable, length⟩ := method
    obtain ⟨own, typed⟩ := (routed id decl (Program.decl_eq_ok.mp found) routine listed).1
    refine declared.accounts found listed ?_
    rw [length, Ty.length_contextualized typed callable]
    simp [Program.appliedType, typed]
  · obtain ⟨id, decl, members, conformances, env, conformance, entry, required, requirement,
      unapplied, found, kind, stated, inside, requires, listed, declared, typed, length⟩ :=
        implementation
    obtain ⟨implementing, routine, implements, named⟩ := declared.exists_routine
    have ⟨kinds, counts⟩ := matched.of_entry (Program.decl_eq_ok.mp found) kind stated inside
      (Program.decl_eq_ok.mp requires) listed (Program.decl_eq_ok.mp implements) named
    refine declared.accounts implements named ?_
    rw [length, Program.length_unapplied requires listed typed, counts]
    congr 1
    rcases kinds with ⟨first, second⟩ | ⟨first, second⟩
    · rw [first, second]
    · rw [(routed _ _ (Program.decl_eq_ok.mp requires) requirement listed).2 first,
        (routed _ _ (Program.decl_eq_ok.mp implements) routine named).2 second]

/--
What a call of a function of the module calls is the declaration that was given the function's name,
and the call passes as many arguments as the function has parameters exactly if that declaration
captures nothing, for the captures are parameters as well.
-/
theorem lower_arity {program : Program} {id : DeclId} {options : Options} {lowered : Lowered}
    (assembled : program.Assembled) (annotated : program.Annotated) (matched : program.Matched)
    (done : lower program id options = .ok lowered) :
    ∃ pass, Job.emitModule ⟨program, options⟩ id (Pass.start options) = .ok () pass ∧
      pass.builder.module = lowered.module ∧ ∀ name count, (name, count) ∈ lowered.module.calls →
        ∃ callee called captures, lowered.module.function? name = some callee ∧
          pass.names.assigned.get? called = some name ∧
          Job.signature ⟨program, options⟩ called = .ok callee.signature ∧
          program.captures called = .ok captures ∧
          callee.signature.params.length = count + captures.length ∧
          (count = callee.signature.params.length ↔ captures = []) := by
  have start : (calling ⟨program, options⟩).Holds (Pass.start options) :=
    fun _ impossible => nomatch impossible
  obtain ⟨pass, ran, module, _⟩ := run_lower done
  obtain ⟨_, sanctioned, _⟩ := Policy.Visits.emitModule id (Pass.start options)
    (Module.wellFormed_empty options.moduleName) start () pass ran
  refine ⟨pass, ran, module, ?_⟩
  intro name count listed
  rw [← module] at listed ⊢
  obtain ⟨instruction, inside, calls⟩ := List.mem_filterMap.mp listed
  obtain ⟨function, stands, inside⟩ := List.mem_flatMap.mp inside
  obtain ⟨block, here, inside⟩ := List.mem_flatMap.mp inside
  obtain ⟨callee, called, captures, present, assigned, signed, captured, total⟩ :=
    (sanctioned function stands block here instruction inside).accounts assembled.routed annotated
      matched calls
  refine ⟨callee, called, captures, present, assigned, signed, captured, total, ?_⟩
  rw [← List.length_eq_zero_iff]
  omega

open Assembly in
/-- The method of a type inside a function returns a parameter of the function. -/
def capturing : Assembly Unit := do
  let main ← addModule "main"
  let outer ← addFunction main "outer" [⟨none, "n", .int⟩] .int
  let counter ← addProduct outer "Counter"
  let method ← addMethod counter "get" [] .int false
  let captured ← ask (·.refExpr ⟨outer.index + 1⟩ Span.unknown)
  setBody method ⟨[.returned (some captured) Span.unknown], Span.unknown⟩
  let ty ← ask (·.declaredType counter)
  let (binding, var) ← addLocalVar outer "c" ty none
  let base ← ask (·.refExpr var Span.unknown)
  let member ← ask (·.memberExpr base method Span.unknown)
  let call := Expr.ofCall member [] Span.unknown
  setBody outer ⟨[.decl counter, .decl binding, .returned (some call) Span.unknown], Span.unknown⟩

open Assembly in
theorem capturing_assembled : capturing.built.Assembled := by
  refine Preserves.built ?_
  refine .bind (Offered.addModule _).assembles fun main => ?_
  refine .bind (Offered.addFunction _ _ _ _).assembles fun outer => ?_
  refine .bind (Offered.addProduct _ _).assembles fun counter => ?_
  refine .bind (Offered.addMethod _ _ _ _ _).assembles fun method => ?_
  refine .bind (.ask _) fun captured => ?_
  refine .bind (Offered.setBody _ _).assembles fun _ => ?_
  refine .bind (.ask _) fun ty => ?_
  refine .bind (Offered.addLocalVar _ _ _ _).assembles fun binding => ?_
  refine .bind (.ask _) fun base => ?_
  refine .bind (.ask _) fun member => ?_
  exact (Offered.setBody _ _).assembles

theorem lower_arity_capturing :
    capturing.built.Assembled ∧ capturing.built.Annotated ∧ capturing.built.Matched ∧
      ∃ lowered pass, lower capturing.built ⟨0⟩ Options.standard = .ok lowered ∧
        Job.emitModule ⟨capturing.built, Options.standard⟩ ⟨0⟩ (Pass.start Options.standard) =
          .ok () pass ∧
        pass.builder.module = lowered.module ∧ ∀ name count, (name, count) ∈ lowered.module.calls →
          ∃ callee called captures, lowered.module.function? name = some callee ∧
            pass.names.assigned.get? called = some name ∧
            Job.signature ⟨capturing.built, Options.standard⟩ called = .ok callee.signature ∧
            capturing.built.captures called = .ok captures ∧
            callee.signature.params.length = count + captures.length ∧
            (count = callee.signature.params.length ↔ captures = []) := by
  have annotated : capturing.built.Annotated := by decide +kernel
  have matched : capturing.built.Matched := by decide +kernel
  have lowers : (lower capturing.built ⟨0⟩ Options.standard).toOption.map
      (·.module.calls) = some [("outer.Counter.get", 1)] := by
    decide +kernel
  obtain ⟨lowered, done, _⟩ := ok_of_map lowers
  obtain ⟨pass, agrees⟩ := lower_arity capturing_assembled annotated matched done
  exact ⟨capturing_assembled, annotated, matched, lowered, pass, done, agrees⟩

/-- The method takes its receiver and what it captures, and the call passes the receiver alone. -/
theorem capturing_disagrees :
    capturing.built.Assembled ∧ capturing.built.Annotated ∧ capturing.built.Matched ∧
      ∃ lowered, lower capturing.built ⟨0⟩ Options.standard = .ok lowered ∧
        lowered.report.containsError = false ∧
        ¬∀ name count, (name, count) ∈ lowered.module.calls → ∀ callee,
          lowered.module.function? name = some callee →
            count = callee.signature.params.length := by
  refine ⟨capturing_assembled, by decide +kernel, by decide +kernel, ?_⟩
  have lowers : (lower capturing.built ⟨0⟩ Options.standard).toOption.map
      (fun lowered => (lowered.report.containsError, lowered.module.calls,
        (lowered.module.function? "outer.Counter.get").map (·.signature.params.length))) =
        some (false, [("outer.Counter.get", 1)], some 2) := by
    decide +kernel
  obtain ⟨lowered, done, seen⟩ := ok_of_map lowers
  simp only [Prod.mk.injEq] at seen
  obtain ⟨clean, calls, params⟩ := seen
  obtain ⟨callee, found, count⟩ := Option.map_eq_some_iff.mp params
  refine ⟨lowered, done, clean, ?_⟩
  intro agrees
  have same := agrees "outer.Counter.get" 1 (calls ▸ List.mem_singleton_self _) callee found
  rw [count] at same
  cases same

end Lowering
