import Lowering.Proofs.Meaning.Function
import Lowering.Proofs.Pass.Descent

/-
This file follows a call from its arguments to its end, and shows that the function that is filled
for a declaration of the fragment ends in the same way.
-/

namespace Lowering

open IR

namespace IR.Machine

/-- The arguments are objects, and stand for these trees. -/
inductive Passes (machine : Machine) : List Value → List Tree → Prop
  | nil : Passes machine [] []
  | cons {arg : Value} {args : List Value} {tree : Tree} {trees : List Tree}
      (object : arg.isAddress = false) (word : machine.word? arg = some (.tree tree))
      (rest : Passes machine args trees) : Passes machine (arg :: args) (tree :: trees)

theorem Passes.of_extends {machine later : Machine} {args : List Value} {trees : List Tree}
    (passes : machine.Passes args trees) (grows : machine.Extends later) :
    later.Passes args trees := by
  induction passes with
  | nil => exact .nil
  | cons object word _ rest_ih => exact .cons object (grows.word? word) rest_ih

/-- The machine at the start of a block has the arguments in its parameters. -/
theorem passes_range' (machine : Machine) (first : Nat) (params : List OperandType)
    (trees : List Tree) (length : trees.length = params.length)
    (objects : ∀ type ∈ params, type.isAddress = false)
    (temps : ∀ place tree, trees[place]? = some tree →
      machine.temps (first + place) = some (.tree tree)) :
    machine.Passes
      (((List.range' first params.length).zip params).map fun (id, type) => Value.temp id type)
      trees := by
  induction params generalizing first trees with
  | nil =>
    obtain rfl := List.length_eq_zero_iff.mp length
    exact .nil
  | cons type params params_ih =>
    cases trees with
    | nil => cases length
    | cons tree trees =>
      refine .cons (objects type (List.mem_cons_self ..)) (temps 0 tree rfl) ?_
      refine params_ih (first + 1) trees (Nat.succ.inj length)
        (fun type inside => objects type (List.mem_cons_of_mem _ inside)) ?_
      intro place tree found
      rw [Nat.add_assoc, Nat.add_comm 1]
      exact temps (place + 1) tree found

theorem lookup_zip_range' (first : Nat) (trees : List Tree) (id : Nat) :
    ((List.range' first trees.length).zip trees).lookup id =
      if first ≤ id then trees[id - first]? else none := by
  induction trees generalizing first with
  | nil => simp
  | cons tree trees trees_ih =>
    rw [List.length_cons, List.range'_succ, List.zip_cons_cons, List.lookup_cons]
    by_cases here : id = first
    · simp [here]
    · have apart : (id == first) = false := by simpa using here
      rw [apart, trees_ih]
      by_cases above : first + 1 ≤ id
      · have split : id - first = id - (first + 1) + 1 := by omega
        rw [if_pos above, if_pos (by omega), split, List.getElem?_cons_succ]
      · rw [if_neg above, if_neg (by omega)]

end IR.Machine

namespace Job

variable {job : Job} {start machine : Machine} {routine : Routine} {store : Store}

/-- Each parameter holds the value of the argument at the same place. -/
theorem bindArguments_mirrors {name : String} {locals bound : Locals} {ids : List DeclId}
    {args : List Value} {trees : List Tree} (mirrors : machine.Mirrors locals store)
    (passes : machine.Passes args trees)
    (done : job.bindArguments name locals ids args = .ok bound) :
    ∃ later, store.bind ids trees = some later ∧ machine.Mirrors bound later := by
  induction ids generalizing locals store args trees with
  | nil =>
    obtain rfl := bindArguments_nil.mp done
    exact ⟨store, by simp [Store.bind], mirrors⟩
  | cons id ids ids_ih =>
    obtain ⟨arg, args, rfl, done⟩ := bindArguments_cons.mp done
    cases passes with
    | @cons _ _ tree trees object word rest =>
      have fresh (other : DeclId) (another : Value) (_ : locals.get? other = some another)
          (cell : Nat) (points : machine.word? arg = some (.address cell [])) :
          machine.word? another ≠ some (.address cell []) := by
        rw [word] at points
        cases points
      exact ids_ih (mirrors.bind (.object object word) fresh id) rest done

theorem mirrors_empty (machine : Machine) : machine.Mirrors Table.empty Store.empty := by
  constructor
  · intro id value bound
    simp [Table.get?_empty] at bound
  · intro id other value another cell bound
    simp [Table.get?_empty] at bound

/-- The receiver is the first argument of a member, and undefined in a constructor. -/
theorem bindReceiver_live {name : String} {args rest : List Value} {trees : List Tree}
    {before after : Pass} {locals : Locals} (working : before.Working)
    (holds : (naming job).Holds before) (executes : before.Executes start machine)
    (passes : machine.Passes args trees) (plain : job.program.hasPlainReceiver routine = true)
    (done : job.bindReceiver name routine args before = .ok (locals, rest) after) :
    ∃ store others later, routine.receive trees = some (store, others) ∧
      after.Executes start later ∧ later.Mirrors locals store ∧ later.Passes rest others := by
  rcases bindReceiver_cases done with ⟨bare, rfl, rfl, rfl⟩ | ⟨self, _, own, member, rfl, rfl, rfl⟩ |
    ⟨self, decl, room, builder, own, free, constructs, found, allocated, rfl, rfl, rfl⟩
  · exact ⟨Store.empty, trees, machine, by simp [Routine.receive, bare], executes,
      mirrors_empty machine, passes⟩
  · cases passes with
    | @cons _ _ tree trees object word passes =>
      have mirrors := (mirrors_empty machine).bind (.object object word)
        (fun _ _ known => by simp [Table.get?_empty] at known) self
      exact ⟨_, trees, machine, by simp [Routine.receive, own, member], executes, mirrors, passes⟩
  · have typed : decl.ty.base.isPlain = true := by
      simp only [Program.hasPlainReceiver, own, Option.all_some] at plain
      obtain ⟨again, found_again, typed⟩ := (Option.any_eq_true _ _).mp plain
      rw [found] at found_again
      rwa [Option.some.inj found_again]
    have live : job.Live start ⟨before, Table.empty⟩ Store.empty machine :=
      ⟨⟨working, holds, Policy.bound_empty before⟩, executes, mirrors_empty machine⟩
    have lifted : (liftM (BuildM.allocStack (decl.ty.base.contextualized routine.env)) :
        BodyM Value) ⟨before, Table.empty⟩ =
          .ok room ⟨{ before with builder := builder }, Table.empty⟩ :=
      (lift_pass _ _ _ _).mpr ⟨_, (lift_build _ _ _ _).mpr ⟨builder, allocated, rfl⟩, rfl⟩
    have concrete : (decl.ty.base.contextualized routine.env).isExistential = false := by
      rw [Ty.contextualized_of_isPlain typed]
      exact Ty.isExistential_of_isPlain typed
    obtain ⟨later, cell, roomy, grows, _, _, mirrors⟩ := live.bind_room concrete self lifted
    exact ⟨_, trees, later, by simp [Routine.receive, own, free, constructs], roomy.executes,
      mirrors, passes.of_extends grows⟩

end Job

namespace IR.Machine

variable {function : Function} {params : List OperandType} {trees : List Tree}

/-- The parameters of a block hold the arguments, and no other temporary holds anything. -/
theorem temps_enter (length : trees.length = params.length) (id : TempId) :
    ((function.addBlock params).1.enter trees).temps id =
      if function.temps.issued ≤ id then (trees[id - function.temps.issued]?).map .tree
      else none := by
  have ids : (function.addBlock params).1.params.map Prod.fst =
      List.range' function.temps.issued trees.length := by
    rw [length]
    exact List.map_fst_zip (by simp)
  rw [Block.enter, ids]
  simp only [lookup_zip_range']
  split <;> rfl

theorem passes_enter (length : trees.length = params.length)
    (objects : ∀ type ∈ params, type.isAddress = false) :
    ((function.addBlock params).1.enter trees).Passes (function.addBlock params).1.paramValues
      trees := by
  refine passes_range' _ _ params trees length objects ?_
  intro place tree found
  rw [temps_enter length]
  simp [found]

theorem unused_enter (length : trees.length = params.length) (id : TempId)
    (above : (function.addBlock params).2.temps.issued ≤ id) :
    ((function.addBlock params).1.enter trees).temps id = none := by
  have above : function.temps.issued + params.length ≤ id := above
  rw [temps_enter length, if_pos (by omega), List.getElem?_eq_none (by omega)]
  rfl

end IR.Machine

namespace Job

variable {job : Job} {nested : DeclId → PassM Unit} {id : DeclId} {decl : Decl} {routine : Routine}
  {body : Body} {name : String} {signature : Signature} {before after : Pass}

/-- The block that was filled ends as a call with the same arguments does. -/
theorem fill_ends
    (below : (naming job).VisitsAll nested)
    (elementary : job.program.Elementary id decl routine body)
    (formed : before.builder.module.WellFormed) (holds : (naming job).Holds before)
    (objects : ∀ type ∈ signature.params, type.isAddress = false) {given : Unit}
    (done : job.fill nested id routine name signature before = .ok given after)
    (accepted : after.report.containsError = false) :
    ∃ old function block, before.builder.module.function? name = some old ∧
      after.builder.module.function? name = some function ∧ function.signature = old.signature ∧
      function.block? old.labels.issued = some block ∧
      ∀ trees, trees.length = signature.params.length → ∃ outcome,
        job.program.call id trees = some outcome ∧
        (block.enter trees).run block.instructions = some outcome := by
  have owned : Frame.routine ⟨job, id⟩ = .ok routine :=
    Frame.routine_eq_ok elementary.found elementary.listed
  obtain ⟨old, middle, third, locals, rest, captures, bound, last, found, opened, holds, place,
    received, captured, arguments, ready, steady, ran, rfl⟩ := run_fill formed holds done
  obtain rfl := Except.ok.inj (elementary.captures.symm.trans captured)
  obtain ⟨finished, _⟩ := Policy.Finishes.emitBody below owned _ ready _ last ran
  have closes := steady.closes finished.closes
  obtain ⟨function, present, grown⟩ := closes.grows.module.functions _ _ place.present
  obtain ⟨block, inside, params, _⟩ := grown.blocks _ _ place.inside
  have named : (old.addBlock signature.params).2.name = name := by
    rw [Function.name_addBlock, Module.name_of_function? found]
  refine ⟨old, function, block, found, named ▸ present, grown.signature, inside, ?_⟩
  intro trees length
  have entered : block.enter trees = (old.addBlock signature.params).1.enter trees := by
    rw [Block.enter, Block.enter, params]
  have executes : middle.Executes (block.enter trees) (block.enter trees) := by
    rw [entered]
    exact ⟨_, _, place, rfl, Machine.unused_enter length⟩
  have passes : (block.enter trees).Passes (old.addBlock signature.params).1.paramValues trees := by
    rw [entered]
    exact Machine.passes_enter length objects
  obtain ⟨store, others, machine, receives, third_executes, mirrors, others_pass⟩ :=
    bindReceiver_live opened.working holds executes passes elementary.receiver received
  obtain ⟨next, binds, mirrors⟩ := bindArguments_mirrors mirrors others_pass arguments
  obtain ⟨progress, outcome, means, concludes, ends⟩ :=
    @Frame.emitBody_ends ⟨job, id⟩ _ _ _ _ _ _ _ below _ _ elementary
      ⟨ready, third_executes, mirrors⟩ _ ran accepted
  obtain ⟨cursor, final, last_block, here, final_present, final_inside, runs⟩ := ends
  obtain rfl := Option.some.inj (here.symm.trans (closes.cursor.trans place.cursor))
  obtain rfl := Option.some.inj (present.symm.trans final_present)
  obtain rfl := Option.some.inj (inside.symm.trans final_inside)
  refine ⟨outcome, ?_, runs⟩
  rw [List.nil_append] at binds
  simp [Program.call, Program.decl_eq_ok.mp elementary.found, elementary.listed, elementary.given,
    receives, binds, means, concludes]

end Job

end Lowering
