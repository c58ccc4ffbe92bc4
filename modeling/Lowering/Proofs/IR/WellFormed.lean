import Lowering.Proofs.IR.Growth

/-
This file holds what every builder keeps: labels and temporaries are numbered without gaps or
repeats, and a terminator ends its block. It also counts the blocks that are not terminated.
-/

namespace Lowering

namespace IR

/-- The temporaries that a block defines, parameters first. -/
def Block.defined (block : Block) : List TempId :=
  block.params.map Prod.fst ++ block.instructions.filterMap Instruction.result?

/-- The temporaries that the blocks of a function define. -/
def Function.defined (function : Function) : List TempId := function.blocks.flatMap Block.defined

/-- No instruction but the last ends the block. -/
def Block.Ended (block : Block) : Prop :=
  ∀ instruction ∈ block.instructions.dropLast, instruction.isTerminator = false

structure Function.WellFormed (function : Function) : Prop where
  labels : function.blocks.map Block.label = List.range function.labels.issued
  distinct : function.defined.Nodup
  issued : ∀ id ∈ function.defined, id < function.temps.issued
  ended : ∀ block ∈ function.blocks, block.Ended

structure Module.WellFormed (module : Module) : Prop where
  names : (module.functions.map Function.name).Nodup
  functions : ∀ function ∈ module.functions, function.WellFormed

/-- A block without a terminator counts as one. -/
def Block.pending (block : Block) : Nat := if block.isTerminated then 0 else 1

def Function.pending (function : Function) : Nat := total Block.pending function.blocks

/-- The number of blocks that are not terminated. -/
def Module.pending (module : Module) : Nat := total Function.pending module.functions

namespace Block

theorem Ended.add {block : Block} (ended : block.Ended) (pending : block.isTerminated = false)
    (instruction : Instruction) : (block.add instruction).Ended := by
  intro other inside
  rw [Block.add, List.dropLast_concat] at inside
  rcases List.eq_nil_or_concat block.instructions with empty | ⟨front, last, split⟩
  · simp [empty] at inside
  · simp only [List.concat_eq_append] at split
    rw [split] at inside
    rcases List.mem_append.mp inside with early | final
    · exact ended other (by rw [split, List.dropLast_concat]; exact early)
    · rw [List.mem_singleton.mp final]
      simpa [isTerminated, split] using pending

/-- An ended block holds at most one terminator, as its last instruction. -/
theorem Ended.terminatorCount {block : Block} (ended : block.Ended) :
    block.terminatorCount = if block.isTerminated then 1 else 0 := by
  rcases List.eq_nil_or_concat block.instructions with empty | ⟨front, last, split⟩
  · simp [Block.terminatorCount, isTerminated, empty]
  · simp only [List.concat_eq_append] at split
    have early : front.countP Instruction.isTerminator = 0 := by
      rw [List.countP_eq_zero]
      intro instruction inside
      simpa using ended instruction (by rw [split, List.dropLast_concat]; exact inside)
    simp [Block.terminatorCount, isTerminated, split, early, List.countP_cons]

@[simp] theorem defined_add (block : Block) (instruction : Instruction) :
    (block.add instruction).defined = block.defined ++ instruction.result?.toList := by
  cases result : instruction.result? <;> simp [defined, add, result]

theorem pending_add (block : Block) (instruction : Instruction) (open_ : block.isTerminated = false) :
    (block.add instruction).pending + (if instruction.isTerminator then 1 else 0) =
      block.pending := by
  cases ends : instruction.isTerminator <;> simp [pending, open_, ends]

end Block

namespace Function

theorem wellFormed_declared (name : String) (signature : Signature) :
    (declared name signature).WellFormed := by
  refine ⟨rfl, ?_, ?_, ?_⟩ <;> simp [declared, defined]

theorem WellFormed.label_lt {function : Function} (formed : function.WellFormed) {block : Block}
    (inside : block ∈ function.blocks) : block.label < function.labels.issued := by
  have listed : block.label ∈ function.blocks.map Block.label := List.mem_map_of_mem inside
  rwa [formed.labels, List.mem_range] at listed

/-- A label that was not handed out yet names no block. -/
theorem WellFormed.block?_next {function : Function} (formed : function.WellFormed) :
    function.block? function.labels.issued = none := by
  rw [block?, List.find?_eq_none]
  intro block inside
  simpa using Nat.ne_of_lt (formed.label_lt inside)

/-- The entry is the block of the first label. -/
theorem WellFormed.entry_eq {function : Function} (formed : function.WellFormed) :
    entry? function = function.block? 0 := by
  have labels := formed.labels
  unfold entry? block?
  cases blocks : function.blocks with
  | nil => rfl
  | cons head rest =>
    rw [blocks] at labels
    have first : head.label = 0 := by
      cases count : function.labels.issued with
      | zero => simp [count] at labels
      | succ count =>
        rw [‹function.labels.issued = _›, List.range_succ_eq_map] at labels
        simpa using congrArg List.head? labels
    simp [first]

theorem defined_extendBlock_perm {function : Function} {label : LabelId} {block : Block}
    (found : function.block? label = some block) (instruction : Instruction) :
    (function.extendBlock label instruction).defined.Perm
      (function.defined ++ instruction.result?.toList) :=
  flatMap_modifyFirst_perm _ _ _ _ block found _ (Block.defined_add block instruction)

theorem WellFormed.extendBlock {function : Function} (formed : function.WellFormed)
    {label : LabelId} {block : Block} (found : function.block? label = some block)
    (open_ : block.isTerminated = false) {instruction : Instruction}
    (fresh : ∀ id ∈ instruction.result?, id ∉ function.defined ∧ id < function.temps.issued) :
    (function.extendBlock label instruction).WellFormed := by
  have listed := defined_extendBlock_perm found instruction
  refine ⟨?_, ?_, ?_, ?_⟩
  · show _ = List.range function.labels.issued
    rw [← formed.labels]
    exact map_modifyFirst Block.label _ (Block.add · instruction) (fun _ => rfl) _
  · rw [listed.nodup_iff]
    cases result : instruction.result? with
    | none => simpa using formed.distinct
    | some id =>
      have apart := (fresh id (by simp [result])).1
      rw [Option.toList_some, List.nodup_append]
      refine ⟨formed.distinct, by simp, ?_⟩
      intro other inside last single
      rw [List.mem_singleton.mp single]
      intro same
      exact apart (same ▸ inside)
  · intro id inside
    rcases List.mem_append.mp (listed.mem_iff.mp inside) with old | new
    · exact formed.issued id old
    · exact (fresh id (by simpa using new)).2
  · intro later inside
    rcases mem_modifyFirst _ _ _ _ inside with old | ⟨first, foundFirst, rfl⟩
    · exact formed.ended later old
    · obtain rfl : block = first := by
        have found : function.blocks.find? (·.label == label) = some block := found
        simpa [found] using foundFirst
      exact (formed.ended block (mem_of_block? found)).add open_ instruction

theorem WellFormed.takeTemp {function : Function} (formed : function.WellFormed) :
    function.takeTemp.2.WellFormed := by
  refine ⟨formed.labels, formed.distinct, ?_, formed.ended⟩
  intro id inside
  exact Nat.lt_succ_of_lt (formed.issued id inside)

theorem WellFormed.define {function : Function} (formed : function.WellFormed)
    {label : LabelId} {block : Block} (found : function.block? label = some block)
    (open_ : block.isTerminated = false) {instruction : Instruction}
    (result : ∀ id ∈ instruction.result?, id = function.temps.issued) :
    (function.takeTemp.2.extendBlock label instruction).WellFormed := by
  refine formed.takeTemp.extendBlock found open_ ?_
  intro id defined
  obtain rfl := result id defined
  constructor
  · intro inside
    exact Nat.lt_irrefl _ (formed.issued _ inside)
  · exact Nat.lt_succ_self _

theorem WellFormed.addBlock {function : Function} (formed : function.WellFormed)
    (params : List OperandType) : (function.addBlock params).2.WellFormed := by
  have ids : ((List.range' function.temps.issued params.length).zip params).map Prod.fst =
      List.range' function.temps.issued params.length :=
    List.map_fst_zip (by simp)
  have listed : (function.addBlock params).2.defined =
      function.defined ++ List.range' function.temps.issued params.length := by
    simp only [defined, Function.addBlock, Counter.take, List.flatMap_append, List.flatMap_cons,
      List.flatMap_nil, Block.defined, List.filterMap_nil, List.append_nil, ids]
  refine ⟨?_, ?_, ?_, ?_⟩
  · simp [Function.addBlock, Counter.next, formed.labels, List.range_succ]
  · rw [listed, List.nodup_append]
    refine ⟨formed.distinct, List.nodup_range', ?_⟩
    intro old inside new fresh same
    have above := (List.mem_range'_1.mp fresh).1
    exact Nat.not_le_of_lt (formed.issued old inside) (same ▸ above)
  · intro id inside
    rw [listed] at inside
    show id < function.temps.issued + params.length
    rcases List.mem_append.mp inside with old | new
    · exact Nat.lt_add_right _ (formed.issued id old)
    · exact (List.mem_range'_1.mp new).2
  · intro block inside
    rcases List.mem_append.mp inside with old | new
    · exact formed.ended block old
    · rw [List.mem_singleton.mp new]
      simp [Block.Ended]

theorem pending_extendBlock {function : Function} {label : LabelId} {block : Block}
    (found : function.block? label = some block) (open_ : block.isTerminated = false)
    (instruction : Instruction) :
    (function.extendBlock label instruction).pending +
      (if instruction.isTerminator then 1 else 0) = function.pending := by
  have changed := total_modifyFirst Block.pending (·.label == label) (Block.add · instruction)
    function.blocks block found
  have change := Block.pending_add block instruction open_
  have new : (function.extendBlock label instruction).pending =
      total Block.pending
        (modifyFirst (·.label == label) (Block.add · instruction) function.blocks) := rfl
  have old : function.pending = total Block.pending function.blocks := rfl
  omega

@[simp] theorem pending_takeTemp (function : Function) :
    function.takeTemp.2.pending = function.pending := rfl

theorem pending_addBlock (function : Function) (params : List OperandType) :
    (function.addBlock params).2.pending = function.pending + 1 := by
  simp [Function.pending, Function.addBlock, Block.pending, Block.isTerminated]

end Function

namespace Module

theorem wellFormed_empty (name : String) : (empty name).WellFormed :=
  ⟨List.nodup_nil, fun _ inside => nomatch inside⟩

theorem WellFormed.of_function? {module : Module} (formed : module.WellFormed) {name : String}
    {function : Function} (found : module.function? name = some function) :
    function.WellFormed :=
  formed.functions function (mem_of_function? found)

theorem WellFormed.put {builder : Builder} (formed : builder.module.WellFormed)
    {function : Function} (new : function.WellFormed) : (builder.put function).module.WellFormed := by
  refine ⟨?_, ?_⟩
  · have names : (builder.put function).module.functions.map Function.name =
        builder.module.functions.map Function.name := by
      show (modifyFirst (·.name == function.name) (fun _ => function)
        builder.module.functions).map Function.name = _
      generalize builder.module.functions = functions
      induction functions with
      | nil => rfl
      | cons head rest rest_ih =>
        rw [modifyFirst]
        split
        next named =>
          have same : head.name = function.name := by simpa using named
          simp [same]
        next => simp [rest_ih]
    rw [names]
    exact formed.names
  · intro other inside
    rcases mem_modifyFirst _ _ _ _ inside with old | ⟨_, _, rfl⟩
    · exact formed.functions other old
    · exact new

theorem WellFormed.addFunction {module : Module} (formed : module.WellFormed) {name : String}
    (signature : Signature) (absent : module.function? name = none) :
    (module.addFunction (Function.declared name signature)).WellFormed := by
  refine ⟨?_, ?_⟩
  · simp only [Module.addFunction, List.map_append, List.map_cons, List.map_nil]
    rw [List.nodup_append]
    refine ⟨formed.names, by simp, ?_⟩
    intro old inside new single same
    obtain ⟨function, listed, named⟩ := List.mem_map.mp inside
    rw [Module.function?, List.find?_eq_none] at absent
    have apart : function.name ≠ name := by simpa using absent function listed
    rw [List.mem_singleton.mp single] at same
    exact apart (named.trans same)
  · intro function inside
    rcases List.mem_append.mp inside with old | new
    · exact formed.functions function old
    · rw [List.mem_singleton.mp new]
      exact Function.wellFormed_declared name signature

theorem WellFormed.addWitnessTable {module : Module} (formed : module.WellFormed)
    (table : WitnessTable) : (module.addWitnessTable table).WellFormed :=
  ⟨formed.names, formed.functions⟩

theorem pending_put (function : Function) {builder : Builder} {old : Function}
    (found : builder.module.function? function.name = some old) :
    (builder.put function).module.pending + old.pending =
      builder.module.pending + function.pending :=
  total_modifyFirst Function.pending _ _ _ old found

theorem pending_addFunction (module : Module) (name : String) (signature : Signature) :
    (module.addFunction (Function.declared name signature)).pending = module.pending := by
  simp [pending, Module.addFunction, Function.pending, Function.declared]

/-- The count is that of all blocks of all functions without a terminator. -/
theorem pending_eq_countP (module : Module) :
    module.pending = (module.functions.flatMap Function.blocks).countP (!·.isTerminated) := by
  have counted (blocks : List Block) :
      total Block.pending blocks = blocks.countP (!·.isTerminated) := by
    induction blocks with
    | nil => rfl
    | cons block rest rest_ih =>
      cases ended : block.isTerminated <;>
        simp [Block.pending, ended, rest_ih, Nat.add_comm]
  rw [pending]
  induction module.functions with
  | nil => rfl
  | cons function rest rest_ih =>
    rw [total_cons, rest_ih, List.flatMap_cons, List.countP_append, Function.pending, counted]

end Module

namespace Builder.At

variable {builder : Builder} {function : Function} {block : Block}

/-- A block that is added is the one to write to, and its parameters are the arguments. -/
theorem of_createBlock {name : String} {params : List OperandType} {label : LabelId}
    {args : List Value} {after : Builder} (formed : builder.module.WellFormed)
    (done : BuildM.createBlock name params builder = .ok (label, args) after) :
    ∃ function, builder.module.function? name = some function ∧
      after = builder.put (function.addBlock params).2 ∧ label = function.labels.issued ∧
      args = (function.addBlock params).1.paramValues ∧
      ({ after with cursor := some ⟨name, label⟩ } : Builder).At (function.addBlock params).2
        (function.addBlock params).1 := by
  obtain ⟨function, found, rfl, rfl, rfl⟩ := BuildM.run_createBlock done
  have named := Module.name_of_function? found
  refine ⟨function, found, rfl, rfl, rfl, ?_, ?_, ?_, rfl⟩
  · rw [Function.name_addBlock, named]
  · rw [← named] at found
    exact Builder.function?_put_self (function.addBlock params).2 function builder found
  · have missing : function.blocks.find? (·.label == function.labels.issued) = none :=
      (formed.of_function? found).block?_next
    simp [Function.block?, Function.addBlock, List.find?_append, missing, Counter.next]

/-- An instruction that is no terminator leaves every block as open as it was. -/
theorem pending_define (place : builder.At function block) {instruction : Instruction}
    (continues : instruction.isTerminator = false) :
    (builder.put (function.takeTemp.2.extendBlock block.label instruction)).module.pending =
      builder.module.pending := by
  have total := Module.pending_put (function.takeTemp.2.extendBlock block.label instruction)
    place.present
  have inside : function.takeTemp.2.block? block.label = some block := place.inside
  have local_ := Function.pending_extendBlock inside place.pending instruction
  rw [Function.pending_takeTemp] at local_
  simp only [continues] at local_
  have local_ : (function.takeTemp.2.extendBlock block.label instruction).pending =
    function.pending := local_
  omega

theorem pending_append (place : builder.At function block) (instruction : Instruction) :
    (builder.put (function.extendBlock block.label instruction)).module.pending +
      (if instruction.isTerminator then 1 else 0) = builder.module.pending := by
  have total := Module.pending_put (function.extendBlock block.label instruction) place.present
  have local_ := Function.pending_extendBlock place.inside place.pending instruction
  omega

end Builder.At

end IR

end Lowering
