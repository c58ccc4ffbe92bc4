import Lowering.Proofs.Pass.Declaration
import Lowering.Proofs.Program.Assembled

/-
This file shows that no temporary leaves its block. Every temporary operand is a parameter of the
block that it stands in or the result of an earlier instruction there, so nothing that an outer
function holds leaks into a nested one.
-/

namespace Lowering

namespace IR

namespace Block

/-- The values that a block has before its instruction at `place`. -/
def valuesBefore (block : Block) (place : Nat) : List Value :=
  block.paramValues ++ (block.instructions.take place).filterMap Instruction.value?

/-- The values that the next instruction of a block may use. -/
def values (block : Block) : List Value :=
  block.paramValues ++ block.instructions.filterMap Instruction.value?

/-- Every temporary is used after it was defined, in its own block and at its own type. -/
def Ordered (block : Block) : Prop :=
  ∀ place instruction, block.instructions[place]? = some instruction →
    ∀ operand ∈ instruction.operands, operand.temp?.isSome = true →
      operand ∈ block.valuesBefore place

theorem ordered_of_empty {block : Block} (empty : block.instructions = []) : block.Ordered := by
  intro place instruction found
  simp [empty] at found

theorem Ordered.add {block : Block} (ordered : block.Ordered) {instruction : Instruction}
    (inside : ∀ operand ∈ instruction.operands, operand.temp?.isSome = true →
      operand ∈ block.values) : (block.add instruction).Ordered := by
  intro place other found operand listed temporary
  by_cases earlier : place < block.instructions.length
  · have old : block.instructions[place]? = some other := by
      simpa [Block.add, List.getElem?_append_left earlier] using found
    have kept := ordered place other old operand listed temporary
    have same : (block.instructions ++ [instruction]).take place =
        block.instructions.take place :=
      List.take_append_of_le_length (Nat.le_of_lt earlier)
    rw [valuesBefore, Block.add, same]
    exact kept
  · have last : place = block.instructions.length := by
      have bound := (List.getElem?_eq_some_iff.mp found).1
      simp only [Block.add, List.length_append, List.length_singleton] at bound
      omega
    subst last
    have new : other = instruction := by
      simpa [Block.add, eq_comm] using found
    subst new
    rw [valuesBefore, Block.add, List.take_left]
    exact inside operand listed temporary

theorem mem_values_add {block : Block} {instruction : Instruction} {value : Value}
    (defines : instruction.value? = some value) : value ∈ (block.add instruction).values := by
  simp [values, Block.add, List.filterMap_append, defines]

theorem values_subset {block later : Block} (params : later.params = block.params)
    (longer : block.instructions <+: later.instructions) {value : Value}
    (inside : value ∈ block.values) : value ∈ later.values := by
  obtain ⟨rest, grown⟩ := longer
  simp only [values, paramValues, ← grown, params, List.filterMap_append, ← List.append_assoc]
  exact List.mem_append_left _ inside

end Block

/-- Every block of every function is ordered. -/
def Module.Ordered (module : Module) : Prop :=
  ∀ function ∈ module.functions, ∀ block ∈ function.blocks, block.Ordered

namespace Module.Ordered

theorem put {builder : Builder} (ordered : builder.module.Ordered) {function : Function}
    (new : ∀ block ∈ function.blocks, block.Ordered) : (builder.put function).module.Ordered := by
  intro other inside
  rcases mem_modifyFirst _ _ _ _ inside with old | ⟨_, _, rfl⟩
  · exact ordered other old
  · exact new

theorem addFunction {module : Module} (ordered : module.Ordered) (name : String)
    (signature : Signature) : (module.addFunction (Function.declared name signature)).Ordered := by
  intro function inside
  rcases List.mem_append.mp inside with old | new
  · exact ordered function old
  · rw [List.mem_singleton.mp new]
    intro block impossible
    cases impossible

/-- One more instruction whose temporaries the open block has. -/
theorem extend {builder : Builder} (ordered : builder.module.Ordered) {function : Function}
    {block : Block} (place : builder.At function block) {instruction : Instruction}
    (inside : ∀ operand ∈ instruction.operands, operand.temp?.isSome = true →
      operand ∈ block.values) (blocks : Function)
    (same : blocks.blocks = function.blocks) :
    ∀ later ∈ (blocks.extendBlock block.label instruction).blocks, later.Ordered := by
  have listed := ordered function (Module.mem_of_function? place.present)
  intro later stays
  rcases mem_modifyFirst _ _ _ _ stays with old | ⟨first, found, rfl⟩
  · exact listed later (same ▸ old)
  · rw [same] at found
    obtain rfl : block = first := Option.some.inj (place.inside.symm.trans found)
    exact (listed block (Function.mem_of_block? place.inside)).add inside

end Module.Ordered

end IR

open IR

/-- The block at the insertion point has the value, if it is a temporary. -/
def Pass.Has (pass : Pass) (value : Value) : Prop :=
  value.temp?.isSome = true →
    ∃ block, pass.builder.currentBlock = .ok block ∧ value ∈ block.values

namespace Pass

theorem has_of_temp? (pass : Pass) {value : Value} (none : value.temp? = none) :
    pass.Has value := by
  intro temporary
  simp [none] at temporary

theorem Has.of_steady {before after : Pass} {value : Value} (steady : before.Steady after)
    (has : before.Has value) : after.Has value := by
  intro temporary
  obtain ⟨block, current, inside⟩ := has temporary
  unfold Builder.currentBlock at current
  cases placed : before.builder.cursor with
  | none => simp [placed] at current
  | some cursor =>
    simp only [placed] at current
    cases found : before.builder.module.function? cursor.function with
    | none => simp [found] at current
    | some function =>
      simp only [found] at current
      cases held : function.block? cursor.block with
      | none => simp [held] at current
      | some own =>
        simp only [held, Except.ok.injEq] at current
        subst current
        obtain ⟨later, found_later, grown⟩ := steady.grows.module.functions _ _ found
        obtain ⟨longer, held_later, params, extended, _⟩ := grown.blocks _ _ held
        refine ⟨longer, ?_, Block.values_subset params extended inside⟩
        simp [Builder.currentBlock, steady.cursor, placed, found_later, held_later]

/-- The temporaries among usable operands are in the open block. -/
theorem Has.inside {pass : Pass} {function : Function} {block : Block} {value : Value}
    (has : pass.Has value) (place : pass.builder.At function block)
    (temporary : value.temp?.isSome = true) : value ∈ block.values := by
  obtain ⟨other, current, inside⟩ := has temporary
  rw [place.currentBlock] at current
  obtain rfl := Except.ok.inj current
  exact inside

end Pass

/-- An operand is usable where its block has it. -/
def scoping (job : Job) : Policy job where
  Holds pass := pass.builder.module.Ordered
  Usable := Pass.Has
  usable_of_steady := Pass.Has.of_steady
  usable_literal pass _ literal := pass.has_of_temp? literal.2.1
  usable_error _ _ := Pass.has_of_temp? _ rfl
  usable_error_again _ _ _ := Pass.has_of_temp? _ rfl
  usable_declared declared := by
    obtain ⟨name, signature, _, _, _, rfl, _⟩ := declared
    exact Pass.has_of_temp? _ rfl
  define := by
    intro pass type instruction value builder working ordered defines usable _ done
    obtain ⟨function, block, place, rfl, rfl⟩ := BuildM.run_define done
    refine ⟨ordered.put (ordered.extend place ?_ _ rfl), ?_⟩
    · intro operand listed temporary
      exact (usable _ operand listed).inside place temporary
    · intro _
      have continues := Instruction.continues_of_value? (defines function.temps.issued)
      exact ⟨_, (place.define continues).currentBlock,
        Block.mem_values_add (defines function.temps.issued)⟩
  append := by
    intro pass instruction value builder working ordered _ usable done
    obtain ⟨function, block, place, rfl⟩ := BuildM.run_append done
    refine ordered.put (ordered.extend place ?_ _ rfl)
    intro operand listed temporary
    exact (usable operand listed).inside place temporary
  report _ ordered := ordered
  names ordered _ _ := ordered
  function := by
    intro pass name signature _ ordered _
    exact ordered.addFunction name signature
  block := by
    intro pass name params label args builder formed ordered done
    obtain ⟨function, found, rfl, rfl, rfl, place⟩ := Builder.At.of_createBlock formed done
    refine ⟨ordered.put ?_, ?_⟩
    · intro later inside
      rcases List.mem_append.mp inside with old | new
      · exact ordered function (Module.mem_of_function? found) later old
      · rw [List.mem_singleton.mp new]
        exact Block.ordered_of_empty rfl
    · intro arg inside _
      exact ⟨_, place.currentBlock, List.mem_append_left _ inside⟩
  table _ ordered := ordered
  cursor _ ordered := ordered

/--
In every function of a lowered module no temporary is defined twice, and every temporary operand is
a parameter of its own block or the result of an earlier instruction there.
-/
theorem lower_ordered {program : Program} {id : DeclId} {options : Options} {lowered : Lowered}
    (done : lower program id options = .ok lowered) :
    ∀ function ∈ lowered.module.functions, function.defined.Nodup ∧
      ∀ block ∈ function.blocks, block.Ordered := by
  have start : (scoping ⟨program, options⟩).Holds (Pass.start options) :=
    fun _ impossible => nomatch impossible
  obtain ⟨pass, ordered, same, _, formed, _⟩ := (scoping ⟨program, options⟩).lower start done
  intro function inside
  rw [← same] at inside
  exact ⟨(formed.functions function inside).distinct, ordered function inside⟩

open Assembly in
/-- A function inside another, and a type whose method satisfies a view. -/
def nesting : Assembly Unit := do
  let main ← addModule "main"
  let view ← addView main "Showable"
  let requirement ← addMethod view "show" [] .int false
  let pair ← addProduct main "Pair"
  let x ← addStoredProperty pair "x" .int
  let method ← addMethod pair "get" [] .int false
  let self ← ask (·.refExpr ⟨method.index + 1⟩ Span.unknown)
  let member ← ask (·.memberExpr self x Span.unknown)
  setBody method ⟨[.returned (some member) Span.unknown], Span.unknown⟩
  addConformance pair view [⟨requirement, method⟩]
  let outer ← addFunction main "outer" [⟨none, "n", .int⟩] .int
  let inner ← addFunction outer "inner" [] .int
  let captured ← ask (·.refExpr ⟨outer.index + 1⟩ Span.unknown)
  setBody inner ⟨[.returned (some captured) Span.unknown], Span.unknown⟩
  let callee ← ask (·.refExpr inner Span.unknown)
  setBody outer ⟨[.decl inner, .returned (some (.ofCall callee [] Span.unknown)) Span.unknown],
    Span.unknown⟩

theorem lower_ordered_nesting :
    ∃ lowered, lower nesting.built ⟨0⟩ Options.standard = .ok lowered ∧
      lowered.module.functions.map Function.name =
        ["Pair.get$witness$Showable.show", "Pair.get", "outer", "outer.inner"] ∧
      ∀ function ∈ lowered.module.functions, function.defined.Nodup ∧
        ∀ block ∈ function.blocks, block.Ordered := by
  have lowers : (lower nesting.built ⟨0⟩ Options.standard).toOption.map
      (·.module.functions.map Function.name) =
        some ["Pair.get$witness$Showable.show", "Pair.get", "outer", "outer.inner"] := by
    decide +kernel
  obtain ⟨lowered, done, names⟩ := ok_of_map lowers
  exact ⟨lowered, done, names, lower_ordered done⟩

end Lowering
