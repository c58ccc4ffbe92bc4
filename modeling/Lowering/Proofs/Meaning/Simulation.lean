import Lowering.Proofs.Meaning.Fragment
import Lowering.Proofs.Meaning.Machine
import Lowering.Proofs.Naming

/-
This file relates a body that is being lowered to a call that is being carried out. What was emitted
so far brings the machine to a state in which every local holds the value that the call gives it.
-/

namespace Lowering

open IR

namespace IR.Machine

/-- A local is its own value, or the address of a cell that no other local has. -/
inductive Holds (machine : Machine) (value : Value) (tree : Tree) : Prop where
  | object (own : value.isAddress = false) (word : machine.word? value = some (.tree tree))
  | cell (cell : Nat) (own : value.isAddress = true)
      (concrete : value.type.ty.isExistential = false)
      (word : machine.word? value = some (.address cell []))
      (stored : machine.cells[cell]? = some tree)

/-- The locals hold the values of an activation, each in a place of its own. -/
structure Mirrors (machine : Machine) (locals : Locals) (store : Store) : Prop where
  values : ∀ id value, locals.get? id = some value →
    ∃ tree, store id = some tree ∧ machine.Holds value tree
  apart : ∀ id other value another cell, locals.get? id = some value →
    locals.get? other = some another → machine.word? value = some (.address cell []) →
    machine.word? another = some (.address cell []) → id = other

@[simp] theorem word?_withCells (machine : Machine) (cells : List Tree) (value : Value) :
    (machine.withCells cells).word? value = machine.word? value := rfl

namespace Mirrors

variable {machine later : Machine} {locals : Locals} {store : Store} {id : DeclId} {value : Value}
  {word : Word} {cell : Nat}

theorem exists_word (mirrors : machine.Mirrors locals store) (bound : locals.get? id = some value) :
    ∃ word, machine.word? value = some word := by
  obtain ⟨tree, _, holds⟩ := mirrors.values id value bound
  cases holds with
  | object _ word => exact ⟨_, word⟩
  | cell _ _ _ word _ => exact ⟨_, word⟩

/-- A local stands for what it stood for. -/
theorem word?_of_extends (mirrors : machine.Mirrors locals store)
    (grows : machine.Extends later) (bound : locals.get? id = some value)
    (holds : later.word? value = some word) : machine.word? value = some word := by
  obtain ⟨old, known⟩ := mirrors.exists_word bound
  rw [grows.word? known] at holds
  rw [known, holds]

/-- A local that is an address has a cell with its value. -/
theorem exists_cell (mirrors : machine.Mirrors locals store) (bound : locals.get? id = some value)
    (points : machine.word? value = some (.address cell [])) :
    ∃ tree, store id = some tree ∧ machine.cells[cell]? = some tree := by
  obtain ⟨tree, found, holds⟩ := mirrors.values id value bound
  cases holds with
  | object _ word =>
    rw [points] at word
    cases word
  | cell other _ _ word stored =>
    rw [points] at word
    cases word
    exact ⟨tree, found, stored⟩

theorem lt_length (mirrors : machine.Mirrors locals store) (bound : locals.get? id = some value)
    (points : machine.word? value = some (.address cell [])) : cell < machine.cells.length := by
  obtain ⟨_, _, stored⟩ := mirrors.exists_cell bound points
  exact (List.getElem?_eq_some_iff.mp stored).1

theorem of_extends (mirrors : machine.Mirrors locals store) (grows : machine.Extends later)
    (kept : ∀ (cell : Nat) (tree : Tree), machine.cells[cell]? = some tree →
      later.cells[cell]? = some tree) : later.Mirrors locals store := by
  constructor
  · intro id value bound
    obtain ⟨tree, found, holds⟩ := mirrors.values id value bound
    refine ⟨tree, found, ?_⟩
    cases holds with
    | object own word => exact .object own (grows.word? word)
    | cell cell own concrete word stored =>
      exact .cell cell own concrete (grows.word? word) (kept cell tree stored)
  · intro id other value another cell bound again points too
    exact mirrors.apart id other value another cell bound again
      (mirrors.word?_of_extends grows bound points) (mirrors.word?_of_extends grows again too)

/-- A local is bound to a cell of its own. -/
theorem bind (mirrors : machine.Mirrors locals store) {tree : Tree} (holds : machine.Holds value tree)
    (fresh : ∀ other another, locals.get? other = some another → ∀ cell,
      machine.word? value = some (.address cell []) →
        machine.word? another ≠ some (.address cell []))
    (id : DeclId) : machine.Mirrors (locals.insert id value) (store.put id tree) := by
  constructor
  · intro other bound found
    by_cases same : other = id
    · subst same
      obtain rfl : value = bound := by simpa using found
      exact ⟨tree, by simp, holds⟩
    · rw [Table.get?_insert_of_ne _ _ _ _ same] at found
      rw [Store.put_of_ne _ _ _ _ same]
      exact mirrors.values other bound found
  · intro first second value₁ value₂ cell found₁ found₂ points₁ points₂
    by_cases same₁ : first = id
    · by_cases same₂ : second = id
      · rw [same₁, same₂]
      · subst same₁
        obtain rfl : value = value₁ := by simpa using found₁
        rw [Table.get?_insert_of_ne _ _ _ _ same₂] at found₂
        exact (fresh second value₂ found₂ cell points₁ points₂).elim
    · rw [Table.get?_insert_of_ne _ _ _ _ same₁] at found₁
      by_cases same₂ : second = id
      · subst same₂
        obtain rfl : value = value₂ := by simpa using found₂
        exact (fresh first value₁ found₁ cell points₂ points₁).elim
      · rw [Table.get?_insert_of_ne _ _ _ _ same₂] at found₂
        exact mirrors.apart first second value₁ value₂ cell found₁ found₂ points₁ points₂

/-- Storing to the cell of a local gives it another value. -/
theorem store_bound (mirrors : machine.Mirrors locals store) (bound : locals.get? id = some value)
    (points : machine.word? value = some (.address cell [])) (tree : Tree) :
    (machine.withCells (machine.cells.set cell tree)).Mirrors locals (store.put id tree) := by
  constructor
  · intro other another found
    obtain ⟨old, known, holds⟩ := mirrors.values other another found
    by_cases same : other = id
    · subst same
      obtain rfl : value = another := Option.some.inj (bound.symm.trans found)
      refine ⟨tree, by simp, ?_⟩
      have inside := mirrors.lt_length bound points
      cases holds with
      | object _ word =>
        rw [points] at word
        cases word
      | cell _ own concrete word _ =>
        refine .cell cell own concrete (by simpa using points) ?_
        simp [inside]
    · refine ⟨old, by rw [Store.put_of_ne _ _ _ _ same, known], ?_⟩
      cases holds with
      | object own word => exact .object own (by simpa using word)
      | cell place own concrete word stored =>
        refine .cell place own concrete (by simpa using word) ?_
        have differ : cell ≠ place := by
          rintro rfl
          exact same (mirrors.apart other id another value cell found bound word points)
        simpa [List.getElem?_set_ne differ] using stored
  · exact fun id other value another cell found again points too =>
      mirrors.apart id other value another cell found again points too

/-- Storing to a cell that no local has changes nothing for the locals. -/
theorem store_unbound (mirrors : machine.Mirrors locals store)
    (unbound : ∀ id value, locals.get? id = some value →
      machine.word? value ≠ some (.address cell [])) (tree : Tree) :
    (machine.withCells (machine.cells.set cell tree)).Mirrors locals store := by
  constructor
  · intro id value bound
    obtain ⟨old, known, holds⟩ := mirrors.values id value bound
    refine ⟨old, known, ?_⟩
    cases holds with
    | object own word => exact .object own (by simpa using word)
    | cell place own concrete word stored =>
      refine .cell place own concrete (by simpa using word) ?_
      have differ : cell ≠ place := by
        rintro rfl
        exact unbound id value bound word
      simpa [List.getElem?_set_ne differ] using stored
  · exact fun id other value another cell found again points too =>
      mirrors.apart id other value another cell found again points too

end Mirrors

end IR.Machine

namespace Pass

variable {pass : Pass} {start machine next later : Machine} {builder : Builder}

/-- What stands in the open block brings the machine to this state. -/
def Executes (pass : Pass) (start machine : Machine) : Prop :=
  ∃ function block, pass.builder.At function block ∧
    start.exec block.instructions = some machine ∧
    ∀ id, function.temps.issued ≤ id → machine.temps id = none

/-- The block at the insertion point ends like this. -/
def Ends (pass : Pass) (start : Machine) (outcome : Outcome) : Prop :=
  ∃ cursor function block, pass.builder.cursor = some cursor ∧
    pass.builder.module.function? cursor.function = some function ∧
    function.block? cursor.block = some block ∧ start.run block.instructions = some outcome

theorem Executes.define {type : OperandType} {instruction : TempId → Instruction} {value : Value}
    {word : Word} (executes : pass.Executes start machine)
    (defines : ∀ id, (instruction id).value? = some (Value.temp id type))
    (steps : ∀ id, machine.step (instruction id) = some (next.define id word))
    (same : next.temps = machine.temps)
    (done : BuildM.define type instruction pass.builder = .ok value builder) :
    ∃ result, value = Value.temp result type ∧ machine.temps result = none ∧
      { pass with builder := builder }.Executes start (next.define result word) := by
  obtain ⟨function, block, place, executed, unused⟩ := executes
  obtain ⟨again, same_block, here, rfl, rfl⟩ := BuildM.run_define done
  obtain ⟨rfl, rfl⟩ := place.unique here
  refine ⟨again.temps.issued, rfl, unused _ (Nat.le_refl _), _, _,
    place.define (Instruction.continues_of_value? (defines again.temps.issued)), ?_, ?_⟩
  · exact Machine.exec_append _ _ executed (steps again.temps.issued)
  · intro id above
    have above : again.temps.issued + 1 ≤ id := above
    have apart : id ≠ again.temps.issued := by omega
    rw [Machine.temps_define_of_ne _ _ apart, same]
    exact unused id (by omega)

theorem Executes.append {instruction : Instruction} {value : Unit}
    (executes : pass.Executes start machine) (continues : instruction.isTerminator = false)
    (steps : machine.step instruction = some next) (same : next.temps = machine.temps)
    (done : BuildM.append instruction pass.builder = .ok value builder) :
    { pass with builder := builder }.Executes start next := by
  obtain ⟨function, block, place, executed, unused⟩ := executes
  obtain ⟨again, same_block, here, rfl⟩ := BuildM.run_append done
  obtain ⟨rfl, rfl⟩ := place.unique here
  refine ⟨_, _, place.append continues, Machine.exec_append _ _ executed steps, ?_⟩
  intro id above
  rw [same]
  exact unused id above

theorem Executes.terminate {instruction : Instruction} {value : Unit} {outcome : Outcome}
    (executes : pass.Executes start machine) (ends : machine.run [instruction] = some outcome)
    (done : BuildM.append instruction pass.builder = .ok value builder) :
    { pass with builder := builder }.Ends start outcome := by
  obtain ⟨function, block, place, executed, _⟩ := executes
  obtain ⟨again, same_block, here, rfl⟩ := BuildM.run_append done
  obtain ⟨rfl, rfl⟩ := place.unique here
  refine ⟨_, _, _, place.cursor, ?_, place.block?_extendBlock instruction, ?_⟩
  · exact Builder.function?_put_self (again.extendBlock same_block.label instruction) again
      pass.builder place.present
  · rw [← ends]
    exact Machine.run_of_exec _ _ executed

end Pass

end Lowering
