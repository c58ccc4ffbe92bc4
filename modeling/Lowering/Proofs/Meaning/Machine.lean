import Lowering.IR.Function
import Lowering.Proofs.Meaning.Source

/-
This file runs the IR functions of bodies that make no calls. A stack location is a cell with a tree,
and an address leads from a cell to one of its members.
-/

namespace Lowering

namespace IR

/-- A temporary holds a value or the address of one. -/
inductive Word where
  | tree (value : Tree)
  | address (cell : Nat) (path : List DeclId)

/-- The temporaries and the stack of one activation of a function. -/
structure Machine where
  temps : TempId → Option Word
  cells : List Tree

namespace Machine

variable (machine : Machine)

/-- What an operand stands for. -/
def word? (value : Value) : Option Word :=
  match value.kind with
  | .temp id => machine.temps id
  | .unit => some (.tree .unit)
  | .bool value => some (.tree (.bool value))
  | .int value => some (.tree (.int value))
  | .float value => some (.tree (.float value))
  | .string value => some (.tree (.string value))
  | .error | .function _ | .builtin _ => none

def tree? (value : Value) : Option Tree :=
  match machine.word? value with
  | some (.tree tree) => some tree
  | _ => none

def address? (value : Value) : Option (Nat × List DeclId) :=
  match machine.word? value with
  | some (.address cell path) => some (cell, path)
  | _ => none

/-- The machine with a temporary. -/
def define (result : TempId) (word : Word) : Machine :=
  { machine with temps := fun id => if id = result then some word else machine.temps id }

/-- The machine with another stack. -/
def withCells (cells : List Tree) : Machine := { machine with cells := cells }

/-- One instruction that does not end its block; calls and containers are not dealt with here. -/
def step : Instruction → Option Machine
  | .allocStack result _ =>
    some ((machine.withCells (machine.cells ++ [.undefined])).define result
      (.address machine.cells.length []))
  | .recordMemberAddr result record member _ _ => do
    let (cell, path) ← machine.address? record
    return machine.define result (.address cell (path ++ [member]))
  | .load result location _ => do
    let (cell, path) ← machine.address? location
    return machine.define result (.tree ((← machine.cells[cell]?).get path))
  | .store value location => do
    let (cell, path) ← machine.address? location
    let tree := Tree.set (← machine.tree? value) path (← machine.cells[cell]?)
    return machine.withCells (machine.cells.set cell tree)
  | _ => none

/-- The machine after some instructions. -/
def exec (instructions : List Instruction) : Option Machine := instructions.foldlM step machine

/-- How the instructions of a block end. -/
def run (machine : Machine) : List Instruction → Option Outcome
  | [] => none
  | .ret value :: _ => do return .returned (← machine.tree? value)
  | .halt :: _ => some .halted
  | instruction :: rest => do run (← machine.step instruction) rest

end Machine

/-- The machine at the start of a block, whose parameters are the arguments. -/
def Block.enter (block : Block) (args : List Tree) : Machine where
  temps id := (((block.params.map Prod.fst).zip args).lookup id).map .tree
  cells := []

/-- A function runs its first block. -/
def Function.run (function : Function) (args : List Tree) : Option Outcome := do
  let block ← entry? function
  (block.enter args).run block.instructions

namespace Machine

variable {machine next later : Machine} {value : Value} {word : Word}

theorem tree?_of_word? {tree : Tree} (holds : machine.word? value = some (.tree tree)) :
    machine.tree? value = some tree := by
  simp [tree?, holds]

theorem address?_of_word? {cell : Nat} {path : List DeclId}
    (holds : machine.word? value = some (.address cell path)) :
    machine.address? value = some (cell, path) := by
  simp [address?, holds]

@[simp] theorem word?_temp (id : TempId) (type : OperandType) :
    machine.word? (Value.temp id type) = machine.temps id := rfl

@[simp] theorem temps_define_self (result : TempId) :
    (machine.define result word).temps result = some word := by
  simp [define]

@[simp] theorem temps_define_of_ne (result id : TempId) (differ : id ≠ result) :
    (machine.define result word).temps id = machine.temps id := by
  simp [define, differ]

@[simp] theorem cells_define (result : TempId) : (machine.define result word).cells = machine.cells :=
  rfl

@[simp] theorem temps_withCells (cells : List Tree) :
    (machine.withCells cells).temps = machine.temps := rfl

@[simp] theorem cells_withCells (cells : List Tree) : (machine.withCells cells).cells = cells := rfl

/-- What an operand stands for is not the error value. -/
theorem isError_of_word? (holds : machine.word? value = some word) : value.isError = false := by
  cases failed : value.isError with
  | false => rfl
  | true =>
    have kind : value.kind = .error := by simpa [Value.isError] using failed
    simp [word?, kind] at holds

theorem exec_append (first : List Instruction) (instruction : Instruction)
    (done : machine.exec first = some next) (steps : next.step instruction = some later) :
    machine.exec (first ++ [instruction]) = some later := by
  rw [exec] at done
  simp [exec, List.foldlM_append, done, steps]

/-- An instruction that can be carried out does not end its block. -/
theorem run_cons {instruction : Instruction} (rest : List Instruction)
    (steps : machine.step instruction = some next) :
    machine.run (instruction :: rest) = next.run rest := by
  cases instruction with
  | ret | halt => cases steps
  | _ => simp only [run, steps, Option.bind_eq_bind, Option.bind_some]

/-- What was carried out does not matter for how the rest ends. -/
theorem run_of_exec (first rest : List Instruction) (done : machine.exec first = some next) :
    machine.run (first ++ rest) = next.run rest := by
  induction first generalizing machine with
  | nil =>
    obtain rfl : machine = next := by simpa [exec] using done
    rfl
  | cons instruction first first_ih =>
    obtain ⟨between, steps, done⟩ := Option.bind_eq_some_iff.mp done
    rw [List.cons_append, run_cons _ steps, first_ih done]

/-- No temporary is lost. -/
def Extends (machine later : Machine) : Prop :=
  ∀ id word, machine.temps id = some word → later.temps id = some word

namespace Extends

theorem refl (machine : Machine) : machine.Extends machine := fun _ _ holds => holds

theorem trans (start : machine.Extends next) (rest : next.Extends later) : machine.Extends later :=
  fun id word holds => rest id word (start id word holds)

theorem word? (extends_ : machine.Extends later) (holds : machine.word? value = some word) :
    later.word? value = some word := by
  cases kind : value.kind with
  | temp id =>
    rw [Machine.word?, kind] at holds ⊢
    exact extends_ id word holds
  | _ =>
    rw [Machine.word?, kind] at holds ⊢
    exact holds

end Extends

theorem extends_define {result : TempId} (fresh : machine.temps result = none) :
    machine.Extends (machine.define result word) := by
  intro id held holds
  have apart : id ≠ result := by
    intro same
    rw [same, fresh] at holds
    cases holds
  rw [temps_define_of_ne _ _ apart, holds]

end Machine

end IR

end Lowering
