import Lowering.Proofs.Meaning.Machine

/-
This file shows that no two slots of a block are the same cell, whatever else the block does.
-/

namespace Lowering

namespace IR

namespace Machine

variable {machine next later : Machine} {instruction : Instruction}
  {instructions : List Instruction}

/--
What an instruction may come to, also where it calls something or deals with a container. A slot is
a new cell. Whatever else is done to what the cells hold, it defines nothing but its result and
takes no cell away.
-/
inductive Performs : Machine → Instruction → Machine → Prop
  | slot {machine : Machine} {result : TempId} {ty : Ty} :
    Performs machine (.allocStack result ty)
      ((machine.withCells (machine.cells ++ [.undefined])).define result
        (.address machine.cells.length []))
  | other {machine next : Machine} {instruction : Instruction}
    (ordinary : ∀ result ty, instruction ≠ .allocStack result ty)
    (temps : ∀ id, instruction.result? ≠ some id → next.temps id = machine.temps id)
    (cells : machine.cells.length ≤ next.cells.length) : Performs machine instruction next

inductive PerformsAll : Machine → List Instruction → Machine → Prop
  | nil {machine : Machine} : PerformsAll machine [] machine
  | cons {machine next later : Machine} {instruction : Instruction} {rest : List Instruction}
    (first : machine.Performs instruction next) (others : PerformsAll next rest later) :
    PerformsAll machine (instruction :: rest) later

/-- A store changes one cell, to which its location leads. -/
theorem step_store {value location : Value}
    (stores : machine.step (.store value location) = some next) :
    ∃ cell path tree, machine.address? location = some (cell, path) ∧
      next = machine.withCells (machine.cells.set cell tree) := by
  obtain ⟨⟨cell, path⟩, place, stores⟩ := Option.bind_eq_some_iff.mp stores
  obtain ⟨new, _, stores⟩ := Option.bind_eq_some_iff.mp stores
  obtain ⟨old, _, stores⟩ := Option.bind_eq_some_iff.mp stores
  exact ⟨cell, path, _, place, (Option.some.inj stores).symm⟩

/-- The machine performs its own steps. -/
theorem performs_of_step (steps : machine.step instruction = some next) :
    machine.Performs instruction next := by
  have define {result : TempId} {word : Word} (id : TempId) (apart : some result ≠ some id) :
      (machine.define result word).temps id = machine.temps id :=
    temps_define_of_ne _ _ fun same => apart (congrArg some same.symm)
  cases instruction with
  | allocStack result ty =>
    obtain rfl := Option.some.inj steps
    exact .slot
  | recordMemberAddr result record member name type =>
    obtain ⟨place, _, steps⟩ := Option.bind_eq_some_iff.mp steps
    obtain rfl := Option.some.inj steps
    exact .other nofun define (Nat.le_refl _)
  | load result location type =>
    obtain ⟨place, _, steps⟩ := Option.bind_eq_some_iff.mp steps
    obtain ⟨tree, _, steps⟩ := Option.bind_eq_some_iff.mp steps
    obtain rfl := Option.some.inj steps
    exact .other nofun define (Nat.le_refl _)
  | store value location =>
    obtain ⟨_, _, _, _, rfl⟩ := step_store steps
    exact .other nofun (fun _ _ => rfl) (by simp)
  | _ => cases steps

theorem performsAll_of_exec (done : machine.exec instructions = some later) :
    machine.PerformsAll instructions later := by
  induction instructions generalizing machine with
  | nil =>
    obtain rfl : machine = later := by simpa [exec] using done
    exact .nil
  | cons instruction rest rest_ih =>
    obtain ⟨next, steps, done⟩ := Option.bind_eq_some_iff.mp done
    exact .cons (performs_of_step steps) (rest_ih done)

namespace Performs

theorem cells_le (performs : machine.Performs instruction next) :
    machine.cells.length ≤ next.cells.length := by
  cases performs with
  | slot => simp
  | other _ _ cells => exact cells

theorem temps_eq (performs : machine.Performs instruction next) {id : TempId}
    (apart : instruction.result? ≠ some id) : next.temps id = machine.temps id := by
  cases performs with
  | slot => exact temps_define_of_ne _ _ fun same => apart (congrArg some same.symm)
  | other _ temps _ => exact temps id apart

end Performs

namespace PerformsAll

theorem cells_le (performs : machine.PerformsAll instructions later) :
    machine.cells.length ≤ later.cells.length := by
  induction performs with
  | nil => exact Nat.le_refl _
  | cons first _ others_ih => exact Nat.le_trans first.cells_le others_ih

theorem temps_eq (performs : machine.PerformsAll instructions later) {id : TempId}
    (apart : id ∉ instructions.filterMap Instruction.result?) :
    later.temps id = machine.temps id := by
  induction performs with
  | nil => rfl
  | cons first _ others_ih =>
    have first_apart : _ ≠ some id := fun same =>
      apart (List.mem_filterMap.mpr ⟨_, List.mem_cons_self .., same⟩)
    refine (others_ih fun inside => apart ?_).trans (first.temps_eq first_apart)
    obtain ⟨instruction, listed, same⟩ := List.mem_filterMap.mp inside
    exact List.mem_filterMap.mpr ⟨instruction, List.mem_cons_of_mem _ listed, same⟩

/-- A slot that is made first is there until the end, if nothing else has its name. -/
theorem slot_first {result : TempId} {ty : Ty} {rest : List Instruction}
    (performs : machine.PerformsAll (.allocStack result ty :: rest) later)
    (fresh : result ∉ rest.filterMap Instruction.result?) :
    later.temps result = some (.address machine.cells.length []) ∧
      ∃ next : Machine, next.PerformsAll rest later ∧
        next.cells.length = machine.cells.length + 1 := by
  cases performs with
  | cons first others =>
    cases first with
    | slot => exact ⟨by rw [others.temps_eq fresh, temps_define_self], _, others, by simp⟩
    | other ordinary => exact (ordinary result ty rfl).elim

/-- A slot is a cell that was not there before. -/
theorem slot {result : TempId} {ty : Ty} (performs : machine.PerformsAll instructions later)
    (distinct : (instructions.filterMap Instruction.result?).Nodup)
    (listed : .allocStack result ty ∈ instructions) :
    ∃ cell, later.temps result = some (.address cell []) ∧ machine.cells.length ≤ cell ∧
      cell < later.cells.length := by
  induction instructions generalizing machine with
  | nil => cases listed
  | cons instruction rest rest_ih =>
    rcases List.mem_cons.mp listed with rfl | inside
    · have fresh : result ∉ rest.filterMap Instruction.result? := (List.nodup_cons.mp distinct).1
      obtain ⟨place, next, others, length⟩ := performs.slot_first fresh
      exact ⟨_, place, Nat.le_refl _, Nat.lt_of_lt_of_le (by omega) others.cells_le⟩
    · have later_distinct := distinct.sublist ((List.sublist_cons_self instruction rest).filterMap _)
      cases performs with
      | cons first others =>
        obtain ⟨cell, place, above, below⟩ := rest_ih others later_distinct inside
        exact ⟨cell, place, Nat.le_trans first.cells_le above, below⟩

/-- Two slots are different cells. -/
theorem slots_apart {first second : TempId} {one two : Ty}
    (performs : machine.PerformsAll instructions later)
    (distinct : (instructions.filterMap Instruction.result?).Nodup)
    (listed : .allocStack first one ∈ instructions)
    (listed_too : .allocStack second two ∈ instructions) (apart : first ≠ second) :
    ∃ own other, later.temps first = some (.address own []) ∧
      later.temps second = some (.address other []) ∧ own ≠ other := by
  induction instructions generalizing machine with
  | nil => cases listed
  | cons instruction rest rest_ih =>
    have later_distinct := distinct.sublist ((List.sublist_cons_self instruction rest).filterMap _)
    rcases List.mem_cons.mp listed with rfl | inside <;>
      rcases List.mem_cons.mp listed_too with same | inside_too
    · exact (apart (Instruction.allocStack.inj same).1.symm).elim
    · obtain ⟨place, next, others, length⟩ := performs.slot_first (List.nodup_cons.mp distinct).1
      obtain ⟨other, given, above, _⟩ := others.slot later_distinct inside_too
      exact ⟨_, other, place, given, by omega⟩
    · subst same
      obtain ⟨place, next, others, length⟩ := performs.slot_first (List.nodup_cons.mp distinct).1
      obtain ⟨own, given, above, _⟩ := others.slot later_distinct inside
      exact ⟨own, _, given, place, by omega⟩
    · cases performs with
      | cons _ others => exact rest_ih others later_distinct inside inside_too

/-- A store to one of two slots leaves the other one as it is. -/
theorem stores_apart {first second : TempId} {one two : Ty}
    (performs : machine.PerformsAll instructions later)
    (distinct : (instructions.filterMap Instruction.result?).Nodup)
    (listed : .allocStack first one ∈ instructions)
    (listed_too : .allocStack second two ∈ instructions) (apart : first ≠ second) :
    ∃ cell other, later.word? (Value.temp first (.address one)) = some (.address cell []) ∧
      later.word? (Value.temp second (.address two)) = some (.address other []) ∧ cell ≠ other ∧
      ∀ value last, later.step (.store value (Value.temp first (.address one))) = some last →
        last.cells[other]? = later.cells[other]? := by
  obtain ⟨cell, other, place, place_other, differ⟩ :=
    performs.slots_apart distinct listed listed_too apart
  have leads : later.word? (Value.temp first (.address one)) = some (.address cell []) := place
  refine ⟨cell, other, leads, place_other, differ, fun value last stores => ?_⟩
  obtain ⟨changed, path, tree, located, rfl⟩ := step_store stores
  rw [address?_of_word? leads] at located
  obtain ⟨rfl, _⟩ := Prod.mk.inj (Option.some.inj located)
  exact List.getElem?_set_ne differ

end PerformsAll

end Machine

end IR

end Lowering
