import Lowering.Proofs.Container.Memory
import Lowering.Proofs.IR.Writing

/-
This file carries out building steps while they are taken: a step returns, and the memory runs the
instructions that it writes.
-/

namespace Lowering

namespace IR

/-- The insertion point is open, and whatever temporary there is was handed out before. -/
def Memory.Fits (memory : Memory) (builder : Builder) : Prop :=
  ∃ function block, builder.At function block ∧
    ∀ id content, memory.temps id = some content → id < function.temps.issued

namespace BuildM

/-- The step returns, and running what it writes leaves a memory like this behind. -/
def Carries {A : Type} (step : BuildM A) (builder : Builder) (memory : Memory)
    (post : A → Memory → Prop) : Prop :=
  ∃ value after written later, step builder = .ok value after ∧ builder.Writes written after ∧
    memory.exec written = some later ∧ later.Fits after ∧ memory.Extends later ∧ post value later

namespace Carries

variable {A B : Type} {step : BuildM A} {builder : Builder} {memory : Memory}
  {post : A → Memory → Prop} {value location : Value} {place source : Address}
  {content old : Content} {type : OperandType}

theorem bind {next : A → BuildM B} {last : B → Memory → Prop}
    (first : Carries step builder memory post)
    (rest : ∀ value after later, later.Fits after → memory.Extends later → post value later →
      Carries (next value) after later last) : Carries (step >>= next) builder memory last := by
  obtain ⟨value, after, start, between, ran, begins, runs, fits, grows, met⟩ := first
  obtain ⟨given, done, more, later, ran_rest, ends, runs_rest, fits_rest, grows_rest, met_rest⟩ :=
    rest value after between fits grows met
  exact ⟨given, done, start ++ more, later, (run_bind _ _ _ _ _).mpr ⟨value, after, ran, ran_rest⟩,
    begins.trans ends, Memory.exec_append runs runs_rest, fits_rest, grows.trans grows_rest, met_rest⟩

/-- There is only one way in which the step returns. -/
theorem of_run {value : A} {after : Builder} (carries : Carries step builder memory post)
    (done : step builder = .ok value after) :
    ∃ written later, builder.Writes written after ∧ memory.exec written = some later ∧
      later.Fits after ∧ memory.Extends later ∧ post value later := by
  obtain ⟨_, _, written, later, ran, writes, runs, fits, grows, met⟩ := carries
  obtain ⟨rfl, rfl⟩ := EStateM.Result.ok.inj (ran.symm.trans done)
  exact ⟨written, later, writes, runs, fits, grows, met⟩

theorem imp {weaker : A → Memory → Prop} (carries : Carries step builder memory post)
    (weaken : ∀ value later, post value later → weaker value later) :
    Carries step builder memory weaker := by
  obtain ⟨value, after, written, later, ran, writes, runs, fits, grows, met⟩ := carries
  exact ⟨value, after, written, later, ran, writes, runs, fits, grows, weaken value later met⟩

/-- An instruction that defines a temporary is carried out on memory that lacks it. -/
theorem define (fits : memory.Fits builder) {instruction : TempId → Instruction} {cells : List Content}
    (steps : ∀ id, memory.step (instruction id) =
      some ((memory.withCells cells).define id content)) :
    Carries (BuildM.define type instruction) builder memory fun value later =>
      value.type = type ∧ later.content? value = some content ∧ later.cells = cells := by
  obtain ⟨function, block, place, issued⟩ := fits
  have continues (id : TempId) : (instruction id).isTerminator = false := by
    have ran := steps id
    cases written : instruction id <;> first | rfl | simp [written, Memory.step] at ran
  have fresh : memory.temps function.temps.issued = none := by
    cases held : memory.temps function.temps.issued with
    | none => rfl
    | some content => exact (Nat.lt_irrefl _ (issued _ _ held)).elim
  refine ⟨_, _, _, _, place.define_eq type instruction, place.writes function.takeTemp.2 rfl rfl _,
    (Memory.exec_singleton _).trans (steps _), ⟨_, _, place.define (continues _), ?_⟩,
    .define cells fresh, rfl, by simp, by simp⟩
  intro id given held
  show id < function.temps.issued + 1
  by_cases same : id = function.temps.issued
  · exact same ▸ Nat.lt_succ_self _
  · have held : memory.temps id = some given := by
      simpa [Memory.define, Memory.withCells, same] using held
    exact Nat.lt_succ_of_lt (issued id given held)

theorem append (fits : memory.Fits builder) {instruction : Instruction} {cells : List Content}
    (steps : memory.step instruction = some (memory.withCells cells)) :
    Carries (BuildM.append instruction) builder memory fun _ later => later = memory.withCells cells := by
  obtain ⟨function, block, place, issued⟩ := fits
  have continues : instruction.isTerminator = false := by
    cases instruction <;> first | rfl | simp [Memory.step] at steps
  exact ⟨_, _, _, _, place.append_eq instruction, place.writes function rfl rfl _,
    (Memory.exec_singleton _).trans steps, ⟨_, _, place.append continues, issued⟩,
    fun _ _ held => held, rfl⟩

theorem requireAddress_bind {opcode : String} {operand : Value}
    (isAddress : operand.isAddress = true) (rest : Carries step builder memory post) :
    Carries (requireAddress opcode operand >>= fun _ => step) builder memory post := by
  have checked : requireAddress opcode operand = Pure.pure () := by simp [requireAddress, isAddress]
  rw [checked, pure_bind]
  exact rest

/-- A new location is undefined. -/
theorem allocStack (fits : memory.Fits builder) (ty : Ty) :
    Carries (BuildM.allocStack ty) builder memory fun value later =>
      value.type = .address ty ∧
      later.content? value = some (.address ⟨memory.cells.length, []⟩) ∧
      later.cells = memory.cells ++ [.undefined] :=
  define fits fun _ => rfl

section Access

variable (fits : memory.Fits builder) (isAddress : location.isAddress = true)
  (leads : memory.address? location = some place) (there : memory.at? place = some old)

include fits isAddress leads

theorem unsafeCastAddr (target : Ty) :
    Carries (BuildM.unsafeCastAddr location target) builder memory fun value later =>
      value.type = .address target ∧ later.content? value = some (.address place) ∧
      later.cells = memory.cells :=
  requireAddress_bind isAddress (define fits fun _ => by simp [Memory.step, leads]; rfl)

theorem recordMemberAddr (member : DeclId) (name : String) (ty : Ty) :
    Carries (BuildM.recordMemberAddr location member name ty) builder memory fun value later =>
      value.type = .address ty ∧
      later.content? value = some (.address (place.select (.member member))) ∧
      later.cells = memory.cells :=
  requireAddress_bind isAddress (define fits fun _ => by simp [Memory.step, leads]; rfl)

include there

theorem load : Carries (BuildM.load location) builder memory fun value later =>
    value.type = location.type.asObject ∧ later.content? value = some old ∧
    later.cells = memory.cells :=
  requireAddress_bind isAddress (define fits fun _ => by simp [Memory.step, leads, there]; rfl)

theorem store (held : memory.content? value = some content) :
    Carries (BuildM.store value location) builder memory fun _ later =>
      later = memory.withCells (memory.put content place) :=
  requireAddress_bind isAddress (append fits (by simp [Memory.step, leads, there, held]))

/-- The container is tagged, and what it holds is not yet defined. -/
theorem allocExistential (witness : Ty) :
    Carries (BuildM.allocExistential location witness) builder memory fun value later =>
      value.type = .address witness ∧
      later.content? value = some (.address (place.select .payload)) ∧
      later.cells = memory.put (.container witness .undefined) place :=
  requireAddress_bind isAddress (define fits fun _ => by simp [Memory.step, leads, there])

theorem copyAddr {given : Value} (given_isAddress : given.isAddress = true)
    (given_leads : memory.address? given = some source) (given_there : memory.at? source = some content) :
    Carries (BuildM.copyAddr given location) builder memory fun _ later =>
      later = memory.withCells (memory.put content place) :=
  requireAddress_bind given_isAddress (requireAddress_bind isAddress
    (append fits (by simp [Memory.step, leads, there, given_leads, given_there])))

end Access

section Assign

variable (fits : memory.Fits builder) (isAddress : location.isAddress = true)
  (leads : memory.address? location = some place) (there : memory.at? place = some old)
  (held : memory.content? value = some content)

include fits isAddress leads there held

/-- A value that goes through a temporary location of its own type arrives as it is. -/
theorem storeCast (ty target : Ty) : Carries (do
    let temporary ← BuildM.allocStack ty
    BuildM.store value temporary
    let source ← BuildM.unsafeCastAddr temporary target
    BuildM.copyAddr source location) builder memory fun _ later =>
      memory.Puts place content later := by
  refine bind (allocStack fits ty) fun temporary _ first fits grows ⟨type, addressed, cells⟩ => ?_
  have temporary_isAddress : temporary.isAddress = true := by rw [Value.isAddress, type]; rfl
  have temporary_leads := Memory.address?_eq_some.mpr addressed
  refine bind (store fits temporary_isAddress temporary_leads (Memory.at?_new cells)
    (grows.content? held)) fun _ _ second fits second_grows stored => ?_
  have second_cells : second.cells = memory.cells ++ [content] := by
    rw [stored, Memory.cells_withCells, Memory.put_new cells]
  refine bind (unsafeCastAddr fits temporary_isAddress (second_grows.address? temporary_leads) target)
    fun source _ third fits third_grows ⟨source_type, source_addressed, third_cells⟩ => ?_
  have third_cells := third_cells.trans second_cells
  have source_isAddress : source.isAddress = true := by rw [Value.isAddress, source_type]; rfl
  have grown := (grows.trans second_grows).trans third_grows
  refine (copyAddr fits isAddress (grown.address? leads) (Memory.at?_append third_cells there)
    source_isAddress (Memory.address?_eq_some.mpr source_addressed)
    (Memory.at?_new third_cells)).imp fun _ later copied => ?_
  rw [Memory.Puts, copied, Memory.cells_withCells, Memory.put_append third_cells content there]
  exact List.prefix_append _ _

/-- A value that is packed is the payload of a container of its type. -/
theorem pack (ty : Ty) : Carries (do
    let slot ← BuildM.allocExistential location ty
    BuildM.store value slot) builder memory fun _ later =>
      memory.Puts place (.container ty content) later := by
  refine bind (allocExistential fits isAddress leads there ty)
    fun slot _ first fits grows ⟨type, addressed, cells⟩ => ?_
  have slot_isAddress : slot.isAddress = true := by rw [Value.isAddress, type]; rfl
  have room : first.at? (place.select .payload) = some .undefined := by
    rw [Memory.at?_select, Memory.at?_put _ there cells]
    rfl
  refine (store fits slot_isAddress (Memory.address?_eq_some.mpr addressed) room
    (grows.content? held)).imp fun _ later stored => ?_
  have same : first.cells = (memory.withCells (memory.put (.container ty .undefined) place)).cells :=
    cells
  apply Memory.Puts.of_cells
  rw [stored, Memory.cells_withCells, Memory.put_congr same, Memory.put_put_select _ _ there]
  rfl

/-- A value is put into a location of existential type, in a container unless it is in one already. -/
theorem assignValue (existential : location.type.ty.isExistential = true) (ty : Ty) :
    Carries (BuildM.assignValue value ty location) builder memory fun _ later =>
      memory.Puts place (content.packed ty) later := by
  have sound := Memory.isError_of_content? held
  have sound_location := Memory.isError_of_content? (Memory.address?_eq_some.mp leads)
  have apart : location.type.ty.isUnion = false := by
    cases target : location.type.ty <;> first | rfl | simp [target, Ty.isExistential] at existential
  unfold BuildM.assignValue
  simp only [sound, sound_location, existential, apart, Bool.false_eq_true, if_false, Bool.and_false,
    Bool.false_or, Bool.or_false, decide_eq_true_eq, Bool.true_and, if_true]
  split
  next same =>
    rw [Content.packed, same, if_pos existential]
    exact (store fits isAddress leads there held).imp fun _ later stored =>
      .of_cells (congrArg Memory.cells stored)
  split
  next other =>
    rw [Content.packed, if_pos other]
    exact storeCast fits isAddress leads there held ty _
  next concrete =>
    rw [Content.packed, if_neg concrete]
    exact pack fits isAddress leads there held ty

end Assign

end Carries

end BuildM

end IR

end Lowering
