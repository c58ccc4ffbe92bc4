import Lowering.Pass.Location
import Lowering.Proofs.Container.Content

/-
This file runs the instructions that read and write memory. An address may lead into a container, and
only a value of the type that a container holds is taken out of it.
-/

namespace Lowering

namespace IR

/-- The temporaries and the stack of one activation of a function. -/
structure Memory where
  temps : TempId → Option Content
  cells : List Content

namespace Memory

variable (memory : Memory)

/-- What an operand stands for; the error value stands for nothing. -/
def content? (value : Value) : Option Content :=
  match value.kind with
  | .temp id => memory.temps id
  | .unit => some .unit
  | .error => none
  | .bool value => some (.bool value)
  | .int value => some (.int value)
  | .float value => some (.float value)
  | .string value => some (.string value)
  | .function name => some (.function name)
  | .builtin name => some (.builtin name)

def address? (value : Value) : Option Address :=
  match memory.content? value with
  | some (.address place) => some place
  | _ => none

/-- What stands at an address. -/
def at? (place : Address) : Option Content := (memory.cells[place.cell]?).bind (·.get? place.path)

/-- The memory with a temporary. -/
def define (result : TempId) (content : Content) : Memory :=
  { memory with temps := fun id => if id = result then some content else memory.temps id }

/-- The memory with another stack. -/
def withCells (cells : List Content) : Memory := { memory with cells := cells }

/-- The stack with another content at an address. -/
def put (content : Content) (place : Address) : List Content :=
  match memory.cells[place.cell]? with
  | some old => memory.cells.set place.cell (Content.set content old place.path)
  | none => memory.cells

/-- The value in a container, if it is of the type that the container holds. -/
def opened? (content : Content) (ty : Ty) : Option Content :=
  match content with
  | .container witness payload => if witness = ty then some payload else none
  | _ => none

/-- One instruction that reads or writes memory. Every address must lead to something. -/
def step : Instruction → Option Memory
  | .allocStack result _ =>
    some ((memory.withCells (memory.cells ++ [.undefined])).define result
      (.address ⟨memory.cells.length, []⟩))
  | .allocExistential result container witness => do
    let place ← memory.address? container
    let _ ← memory.at? place
    return (memory.withCells (memory.put (.container witness .undefined) place)).define result
      (.address (place.select .payload))
  | .load result location _ => do
    return memory.define result (← memory.at? (← memory.address? location))
  | .store value location => do
    let place ← memory.address? location
    let _ ← memory.at? place
    return memory.withCells (memory.put (← memory.content? value) place)
  | .copyAddr source dest => do
    let content ← memory.at? (← memory.address? source)
    let place ← memory.address? dest
    let _ ← memory.at? place
    return memory.withCells (memory.put content place)
  | .unsafeCastAddr result source _ => do
    return memory.define result (.address (← memory.address? source))
  | .recordMemberAddr result record member _ _ => do
    return memory.define result (.address ((← memory.address? record).select (.member member)))
  | .openExistential result container type => do
    return memory.define result (← opened? (← memory.content? container) type.ty)
  | .openExistentialAddr result container type => do
    let place ← memory.address? container
    let _ ← opened? (← memory.at? place) type.ty
    return memory.define result (.address (place.select .payload))
  | .apply .. | .partialApply .. | .ret _ | .halt => none

/-- The memory after some instructions. -/
def exec (instructions : List Instruction) : Option Memory := instructions.foldlM step memory

/-- No temporary is lost. -/
def Extends (memory later : Memory) : Prop :=
  ∀ id content, memory.temps id = some content → later.temps id = some content

/-- The content is put at an address, and otherwise there are at most further cells. -/
def Puts (memory : Memory) (place : Address) (content : Content) (later : Memory) : Prop :=
  memory.put content place <+: later.cells

variable {memory} {later : Memory} {place : Address} {content old : Content}

theorem address?_eq_some {value : Value} :
    memory.address? value = some place ↔ memory.content? value = some (.address place) := by
  unfold address?
  split
  next held => simp [held]
  next other =>
    constructor
    · exact nofun
    · exact fun held => (other place held).elim

@[simp] theorem content?_temp (id : TempId) (type : OperandType) :
    memory.content? (Value.temp id type) = memory.temps id := rfl

@[simp] theorem temps_define_self (result : TempId) :
    (memory.define result content).temps result = some content := by
  simp [define]

@[simp] theorem cells_define (result : TempId) : (memory.define result content).cells = memory.cells :=
  rfl

@[simp] theorem cells_withCells (cells : List Content) : (memory.withCells cells).cells = cells := rfl

/-- What an operand stands for is not the error value. -/
theorem isError_of_content? {value : Value} (held : memory.content? value = some content) :
    value.isError = false := by
  cases failed : value.isError with
  | false => rfl
  | true =>
    have kind : value.kind = .error := by simpa [Value.isError] using failed
    simp [content?, kind] at held

theorem step_load {location : Value} (leads : memory.address? location = some place)
    (there : memory.at? place = some content) (result : TempId) (type : OperandType) :
    memory.step (.load result location type) = some (memory.define result content) := by
  simp [step, leads, there]

/-- A container is opened as a value of the type that it holds. -/
theorem step_openExistential {container : Value} {type : OperandType}
    (held : memory.content? container = some (.container type.ty content)) (result : TempId) :
    memory.step (.openExistential result container type) = some (memory.define result content) := by
  simp [step, held, opened?]

theorem step_openExistentialAddr {container : Value} {type : OperandType}
    (leads : memory.address? container = some place)
    (there : memory.at? place = some (.container type.ty content)) (result : TempId) :
    memory.step (.openExistentialAddr result container type) =
      some (memory.define result (.address (place.select .payload))) := by
  simp [step, leads, there, opened?]

theorem exec_append {between : Memory} {first second : List Instruction}
    (begins : memory.exec first = some between) (ends : between.exec second = some later) :
    memory.exec (first ++ second) = some later := by
  unfold exec at begins ends ⊢
  rw [List.foldlM_append, begins]
  exact ends

theorem exec_singleton (instruction : Instruction) : memory.exec [instruction] = memory.step instruction := by
  simp [exec]

theorem exec_pair {between : Memory} {first second : Instruction}
    (begins : memory.step first = some between) (ends : between.step second = some later) :
    memory.exec [first, second] = some later := by
  simp [exec, begins, ends]

namespace Extends

theorem refl (memory : Memory) : memory.Extends memory := fun _ _ held => held

theorem trans {between : Memory} (start : memory.Extends between) (rest : between.Extends later) :
    memory.Extends later :=
  fun id content held => rest id content (start id content held)

theorem content? {value : Value} (grows : memory.Extends later)
    (held : memory.content? value = some content) : later.content? value = some content := by
  cases kind : value.kind with
  | temp id =>
    rw [Memory.content?, kind] at held ⊢
    exact grows id content held
  | _ =>
    rw [Memory.content?, kind] at held ⊢
    exact held

theorem address? {value : Value} (grows : memory.Extends later)
    (leads : memory.address? value = some place) : later.address? value = some place :=
  address?_eq_some.mpr (grows.content? (address?_eq_some.mp leads))

theorem define (cells : List Content) {result : TempId} (fresh : memory.temps result = none) :
    memory.Extends ((memory.withCells cells).define result content) := by
  intro id held given
  have apart : id ≠ result := by
    rintro rfl
    rw [fresh] at given
    cases given
  simpa [Memory.define, withCells, apart] using given

end Extends

@[simp] theorem length_put (content : Content) (place : Address) :
    (memory.put content place).length = memory.cells.length := by
  unfold put
  split <;> simp

theorem put_eq_set {cell : Content} (found : memory.cells[place.cell]? = some cell) (content : Content) :
    memory.put content place = memory.cells.set place.cell (Content.set content cell place.path) := by
  simp [put, found]

/-- Only the stack matters to what is put where. -/
theorem put_congr (same : later.cells = memory.cells) (content : Content) (place : Address) :
    later.put content place = memory.put content place := by
  rw [put, put, same]

theorem at?_congr (same : later.cells = memory.cells) (place : Address) :
    later.at? place = memory.at? place := by
  rw [at?, at?, same]

section Append

variable {more : List Content} (kept : later.cells = memory.cells ++ more)

include kept

theorem at?_append (there : memory.at? place = some old) : later.at? place = some old := by
  obtain ⟨cell, found, held⟩ := Option.bind_eq_some_iff.mp there
  rw [at?, kept, List.getElem?_append_left (List.getElem?_eq_some_iff.mp found).1, found]
  exact held

/-- A cell that is added is not touched. -/
theorem put_append (content : Content) (there : memory.at? place = some old) :
    later.put content place = memory.put content place ++ more := by
  obtain ⟨cell, found, _⟩ := Option.bind_eq_some_iff.mp there
  have inside := (List.getElem?_eq_some_iff.mp found).1
  have found_later : later.cells[place.cell]? = some cell := by
    rw [kept, List.getElem?_append_left inside, found]
  rw [put_eq_set found, put_eq_set found_later, kept, List.set_append_left _ _ inside]

end Append

section New

variable (kept : later.cells = memory.cells ++ [content])

include kept

theorem at?_new : later.at? ⟨memory.cells.length, []⟩ = some content := by
  simp [at?, kept, Content.get?]

theorem put_new (value : Content) :
    later.put value ⟨memory.cells.length, []⟩ = memory.cells ++ [value] := by
  simp [put, kept, Content.set]

end New

/-- What is put inside of what was put before could have been put there at once. -/
theorem put_put_select (first second : Content) (there : memory.at? place = some old)
    (selector : Selector) :
    (memory.withCells (memory.put first place)).put second (place.select selector) =
      memory.put (Content.set second first [selector]) place := by
  obtain ⟨cell, found, held⟩ := Option.bind_eq_some_iff.mp there
  have inside := (List.getElem?_eq_some_iff.mp found).1
  have changed : (memory.withCells (memory.put first place)).cells[(place.select selector).cell]? =
      some (Content.set first cell place.path) := by
    rw [cells_withCells, put_eq_set found]
    exact List.getElem?_set_self inside
  rw [put_eq_set changed, put_eq_set found, cells_withCells, put_eq_set found]
  exact (List.set_set _).trans (congrArg _ (Content.set_set_append first second [selector] held))

/-- What was put can be read. -/
theorem at?_put (content : Content) (there : memory.at? place = some old)
    (kept : later.cells = memory.put content place) : later.at? place = some content := by
  obtain ⟨cell, found, held⟩ := Option.bind_eq_some_iff.mp there
  have inside := (List.getElem?_eq_some_iff.mp found).1
  rw [at?, kept, put_eq_set found, List.getElem?_set_self inside]
  exact Content.get?_set content held

theorem at?_select (place : Address) (selector : Selector) :
    memory.at? (place.select selector) = (memory.at? place).bind (·.part? selector) := by
  simp only [at?, Address.select, Content.get?_append, Option.bind_assoc, Content.get?_singleton]

namespace Puts

theorem of_cells (same : later.cells = memory.put content place) : memory.Puts place content later := by
  unfold Puts
  exact same ▸ List.prefix_refl _

/-- The cells that were there before are those of the stack with the content put into it. -/
theorem getElem? (puts : memory.Puts place content later) {cell : Nat}
    (inside : cell < memory.cells.length) :
    later.cells[cell]? = (memory.put content place)[cell]? := by
  obtain ⟨rest, whole⟩ := puts
  rw [← whole, List.getElem?_append_left (by rwa [length_put])]

theorem here (puts : memory.Puts place content later) (there : memory.at? place = some old) :
    later.at? place = some content := by
  obtain ⟨cell, found, _⟩ := Option.bind_eq_some_iff.mp there
  have put : (memory.withCells (memory.put content place)).at? place = some content :=
    at?_put content there rfl
  rw [at?, puts.getElem? (List.getElem?_eq_some_iff.mp found).1]
  exact put

theorem apart (puts : memory.Puts place content later) (there : memory.at? place = some old)
    {other : Address} (inside : other.cell < memory.cells.length) (apart : other.Apart place) :
    later.at? other = memory.at? other := by
  obtain ⟨cell, found, held⟩ := Option.bind_eq_some_iff.mp there
  rw [at?, at?, puts.getElem? inside, put_eq_set found]
  by_cases same : other.cell = place.cell
  · rw [same, List.getElem?_set_self (same ▸ inside), found]
    exact Content.get?_set_of_apart content held (apart same).symm
  · rw [List.getElem?_set_ne (Ne.symm same)]

/-- What is put at the same address leaves the same behind in every cell that was there before. -/
theorem same {other : Memory} (puts : memory.Puts place content later)
    (puts_other : memory.Puts place content other) {cell : Nat} (inside : cell < memory.cells.length) :
    later.cells[cell]? = other.cells[cell]? := by
  rw [puts.getElem? inside, puts_other.getElem? inside]

end Puts

end Memory

end IR

end Lowering
