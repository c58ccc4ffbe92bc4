import Lowering.Proofs.Container.Building
import Lowering.Proofs.Meaning.Expression

/-
This file carries out the code of an expression that denotes a location. By value it is read from the
address that it denotes.
-/

namespace Lowering

open IR

namespace IR.Memory

/-- The address that an expression denotes. What failed to check denotes none. -/
def place? (memory : Memory) (locals : Locals) (expr : Expr) : Option Address :=
  if expr.ty.isError then none
  else match expr with
    | .ref _ id => (locals.get? id).bind memory.address?
    | .member _ base id => (place? memory locals base).map (·.select (.member id))
    | .addressOf _ operand => place? memory locals operand
    | _ => none

end IR.Memory

/-- A step of a body returns, and running what it writes leaves a memory like this behind. -/
def BodyM.Carries {A : Type} (step : BodyM A) (before : Activation) (memory : Memory)
    (post : A → Memory → Prop) : Prop :=
  ∃ value builder written later, step before = .ok value (before.withBuilder builder) ∧
    before.pass.builder.Writes written builder ∧ memory.exec written = some later ∧
    later.Fits builder ∧ memory.Extends later ∧ post value later

namespace BodyM.Carries

variable {A B : Type} {step : BodyM A} {before : Activation} {memory : Memory}
  {post : A → Memory → Prop} {last : B → Memory → Prop}

theorem pure {value : A} (fits : memory.Fits before.pass.builder) (met : post value memory) :
    Carries (Pure.pure value) before memory post :=
  ⟨value, before.pass.builder, [], memory, rfl, .refl _, rfl, fits, .refl memory, met⟩

theorem bind {next : A → BodyM B} (first : Carries step before memory post)
    (rest : ∀ value builder later, later.Fits builder → memory.Extends later → post value later →
      Carries (next value) (before.withBuilder builder) later last) :
    Carries (step >>= next) before memory last := by
  obtain ⟨value, builder, start, between, ran, begins, runs, fits, grows, met⟩ := first
  obtain ⟨given, done, more, later, ran_rest, ends, runs_rest, fits_rest, grows_rest, met_rest⟩ :=
    rest value builder between fits grows met
  exact ⟨given, done, start ++ more, later, (run_bind _ _ _ _ _).mpr ⟨value, _, ran, ran_rest⟩,
    begins.trans ends, Memory.exec_append runs runs_rest, fits_rest, grows.trans grows_rest, met_rest⟩

theorem imp {weaker : A → Memory → Prop} (carries : Carries step before memory post)
    (weaken : ∀ value later, post value later → weaker value later) :
    Carries step before memory weaker := by
  obtain ⟨value, builder, written, later, ran, writes, runs, fits, grows, met⟩ := carries
  exact ⟨value, builder, written, later, ran, writes, runs, fits, grows, weaken value later met⟩

theorem lift {step : BuildM A} (carries : BuildM.Carries step before.pass.builder memory post) :
    Carries (liftM step) before memory post := by
  obtain ⟨value, builder, written, later, ran, writes, runs, fits, grows, met⟩ := carries
  exact ⟨value, builder, written, later, (lift_body _ _ _ _).mpr ⟨builder, ran, rfl⟩, writes, runs,
    fits, grows, met⟩

theorem check_bind {question : CheckM A} {next : A → BodyM B} {answer : A}
    (asked : question = .ok answer) (rest : Carries (next answer) before memory last) :
    Carries (liftM question >>= next) before memory last := by
  obtain ⟨value, builder, written, later, ran, known⟩ := rest
  exact ⟨value, builder, written, later, (run_ask_bind _ _ _ _ _).mpr ⟨answer, asked, ran⟩, known⟩

end BodyM.Carries

namespace Frame

variable {frame : Frame} {before after middle : Activation} {memory : Memory} {expr : Expr}
  {place : Address} {source value : Value}

/-- The code of a location leads to the address that the expression denotes, and writes nothing. -/
theorem Locates.carried (located : frame.Locates before expr (.ok source) after)
    (fits : memory.Fits before.pass.builder)
    (denotes : memory.place? before.locals expr = some place) :
    ∃ builder written later, after = before.withBuilder builder ∧
      before.pass.builder.Writes written builder ∧ memory.exec written = some later ∧
      later.Fits builder ∧ memory.Extends later ∧ later.cells = memory.cells ∧
      source.isAddress = true ∧ later.address? source = some place := by
  generalize answer : Except.ok source = result at located
  induction located generalizing source place with
  | flawed flawed =>
    rw [Memory.place?.eq_def, if_pos flawed] at denotes
    cases denotes
  | @bound note id value checked found addressed =>
    obtain rfl := Except.ok.inj answer
    have leads : memory.address? source = some place := by
      simpa [Memory.place?, checked, found] using denotes
    have right := Memory.isError_of_content? (Memory.address?_eq_some.mp leads)
    exact ⟨before.pass.builder, [], memory, rfl, .refl _, rfl, fits, .refl memory, rfl,
      by simpa [right] using addressed, leads⟩
  | @member note base id decl record value ty between after checked _ _ _ _ _ selected base_ih =>
    obtain rfl := Except.ok.inj answer
    rw [Memory.place?.eq_def, if_neg (ne_true_of_eq_false checked)] at denotes
    obtain ⟨origin, base_denotes, rfl⟩ := Option.map_eq_some_iff.mp denotes
    obtain ⟨builder, start, first, rfl, begins, runs, fits, grows, cells, isAddress, leads⟩ :=
      base_ih base_denotes rfl
    obtain ⟨last, ran, rfl⟩ := (lift_body _ _ _ _).mp selected
    obtain ⟨written, later, ends, runs_later, fits, grows_later, type, addressed, cells_later⟩ :=
      (BuildM.Carries.recordMemberAddr fits isAddress leads id decl.name ty).of_run ran
    refine ⟨last, start ++ written, later, rfl, begins.trans ends, Memory.exec_append runs runs_later,
      fits, grows.trans grows_later, cells_later.trans cells, ?_, Memory.address?_eq_some.mpr addressed⟩
    rw [Value.isAddress, type]
    rfl
  | addressOf checked _ operand_ih =>
    rw [Memory.place?.eq_def, if_neg (ne_true_of_eq_false checked)] at denotes
    exact operand_ih denotes answer
  | object | missing | placeless | dispatched | computed | other => cases answer

/-- What denotes a location is read from there. -/
theorem value_of_location (owned : ∀ note operand, expr ≠ .addressOf note operand)
    (checked : expr.ty.isError = false)
    (located : (frame.location expr).run before = .ok (.ok source) middle)
    (isAddress : source.isAddress = true) (sound : source.isError = false)
    (loaded : (liftM (BuildM.load source) : BodyM Value) middle = .ok value after) :
    (frame.value expr).run before = .ok (.ok value) after := by
  cases run_location.mp located with
  | flawed => cases sound
  | bound _ found _ =>
    rw [Frame.value]
    refine run_local?_bind.mpr ?_
    rw [found]
    dsimp only
    rw [isAddress, sound]
    exact (lift_attempt_build _ _ _ _).mpr ⟨value, loaded, rfl⟩
  | @member _ _ _ decl record _ ty between _ _ declared stored concrete recorded seen selected =>
    rw [Frame.value]
    refine (attempt_check_bind _ _ _ _ _).mpr ⟨decl, (lift_answer _ _).mpr declared, ?_⟩
    cases kind : decl.kind with
    | «variable» hasStorage =>
      rw [kind] at stored
      simp only [stored, concrete, Bool.not_true, Bool.false_eq_true, if_false]
      refine (attempt_lift_bind _ _ _ _ _).mpr ⟨record, between, ?_, ?_⟩
      · exact (attempt_recover _ _ _ _ _).mpr (Or.inl recorded.run)
      refine (attempt_check_bind _ _ _ _ _).mpr ⟨ty, seen, ?_⟩
      refine (attempt_bind _ _ _ _ _).mpr ⟨source, middle, ?_, ?_⟩
      · exact (lift_attempt_build _ _ _ _).mpr ⟨source, selected, rfl⟩
      · exact (lift_attempt_build _ _ _ _).mpr ⟨value, loaded, rfl⟩
    | _ => simp [kind, DeclKind.isStored] at stored
  | addressOf => exact (owned _ _ rfl).elim

section Reading

variable {content : Content} (fits : memory.Fits before.pass.builder)
  (denotes : memory.place? before.locals expr = some place)
  (located : (frame.location expr).run before = .ok (.ok source) middle)

include fits denotes located

theorem location_carries :
    BodyM.Carries (frame.location expr).run before memory fun result later =>
      result = .ok source ∧ later.cells = memory.cells ∧ source.isAddress = true ∧
      later.address? source = some place := by
  obtain ⟨builder, written, later, rfl, writes, runs, fits, grows, known⟩ :=
    (run_location.mp located).carried fits denotes
  exact ⟨_, builder, written, later, located, writes, runs, fits, grows, rfl, known⟩

/-- By value, what stands at the address is loaded. -/
theorem emitValue_carries (owned : ∀ note operand, expr ≠ .addressOf note operand)
    (checked : expr.ty.isError = false) (there : memory.at? place = some content) :
    BodyM.Carries (frame.emitValue expr) before memory fun value later =>
      later.content? value = some content ∧ later.cells = memory.cells := by
  obtain ⟨_, builder, written, later, located, writes, runs, fits, grows, rfl, cells, isAddress,
    leads⟩ := location_carries fits denotes located
  have sound := Memory.isError_of_content? (Memory.address?_eq_some.mp leads)
  obtain ⟨value, after, more, last, ran, ends, runs_last, fits, grows_last, _, held, cells_last⟩ :=
    BuildM.Carries.load fits isAddress leads ((Memory.at?_congr cells place).trans there)
  have loaded := (lift_body _ (before.withBuilder builder) _ _).mpr ⟨after, ran, rfl⟩
  have done : frame.emitValue expr before = .ok value (before.withBuilder after) := by
    rw [emitValue, emitWith, checked]
    exact (attempt_recover _ _ _ _ _).mpr
      (Or.inl (value_of_location owned checked located isAddress sound loaded))
  exact ⟨value, after, written ++ more, last, done, writes.trans ends,
    Memory.exec_append runs runs_last, fits, grows.trans grows_last, held, cells_last.trans cells⟩

end Reading

end Frame

end Lowering
