import Lowering.Proofs.Container.Location
import Lowering.Proofs.Program.Assembled
import Lowering.Proofs.Typing.Types

/-
This file shows that an assignment to a container keeps what is assigned. A value is packed or moved,
and a location is copied; either way the container holds the same afterwards.
-/

namespace Lowering

open IR

namespace IR.Memory

/-- In either way, opening what stands at an address as a value of the type yields the content. -/
def Opens (memory : Memory) (location : Value) (ty : Ty) (content : Content) : Prop :=
  ∀ first result,
    (memory.exec [.openExistentialAddr first location (.address ty),
      .load result (.temp first (.address ty)) (.object ty)]).bind (·.temps result) = some content ∧
    (memory.exec [.load first location location.type.asObject,
      .openExistential result (.temp first location.type.asObject) (.object ty)]).bind
        (·.temps result) = some content

/-- A container is opened as a value of the type that it holds. -/
theorem opens_of_container {memory : Memory} {location : Value} {place : Address} {ty : Ty}
    {content : Content} (leads : memory.address? location = some place)
    (there : memory.at? place = some (.container ty content)) : memory.Opens location ty content := by
  intro first result
  have payload : memory.at? (place.select .payload) = some content := by
    rw [at?_select, there]
    rfl
  have slot : (memory.define first (.address (place.select .payload))).address?
      (.temp first (.address ty)) = some (place.select .payload) :=
    address?_eq_some.mpr (temps_define_self first)
  have whole : (memory.define first (.container ty content)).content?
      (.temp first location.type.asObject) = some (.container ty content) :=
    temps_define_self first
  constructor
  · rw [exec_pair (step_openExistentialAddr leads there first) (step_load slot payload result _)]
    exact temps_define_self result
  · rw [exec_pair (step_load leads there first _) (step_openExistential whole result)]
    exact temps_define_self result

end IR.Memory

namespace Frame

variable {frame : Frame} {before middle : Activation} {memory : Memory} {expr : Expr}
  {place origin : Address} {source location : Value} {content old : Content} {ty : Ty}

section Paths

variable (fits : memory.Fits before.pass.builder) (isAddress : location.isAddress = true)
  (leads : memory.address? location = some place) (there : memory.at? place = some old)
  (existential : location.type.ty.isExistential = true)
  (denotes : memory.place? before.locals expr = some origin)
  (located : (frame.location expr).run before = .ok (.ok source) middle)
  (held : memory.at? origin = some content)

include fits isAddress leads there existential denotes located held

/-- A container is copied from the location where it stands. -/
theorem copyFrom?_carries (container : ty.isExistential = true) :
    BodyM.Carries (frame.copyFrom? expr location ty) before memory fun copied later =>
      copied = true ∧ memory.Puts place content later := by
  have container_location : location.type.isExistential = true := existential
  unfold Frame.copyFrom?
  rw [container_location, container]
  refine .bind (location_carries fits denotes located)
    fun _ builder first fits grows ⟨same, cells, addressed, reaches⟩ => ?_
  subst same
  dsimp only
  rw [Memory.isError_of_content? (Memory.address?_eq_some.mp reaches), if_neg Bool.false_ne_true]
  -- Whether the address is cast or not, it is the same that is copied from.
  have copied {given : Value} {builder : Builder} {second : Memory} (fits : second.Fits builder)
      (grows : memory.Extends second) (cells : second.cells = memory.cells)
      (addressed : given.isAddress = true) (reaches : second.address? given = some origin) :
      BodyM.Carries (do BuildM.copyAddr given location; return true) (before.withBuilder builder) second
        fun copied later => copied = true ∧ memory.Puts place content later := by
    refine .bind (.lift (.copyAddr fits isAddress (grows.address? leads)
      ((Memory.at?_congr cells _).trans there) addressed reaches
      ((Memory.at?_congr cells _).trans held))) fun _ _ later fits _ stored => ?_
    refine .pure fits ⟨rfl, .of_cells ?_⟩
    rw [stored, Memory.cells_withCells, Memory.put_congr cells]
  split
  · refine .bind (.lift (.unsafeCastAddr fits addressed reaches _))
      fun cast builder second fits later_grows ⟨type, cast_reaches, second_cells⟩ => ?_
    have cast_addressed : cast.isAddress = true := by rw [Value.isAddress, type]; rfl
    exact copied fits (grows.trans later_grows) (second_cells.trans cells) cast_addressed
      (Memory.address?_eq_some.mpr cast_reaches)
  · rw [pure_bind]
    exact copied fits grows cells addressed reaches

/-- The value path packs or moves what it has read. -/
theorem valuePath_carries (owned : ∀ note operand, expr ≠ .addressOf note operand)
    (checked : expr.ty.isError = false) :
    BodyM.Carries (do
      let value ← frame.emitValue expr
      BuildM.assignValue value ty location) before memory fun _ later =>
        memory.Puts place (content.packed ty) later := by
  refine .bind (emitValue_carries fits denotes located owned checked held)
    fun value builder first fits grows ⟨yields, cells⟩ => ?_
  refine .lift ((BuildM.Carries.assignValue fits isAddress (grows.address? leads)
    ((Memory.at?_congr cells _).trans there) yields existential ty).imp fun _ later puts => ?_)
  rw [Memory.Puts, Memory.put_congr cells] at puts
  exact puts

/-- An assignment leaves the same behind as the value path. -/
theorem emitAssign_carries (owned : ∀ note operand, expr ≠ .addressOf note operand)
    (checked : expr.ty.isError = false) (seen : frame.contextualize expr.ty = .ok ty) :
    BodyM.Carries (frame.emitAssign expr location) before memory fun _ later =>
      memory.Puts place (content.packed ty) later := by
  unfold emitAssign assignWith
  rw [Memory.isError_of_content? (Memory.address?_eq_some.mp leads)]
  refine .check_bind seen ?_
  by_cases container : ty.isExistential = true
  · refine .bind (copyFrom?_carries fits isAddress leads there existential denotes located held
      container) fun copied builder later fits _ ⟨same, puts⟩ => ?_
    subst same
    rw [Content.packed, if_pos container]
    exact .pure fits puts
  · have direct : frame.copyFrom? expr location ty = pure false := by
      simp [Frame.copyFrom?, container]
    rw [direct, pure_bind]
    exact valuePath_carries fits isAddress leads there existential denotes located held owned checked

end Paths

/--
After a value was assigned to a location of existential type, opening the location as the type of the
value yields it, and a container that is assigned is what the location holds. Nothing else that was
there before is changed. An expression that denotes a location leaves the same behind, whether its
container is copied or its value is read and assigned.
-/
theorem assignment_keeps {before : Activation} {memory : Memory} {location : Value} {place : Address}
    {old : Content} (fits : memory.Fits before.pass.builder) (isAddress : location.isAddress = true)
    (existential : location.type.ty.isExistential = true)
    (leads : memory.address? location = some place) (there : memory.at? place = some old) :
    (∀ value ty content, memory.content? value = some content →
      BodyM.Carries (BuildM.assignValue value ty location) before memory fun _ later =>
        (ty.isExistential = false → later.Opens location ty content) ∧
        (ty.isExistential = true → later.at? place = some content) ∧
        ∀ other : Address, other.cell < memory.cells.length → other.Apart place →
          later.at? other = memory.at? other) ∧
    ∀ (frame : Frame) expr ty source middle origin content, frame.program.Types expr →
      expr.ty.isExistential = true → frame.contextualize expr.ty = .ok ty →
      (frame.location expr).run before = .ok (.ok source) middle →
      memory.place? before.locals expr = some origin → memory.at? origin = some content →
      BodyM.Carries (frame.emitAssign expr location) before memory fun _ assigned =>
        BodyM.Carries (do
          let value ← frame.emitValue expr
          BuildM.assignValue value ty location) before memory fun _ valued =>
            (∀ cell < memory.cells.length, assigned.cells[cell]? = valued.cells[cell]?) ∧
            assigned.at? place = some (content.packed ty) ∧
            ∀ other : Address, other.cell < memory.cells.length → other.Apart place →
              assigned.at? other = memory.at? other := by
  constructor
  · intro value ty content held
    obtain ⟨_, builder, written, later, ran, writes, runs, fits_later, grows, puts⟩ :=
      BodyM.Carries.lift (.assignValue fits isAddress leads there held existential ty)
    refine ⟨_, builder, written, later, ran, writes, runs, fits_later, grows, ?_, ?_, ?_⟩
    · intro concrete
      refine Memory.opens_of_container (grows.address? leads) ((puts.here there).trans ?_)
      simp [Content.packed, concrete]
    · intro container
      rw [puts.here there, Content.packed, if_pos container]
    · exact fun other inside apart => puts.apart there inside apart
  · intro frame expr ty source middle origin content typed container seen located denotes held
    have checked : expr.ty.isError = false := by
      cases same : expr.ty <;> simp_all [Ty.isExistential, Ty.isError]
    have owned (note : Note) (operand : Expr) (same : expr = .addressOf note operand) : False := by
      subst same
      cases typed with
      | addressOf _ ty _ =>
        rw [show (Expr.addressOf note operand).ty = note.ty from rfl, ty] at container
        cases container
    refine (emitAssign_carries fits isAddress leads there existential denotes located held owned checked
      seen).imp fun _ assigned puts => ?_
    refine (valuePath_carries fits isAddress leads there existential denotes located held owned
      checked).imp fun _ valued puts_valued => ?_
    refine ⟨fun cell inside => puts.same puts_valued inside, puts.here there, ?_⟩
    exact fun other inside apart => puts.apart there inside apart

end Frame

open Assembly in
/-- A box has an item of existential type. -/
def boxing : Assembly Unit := do
  let main ← addModule "main"
  let view ← addView main "Showable"
  let box ← addProduct main "Box"
  let _ ← addStoredProperty box "item" (.existential [⟨view, "Showable"⟩])
  let ty ← ask (·.declaredType box)
  let _ ← addFunction main "fill" [⟨none, "b", ty⟩] .unit

namespace boxing

def frame : Frame := ⟨⟨boxing.built, Options.standard⟩, ⟨5⟩⟩

def showable : Ty := .existential [⟨⟨1⟩, "Showable"⟩]

def item : Expr :=
  .member ⟨showable, Span.unknown⟩ (.ref ⟨.product ⟨⟨2⟩, "Box"⟩, Span.unknown⟩ ⟨6⟩) ⟨3⟩

/-- The box stands in the first location, and the second one is to be filled. -/
def memory : Memory where
  temps id := if id = 0 then some (.address ⟨0, []⟩) else if id = 1 then some (.address ⟨1, []⟩) else none
  cells := [.record fun _ => .container .int (.int 3), .undefined]

def start : Activation where
  pass := ⟨⟨⟨"main", [⟨"fill", ⟨[], .unit⟩, [⟨0, [], []⟩], ⟨2⟩, ⟨1⟩⟩], []⟩, some ⟨"fill", 0⟩⟩,
    Names.empty, Report.empty⟩
  locals := Table.empty.insert ⟨6⟩ (Value.temp 0 (.address (.product ⟨⟨2⟩, "Box"⟩)))

/-- The second location is of another existential type than the item. -/
def location : Value := Value.temp 1 (.address (.existential []))

theorem fits : memory.Fits start.pass.builder := by
  refine ⟨⟨"fill", ⟨[], .unit⟩, [⟨0, [], []⟩], ⟨2⟩, ⟨1⟩⟩, ⟨0, [], []⟩, ⟨rfl, rfl, rfl, rfl⟩, ?_⟩
  intro id content held
  simp only [memory] at held
  split at held
  next first => exact first ▸ Nat.two_pos
  split at held
  next second => exact second ▸ Nat.one_lt_two
  cases held

theorem types : boxing.built.Types item := by
  have declared : ((boxing.built.find? ⟨6⟩).map (·.ty.base)) = some (.product ⟨⟨2⟩, "Box"⟩) := by
    decide +kernel
  have stored : ((boxing.built.find? ⟨3⟩).map (·.ty.base)) = some showable := by decide +kernel
  obtain ⟨decl, found, ty⟩ := Option.map_eq_some_iff.mp declared
  obtain ⟨field, found_field, ty_field⟩ := Option.map_eq_some_iff.mp stored
  exact .member (.ref found ty.symm) found_field ty_field.symm

end boxing

open boxing in
theorem assignment_keeps_boxing :
    ∃ source middle, boxing.built.Types item ∧ frame.contextualize item.ty = .ok showable ∧
      (frame.location item).run start = .ok (.ok source) middle ∧
      memory.place? start.locals item = some ⟨0, [.member ⟨3⟩]⟩ ∧
      BodyM.Carries (BuildM.assignValue (Value.int 5) .int location) start memory (fun _ later =>
        later.Opens location .int (.int 5)) ∧
      BodyM.Carries (frame.emitAssign item location) start memory (fun _ assigned =>
        BodyM.Carries (do
          let value ← frame.emitValue item
          BuildM.assignValue value showable location) start memory fun _ valued =>
            assigned.cells[1]? = valued.cells[1]? ∧
            assigned.at? ⟨1, []⟩ = some (.container .int (.int 3))) := by
  have locates : ((EStateM.run' (frame.location item).run start).bind Except.toOption).isSome =
      true := by
    decide +kernel
  unfold EStateM.run' EStateM.run at locates
  have sees : (frame.contextualize item.ty).toOption.map id = some showable := by decide +kernel
  obtain ⟨ty, seen, rfl⟩ := ok_of_map sees
  have denotes : memory.place? start.locals item = some ⟨0, [.member ⟨3⟩]⟩ := by decide +kernel
  obtain ⟨assigns, moves⟩ :=
    Frame.assignment_keeps fits (rfl : location.isAddress = true) rfl rfl rfl
  cases located : (frame.location item).run start with
  | error =>
    rw [located] at locates
    cases locates
  | ok result middle =>
    rw [located] at locates
    cases result with
    | error => cases locates
    | ok source =>
      refine ⟨source, middle, types, seen, rfl, denotes, ?_, ?_⟩
      · exact (assigns (Value.int 5) .int _ rfl).imp fun _ _ known => known.1 rfl
      · refine (moves frame item _ source middle _ _ types rfl seen located denotes rfl).imp
          fun _ _ carries => carries.imp fun _ _ known => ?_
        exact ⟨known.1 1 Nat.one_lt_two, known.2.1⟩

end Lowering
