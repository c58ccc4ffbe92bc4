import Lowering.Proofs.Filling
import Lowering.Proofs.Pass.Descent
import Lowering.Proofs.Program.Capturing
import Lowering.Proofs.Program.Receiving

/-
This file shows what a constructor is lowered to: it makes room for its receiver, and it ends by
returning what is there, whatever its body returns and wherever.
-/

namespace Lowering

open IR

namespace IR

/-- A block that makes room for a value, and ends by returning what is there in the end. -/
def Block.Constructs (block : Block) (ty : Ty) : Prop :=
  ∃ slot loaded middle, block.instructions = .allocStack slot ty :: (middle ++
      [.load loaded (Value.temp slot (.address ty)) (.object ty),
        .ret (Value.temp loaded (.object ty))]) ∧
    ∀ instruction ∈ middle, instruction.isTerminator = false

/-- A block that is still open has no terminator in it. -/
theorem Block.Ended.continues {block : Block} (ended : block.Ended)
    (pending : block.isTerminated = false) :
    ∀ instruction ∈ block.instructions, instruction.isTerminator = false := by
  intro instruction inside
  have ended := ended.add pending .halt instruction
  rw [Block.add, List.dropLast_concat] at ended
  exact ended inside

end IR

namespace Frame

variable {frame : Frame} {here : DeclId → Prop} {nested : DeclId → PassM Unit} {decl : Decl}
  {routine : Routine} {body : Body} {before after : Activation} {self : DeclId} {slot : TempId}
  {ty : Ty}

/-- What a body binds is not the receiver of the function, unless a binding introduces that. -/
theorem Introduces.apart {id owner : DeclId} {value : Value} {borrowed : Ty}
    (introduces : frame.Introduces here id value)
    (housed : frame.program.HoldsLocal owner self borrowed)
    (unbound : ¬frame.program.Brings here self) : self ≠ id := by
  rintro rfl
  cases introduces with
  | failed _ brought => exact unbound brought
  | «variable» _ brought => exact unbound brought
  | closure found listed =>
    obtain ⟨own, found_again, isLocal, _⟩ := housed
    obtain rfl := Option.some.inj (found_again.symm.trans found)
    obtain ⟨name, kind, ty, parent, span⟩ := own
    cases kind with
    | function => cases isLocal
    | _ => cases listed

/-- Statements leave the receiver where it is. -/
theorem emitStmts_local {owner : DeclId} {borrowed : Ty} {flow : Flow} {stmts : List Stmt}
    {value : Value} (housed : frame.program.HoldsLocal owner self borrowed)
    (unbound : ¬frame.program.Brings (· ∈ Stmt.localsAll stmts) self)
    (bound : before.locals.get? self = some value)
    (done : frame.emitStmts nested stmts before = .ok flow after) :
    after.locals.get? self = some value := by
  let kept := Invariant.unconditional frame.toJob
  have footing : kept.Footing (fun locals => locals.get? self = some value)
      (· ∈ Stmt.localsAll stmts) := by
    refine .of_free (Invariant.unconditional_free _) fun bound introduces => ?_
    rwa [Table.get?_insert_of_ne _ _ _ _ (introduces.apart housed unbound)]
  have below (id : DeclId) : kept.Keeps (nested id) fun _ => True :=
    ⟨fun _ _ _ _ _ => ⟨trivial, trivial⟩, fun _ _ _ _ _ => trivial⟩
  have continues := kept.continues_emitStmts footing below stmts fun _ declared => declared
  exact (continues.ok _ _ _ ⟨trivial, bound⟩ done).1.2

/-- The end of a constructor loads the receiver and returns it. -/
theorem run_emitConstructorEnd {function : Function} {block : Block}
    (place : before.pass.builder.At function block) (own : routine.self = some self)
    (bound : before.locals.get? self = some (Value.temp slot (.address ty)))
    (done : emitConstructorEnd routine before = .ok () after) :
    ∃ loaded final, after.pass.builder.module.function? function.name = some final ∧
      final.block? block.label = some
        ((block.add (.load loaded (Value.temp slot (.address ty)) (.object ty))).add
          (.ret (Value.temp loaded (.object ty)))) := by
  obtain ⟨again, _, value, middle, given, known, ran, done⟩ := emitConstructorEnd_cases done
  obtain rfl := Option.some.inj (own.symm.trans given)
  obtain rfl := Option.some.inj (bound.symm.trans known)
  obtain ⟨pass, lifted, rfl⟩ := (lift_pass _ _ _ _).mp ran
  obtain ⟨builder, loaded, rfl⟩ := (lift_build _ _ _ _).mp lifted
  obtain ⟨last, lifted, rfl⟩ := (lift_pass _ _ _ _).mp done
  obtain ⟨_, returned, rfl⟩ := (lift_build _ _ _ _).mp lifted
  obtain ⟨again, other, same, rfl, rfl⟩ :=
    BuildM.run_define (BuildM.run_requireAddress_bind loaded)
  obtain ⟨rfl, rfl⟩ := place.unique same
  have placed := @Builder.At.define _ _ _ place
    (.load again.temps.issued (Value.temp slot (.address ty)) (.object ty)) rfl
  obtain ⟨_, _, same, rfl⟩ := BuildM.run_append returned
  obtain ⟨rfl, rfl⟩ := placed.unique same
  exact ⟨_, _, Builder.function?_put_self _ _ _ placed.present, placed.block?_extendBlock _⟩

/-- A body that starts with room for the receiver is lowered to a block that constructs it. -/
theorem emitBody_constructs (below : (naming frame.toJob).VisitsAll nested)
    (found : frame.program.decl frame.owner = .ok decl) (listed : decl.routine? = some routine)
    (constructs : routine.isConstructor = true) (given : routine.body = some body)
    (own : routine.self = some self) {owner : DeclId} {borrowed : Ty}
    (housed : frame.program.HoldsLocal owner self borrowed)
    (unbound : ¬frame.program.Brings (· ∈ Stmt.localsAll body.stmts) self)
    (ready : (naming frame.toJob).Ready before) {function : Function} {block : Block}
    (place : before.pass.builder.At function block)
    (begun : block.instructions = [.allocStack slot ty])
    (bound : before.locals.get? self = some (Value.temp slot (.address ty)))
    (done : frame.emitBody nested routine before = .ok () after) :
    ∃ final last, after.pass.builder.module.function? function.name = some final ∧
      final.block? block.label = some last ∧ last.Constructs ty := by
  have owned := routine_eq_ok found listed
  obtain ⟨flow, between, ran, done⟩ := run_emitBody given done
  have left := Policy.Flows.emitStmts below owned body.stmts
    (fun _ inside => Program.occurs_body found listed given inside) before ready flow between ran
  obtain ⟨ready, steady⟩ : (naming frame.toJob).Ready between ∧ before.pass.Steady between.pass := by
    simpa [Policy.Left, constructs] using left
  -- The statements go on in the block that they found, however they return.
  obtain ⟨later, longer, there⟩ := ready.working.opened
  obtain ⟨same_name, same_label⟩ := Cursor.mk.inj
    (Option.some.inj ((place.cursor.symm.trans steady.cursor.symm).trans there.cursor))
  obtain ⟨again, present, grown⟩ := steady.grows.module.functions _ _ place.present
  obtain rfl := Option.some.inj ((same_name ▸ there.present).symm.trans present)
  obtain ⟨kept, inside, _, longer_still, _⟩ := grown.blocks _ _ place.inside
  obtain rfl := Option.some.inj ((same_label ▸ there.inside).symm.trans inside)
  obtain ⟨middle, begins⟩ := longer_still
  have ended := (ready.working.formed.of_function? there.present).ended longer
    (Function.mem_of_block? there.inside)
  have continues := ended.continues there.pending
  rw [← begins, begun] at continues
  obtain ⟨again, owned_again, done⟩ := (run_ask_bind _ _ _ _ _).mp done
  obtain rfl := Except.ok.inj (owned.symm.trans owned_again)
  simp only [constructs, if_true] at done
  obtain ⟨loaded, final, found_final, stands⟩ := run_emitConstructorEnd there own
    (emitStmts_local housed unbound bound ran) done
  refine ⟨final, _, same_name ▸ found_final, same_label ▸ stands, slot, loaded, middle, ?_, ?_⟩
  · simp [Block.add, ← begins, begun]
  · exact fun instruction inside => continues instruction (List.mem_cons_of_mem _ inside)

end Frame

namespace Job

variable {job : Job} {nested : DeclId → PassM Unit} {id : DeclId} {decl : Decl}
  {routine : Routine} {body : Body} {name : String} {signature : Signature}
  {before after : Pass} {self : DeclId} {result : Ty}

/-- A constructor makes room for its receiver. -/
theorem run_bindReceiver_constructor (free : routine.isMember = false)
    (own : routine.self = some self) {args others : List Value} {locals : Locals}
    (done : job.bindReceiver name routine args before = .ok (locals, others) after) :
    ∃ decl location builder, job.program.find? self = some decl ∧
      BuildM.allocStack (decl.ty.base.contextualized routine.env) before.builder =
        .ok location builder ∧ after = { before with builder := builder } ∧
      locals = Table.empty.insert self location := by
  rcases bindReceiver_cases done with ⟨bare, _⟩ | ⟨_, _, _, member, _⟩ |
    ⟨_, decl, location, builder, given, _, _, found, placed, rfl, _, rfl⟩
  · cases bare.symm.trans own
  · cases free.symm.trans member
  · obtain rfl := Option.some.inj (given.symm.trans own)
    exact ⟨decl, location, builder, found, placed, rfl, rfl⟩

/-- What takes no argument stays bound to what it was. -/
theorem bindArguments_other (ids : List DeclId) {args : List Value} {locals bound : Locals}
    (done : job.bindArguments name locals ids args = .ok bound) (other : self ∉ ids) :
    bound.get? self = locals.get? self := by
  induction ids generalizing locals args with
  | nil =>
    obtain rfl := bindArguments_nil.mp done
    rfl
  | cons first rest rest_ih =>
    obtain ⟨arg, others, rfl, done⟩ := bindArguments_cons.mp done
    obtain ⟨apart, later⟩ := not_or.mp (List.mem_cons.not.mp other)
    rw [rest_ih done later, Table.get?_insert_of_ne _ _ _ _ apart]

/-- The shape of a first block that constructs a value of the type. -/
def constructing (target : DeclId) (ty : Ty) : Aim where
  target := target
  shape _ block := block.Constructs ty
  admits _ := True
  earlier _ _ := trivial

/-- The block of a constructor makes room for its receiver, and returns what is there. -/
theorem fill_constructs (below : (naming job).VisitsAll nested)
    (found : job.program.decl id = .ok decl) (listed : decl.routine? = some routine)
    (constructs : routine.isConstructor = true) (free : routine.isMember = false)
    (given : routine.body = some body)
    (makes : job.program.MakesReceiver id decl.ty routine self result)
    (unbound : ¬job.program.Brings (· ∈ Stmt.localsAll body.stmts) self)
    (formed : before.builder.module.WellFormed) (holds : (naming job).Holds before)
    {function : Function} (present : before.builder.module.function? name = some function)
    (done : job.fill nested id routine name signature before = .ok () after) :
    ∃ final block, after.builder.module.function? name = some final ∧
      final.block? function.labels.issued = some block ∧
      block.Constructs (result.contextualized routine.env) := by
  obtain ⟨old, middle, third, locals, rest, captures, bound, last, found_old, _, _, place, received,
    captured, arguments, ready, _, ran, rfl⟩ := run_fill formed holds done
  obtain rfl := Option.some.inj (present.symm.trans found_old)
  obtain ⟨own, location, builder, known, allocated, rfl, rfl⟩ :=
    run_bindReceiver_constructor free makes.given received
  obtain ⟨again, known_again, isLocal, inside, typed⟩ := makes.borrows
  obtain rfl := Option.some.inj (known_again.symm.trans known)
  have same : again.ty.base = result := by
    rw [typed]
    rfl
  rw [same] at allocated
  obtain ⟨_, _, there, rfl, rfl⟩ := BuildM.run_define allocated
  obtain ⟨rfl, rfl⟩ := place.unique there
  have taken : self ∉ captures ++ routine.params := by
    intro listed_self
    rcases List.mem_append.mp listed_self with outer | formal
    · exact (Program.captured_of_mem captured outer).not_inside known (Program.decl_eq_ok.mp found)
        listed inside
    · exact makes.apart formal
  have known_self := bindArguments_other _ arguments taken
  rw [Table.get?_insert_self] at known_self
  obtain ⟨final, block, found_final, stands, constructed⟩ :=
    @Frame.emitBody_constructs ⟨job, id⟩ nested decl routine body _ _ self _ _ below found listed
      constructs given makes.given id _ ⟨again, known, isLocal, inside, typed⟩ unbound ready _ _
      (@Builder.At.define _ _ _ place (.allocStack _ _) rfl) rfl known_self ran
  have named := Module.name_of_function? present
  exact ⟨final, block, named ▸ found_final, stands, constructed⟩

end Job

/-- The mark of thunks stands in the name of every thunk. -/
theorem Program.IsThunk.marked {program : Program} {name : String}
    (thunk : program.IsThunk name) : '$' ∈ name.toList := by
  obtain ⟨_, _, function, path, _, _, rfl⟩ := thunk
  simp [toString]

/-- Only a thunk is filled more than once, so what does not look like one has a single block. -/
theorem Job.sole_block {program : Program} {options : Options} {root id : DeclId} {pass : Pass}
    {name : String} {function : Function} {block : Block}
    (ran : Job.emitModule ⟨program, options⟩ root (Pass.start options) = .ok () pass)
    (assigned : pass.names.assigned.get? id = some name)
    (unmarked : ∀ path, program.qualifiedName id = .ok path → '$' ∉ path.toList)
    (present : pass.builder.module.function? name = some function)
    (inside : block ∈ function.blocks) : function.blocks = [block] := by
  obtain ⟨_, named, _⟩ := Policy.Visits.emitModule root (Pass.start options)
    (Module.wellFormed_empty options.moduleName) (naming_start program options) () pass ran
  obtain ⟨path, uses, qualified, rfl⟩ := named id name assigned
  have accounted := accounted_of_run ran
  have unused : NamesM.numbered path uses ∉ [] ++ pass.builder.module.thunks := fun used =>
    NamesM.unmarked_use (unmarked path qualified) uses (accounted.named _ used).marked
  have blocks := accounted.blocks (NamesM.numbered path uses)
  rw [List.count_eq_zero.mpr unused, Module.height_of_function? present] at blocks
  have bounded : function.blocks.length ≤ 1 := by
    rcases blocks with none | ⟨one, _⟩
    · omega
    · omega
  have many := List.length_pos_of_mem inside
  obtain ⟨only, listed⟩ := List.length_eq_one_iff.mp (Nat.le_antisymm bounded many)
  rw [listed, List.mem_singleton] at inside
  rw [listed, inside]

/--
A constructor with a body is lowered to one block, which makes room for the receiver and ends by
returning what is there. Nothing else ends the block, whatever the body returns and wherever. The
path of the constructor does not look like that of a thunk, and its body does not introduce its
receiver again.
-/
theorem lower_constructs {program : Program} (assembled : program.Assembled) {root id : DeclId}
    {options : Options} {lowered : Lowered} (done : lower program root options = .ok lowered)
    (lowers : program.Lowers root id) {decl : Decl} (found : program.find? id = some decl)
    {routine : Routine} (listed : decl.routine? = some routine)
    (constructs : routine.isConstructor = true) {body : Body} (given : routine.body = some body)
    (unmarked : ∀ path, program.qualifiedName id = .ok path → '$' ∉ path.toList)
    (unbound : ∀ own, routine.self = some own →
      ¬program.Brings (· ∈ Stmt.localsAll body.stmts) own) :
    ∃ pass name function block types result,
      Job.emitModule ⟨program, options⟩ root (Pass.start options) = .ok () pass ∧
      pass.builder.module = lowered.module ∧ pass.names.assigned.get? id = some name ∧
      lowered.module.function? name = some function ∧ function.blocks = [block] ∧
      decl.ty = .function types result ∧ block.Constructs (result.contextualized routine.env) := by
  obtain ⟨receiver, result, makes⟩ := assembled.receiving id decl routine found listed constructs
  obtain ⟨types, typed⟩ := makes.returns
  have free := (assembled.routed id decl found routine listed).2 constructs
  have ordinary : routine.isBuiltin = false := by
    simp only [Routine.isConstructor, Routine.isBuiltin, beq_iff_eq] at constructs ⊢
    rw [constructs]
    rfl
  obtain ⟨pass, ran, same, _⟩ := run_lower done
  have start := naming_start program options
  have empty := Module.wellFormed_empty options.moduleName
  let job : Job := ⟨program, options⟩
  let aim := Job.constructing id (result.contextualized routine.env)
  have known : job.program.decl id = .ok decl := Program.decl_eq_ok.mpr found
  have fills (levels : Nat) (before : Pass) :
      aim.Delivers job (job.emitRoutine (job.emitWithin levels) id) before := by
    refine Job.Aim.delivers_of_fill (Policy.Visits.emitWithin levels) known listed given ordinary
      ?_ before
    intro name function middle last formed holds present _ filled _
    exact Job.fill_constructs (Policy.Visits.emitWithin levels) known listed constructs free given
      makes (unbound receiver makes.given) formed holds present filled
  have delivers := Job.Aim.emitModule_delivers known listed ordinary fills lowers
    (Pass.start options)
  obtain ⟨name, ⟨assigned, function, block, present, first, constructed⟩, _⟩ :=
    delivers empty start () pass ran trivial
  have single := Job.sole_block ran assigned unmarked present (Function.mem_of_block? first)
  exact ⟨pass, _, function, block, types, result, ran, same, assigned, same ▸ present, single,
    typed, constructed⟩

open Assembly in
/--
A constructor whose receiver is captured by a function inside it. It returns a value, and then
nothing, from blocks of different depth, and one of its expressions cannot be lowered.
-/
def returning : Assembly Unit := do
  let main ← addModule "main"
  let point ← addProduct main "Point"
  let x ← addStoredProperty point "x" .int
  let constructor_ ← addConstructor point [⟨none, "a", .int⟩]
  let inner ← addFunction constructor_ "read" [] .int
  let self ← ask (·.refExpr ⟨constructor_.index + 1⟩ Span.unknown)
  let self_x ← ask (·.memberExpr self x Span.unknown)
  setBody inner ⟨[.returned (some self_x) Span.unknown], Span.unknown⟩
  let failing := Expr.ofAssign (.int ⟨.int, Span.unknown⟩ 1) self_x Span.unknown
  let deep := Stmt.block [.returned (some self_x) Span.unknown, .expr self_x] Span.unknown
  setBody constructor_
    ⟨[.decl inner, .expr failing, .block [deep] Span.unknown, .returned none Span.unknown],
      Span.unknown⟩

open Assembly in
theorem returning_assembled : returning.built.Assembled := by
  refine Preserves.built ?_
  refine .bind (Offered.addModule _).assembles fun main => ?_
  refine .bind (Offered.addProduct _ _).assembles fun point => ?_
  refine .bind (Offered.addStoredProperty _ _ _).assembles fun x => ?_
  refine .bind (Offered.addConstructor _ _).assembles fun constructor_ => ?_
  refine .bind (Offered.addFunction _ _ _ _).assembles fun inner => ?_
  refine .bind (.ask _) fun self => ?_
  refine .bind (.ask _) fun self_x => ?_
  refine .bind (Offered.setBody _ _).assembles fun _ => ?_
  exact (Offered.setBody _ _).assembles

theorem lower_constructs_returning :
    returning.built.Assembled ∧ returning.built.Lowers ⟨0⟩ ⟨4⟩ ∧
      ∃ lowered decl routine body, lower returning.built ⟨0⟩ Options.standard = .ok lowered ∧
        returning.built.find? ⟨4⟩ = some decl ∧ decl.routine? = some routine ∧
        routine.isConstructor = true ∧ routine.body = some body ∧
        (∀ path, returning.built.qualifiedName ⟨4⟩ = .ok path → '$' ∉ path.toList) ∧
        (∀ own, routine.self = some own →
          ¬returning.built.Brings (· ∈ Stmt.localsAll body.stmts) own) ∧
        ∃ pass name function block types result,
          Job.emitModule ⟨returning.built, Options.standard⟩ ⟨0⟩ (Pass.start Options.standard) =
            .ok () pass ∧
          pass.builder.module = lowered.module ∧ pass.names.assigned.get? ⟨4⟩ = some name ∧
          lowered.module.function? name = some function ∧ function.blocks = [block] ∧
          decl.ty = .function types result ∧
          block.Constructs (result.contextualized routine.env) := by
  have lowers : (lower returning.built ⟨0⟩ Options.standard).toOption.map
      (·.report.containsError) = some true := by
    decide +kernel
  have seen : (returning.built.find? ⟨4⟩).bind (fun decl => decl.routine?.bind fun routine =>
      routine.body.map fun body => (routine.isConstructor, Stmt.localsAll body.stmts)) =
        some (true, [⟨7⟩]) := by
    decide +kernel
  have introduces : (returning.built.find? ⟨7⟩).map Decl.introduced = some [] := by decide +kernel
  have reached : returning.built.Lowers ⟨0⟩ ⟨4⟩ :=
    have type : (⟨1⟩ : DeclId) ∈ returning.built.nested ⟨0⟩ := by decide +kernel
    have member : (⟨4⟩ : DeclId) ∈ returning.built.nested ⟨1⟩ := by decide +kernel
    .step type (.step member (.refl _))
  obtain ⟨lowered, done, _⟩ := ok_of_map lowers
  obtain ⟨decl, found, seen⟩ := Option.bind_eq_some_iff.mp seen
  obtain ⟨routine, listed, seen⟩ := Option.bind_eq_some_iff.mp seen
  obtain ⟨body, given, seen⟩ := Option.map_eq_some_iff.mp seen
  obtain ⟨constructs, locals⟩ := Prod.mk.inj seen
  have unmarked : ∀ path, returning.built.qualifiedName ⟨4⟩ = .ok path → '$' ∉ path.toList := by
    have qualified : returning.built.qualifiedName ⟨4⟩ = .ok "Point.init" := by decide +kernel
    rintro path given
    obtain rfl := Except.ok.inj (qualified.symm.trans given)
    decide
  have unbound : ∀ own, routine.self = some own →
      ¬returning.built.Brings (· ∈ Stmt.localsAll body.stmts) own := by
    rintro own - ⟨place, outer, inside, standing, brought⟩
    simp only [locals, List.mem_singleton] at inside
    subst inside
    rw [standing, Option.map_some, Option.some.injEq] at introduces
    rw [introduces] at brought
    cases brought
  exact ⟨returning_assembled, reached, lowered, decl, routine, body, done, found, listed,
    constructs, given, unmarked, unbound,
    lower_constructs returning_assembled done reached found listed constructs given unmarked unbound⟩

open Assembly in
/-- A constructor that goes by the name of the thunk from a requirement to its implementation. -/
def clashing : Assembly Unit := do
  let main ← addModule "main"
  let outer ← addProduct main "P"
  let conforming ← addProduct main "P"
  let view ← addView main "V"
  let named ← addProduct outer "get$witness$V"
  let ty ← ask (·.declaredType named)
  let requirement ← addMethod view "init" [] ty false
  let implementation ← addMethod conforming "get" [] ty false
  let existential ← ask (·.declaredType view)
  let constructor_ ← addConstructor named [⟨none, "v", existential⟩]
  setBody constructor_ ⟨[], Span.unknown⟩
  addConformance conforming view [⟨requirement, implementation⟩]

open Assembly in
theorem clashing_assembled : clashing.built.Assembled := by
  refine Preserves.built ?_
  refine .bind (Offered.addModule _).assembles fun main => ?_
  refine .bind (Offered.addProduct _ _).assembles fun outer => ?_
  refine .bind (Offered.addProduct _ _).assembles fun conforming => ?_
  refine .bind (Offered.addView _ _).assembles fun view => ?_
  refine .bind (Offered.addProduct _ _).assembles fun named => ?_
  refine .bind (.ask _) fun ty => ?_
  refine .bind (Offered.addMethod _ _ _ _ _).assembles fun requirement => ?_
  refine .bind (Offered.addMethod _ _ _ _ _).assembles fun implementation => ?_
  refine .bind (.ask _) fun existential => ?_
  refine .bind (Offered.addConstructor _ _).assembles fun constructor_ => ?_
  refine .bind (Offered.setBody _ _).assembles fun _ => ?_
  exact (Offered.addConformance _ _ _).assembles

/-- The function of the constructor is filled again as a thunk, and has another terminator. -/
theorem clashing_ends_twice :
    clashing.built.Assembled ∧ clashing.built.Lowers ⟨0⟩ ⟨9⟩ ∧
      ∃ lowered, lower clashing.built ⟨0⟩ Options.standard = .ok lowered ∧
        lowered.report.containsError = false ∧
        (∃ decl routine body, clashing.built.find? ⟨9⟩ = some decl ∧
          decl.routine? = some routine ∧ routine.isConstructor = true ∧
          routine.body = some body ∧ body.stmts = []) ∧
        ∃ pass function,
          Job.emitModule ⟨clashing.built, Options.standard⟩ ⟨0⟩ (Pass.start Options.standard) =
            .ok () pass ∧
          pass.builder.module = lowered.module ∧
          pass.names.assigned.get? ⟨9⟩ = some "P.get$witness$V.init" ∧
          lowered.module.function? "P.get$witness$V.init" = some function ∧
          (function.blocks.flatMap Block.instructions).countP Instruction.isTerminator = 2 := by
  have reached : clashing.built.Lowers ⟨0⟩ ⟨9⟩ :=
    have outer : (⟨1⟩ : DeclId) ∈ clashing.built.nested ⟨0⟩ := by decide +kernel
    have type : (⟨4⟩ : DeclId) ∈ clashing.built.nested ⟨1⟩ := by decide +kernel
    have member : (⟨9⟩ : DeclId) ∈ clashing.built.nested ⟨4⟩ := by decide +kernel
    .step outer (.step type (.step member (.refl _)))
  have lowers : (lower clashing.built ⟨0⟩ Options.standard).toOption.map (fun lowered =>
      (lowered.report.containsError, (lowered.module.function? "P.get$witness$V.init").map
        fun function =>
          (function.blocks.flatMap Block.instructions).countP Instruction.isTerminator)) =
        some (false, some 2) := by
    decide +kernel
  have seen : (clashing.built.find? ⟨9⟩).bind (fun decl => decl.routine?.bind fun routine =>
      routine.body.map fun body => (routine.isConstructor, body.stmts.length)) =
        some (true, 0) := by
    decide +kernel
  let named : PassM (Option String) := do
    Job.emitModule ⟨clashing.built, Options.standard⟩ ⟨0⟩
    return (← get).names.assigned.get? ⟨9⟩
  have assigns : named.run' (Pass.start Options.standard) = some (some "P.get$witness$V.init") := by
    decide +kernel
  obtain ⟨lowered, done, seen_lowered⟩ := ok_of_map lowers
  obtain ⟨clean, counted⟩ := Prod.mk.inj seen_lowered
  obtain ⟨function, present, terminators⟩ := Option.map_eq_some_iff.mp counted
  obtain ⟨decl, found, seen⟩ := Option.bind_eq_some_iff.mp seen
  obtain ⟨routine, listed, seen⟩ := Option.bind_eq_some_iff.mp seen
  obtain ⟨body, given, seen⟩ := Option.map_eq_some_iff.mp seen
  obtain ⟨constructs, length⟩ := Prod.mk.inj seen
  obtain ⟨pass, ran, same, _⟩ := run_lower done
  have assigned : pass.names.assigned.get? ⟨9⟩ = some "P.get$witness$V.init" := by
    have finds : named (Pass.start Options.standard) = .ok (pass.names.assigned.get? ⟨9⟩) pass :=
      (run_bind _ _ _ _ _).mpr ⟨(), pass, ran, rfl⟩
    exact Option.some.inj ((run'_of_ok finds).symm.trans assigns)
  exact ⟨clashing_assembled, reached, lowered, done, clean,
    ⟨decl, routine, body, found, listed, constructs, given, List.length_eq_zero_iff.mp length⟩,
    pass, function, ran, same, assigned, present, terminators⟩

end Lowering
