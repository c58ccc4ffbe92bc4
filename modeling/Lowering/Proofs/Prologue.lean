import Lowering.Proofs.Formation
import Lowering.Proofs.Pass.Opening
import Lowering.Proofs.Program.Capturing
import Lowering.Proofs.Program.Succession
import Lowering.Proofs.Typing.Entry

/-
This file shows what a function has at hand when its body starts: its signature, the parameters of
its first block and the declarations that are bound to them go together one by one.
-/

namespace Lowering

open IR

namespace Routine

variable (routine : Routine) (captures : List DeclId)

/-- A member is passed its receiver. -/
def receivers : List DeclId := if routine.isMember then routine.self.toList else []

/-- What takes an argument: the receiver of a member, the captures, and the formal parameters. -/
def takers : List DeclId := routine.receivers ++ (captures ++ routine.params)

/-- What is bound when the body starts. A constructor has a receiver that takes no argument. -/
def bound : List DeclId := routine.self.toList ++ (captures ++ routine.params)

end Routine

namespace Program

variable (program : Program) (env : GenericEnv)

/-- The type of a declaration as an argument, as the generic environment has it. -/
def operand? (id : DeclId) : Option OperandType :=
  (program.find? id).map fun decl => OperandType.lower (decl.ty.contextualized env)

/-- A capture is passed as an object of the type of its declaration, without inout. -/
def captured? (id : DeclId) : Option OperandType :=
  (program.find? id).map fun decl => OperandType.object (decl.ty.base.contextualized env)

end Program

namespace Job

/-- The function is declared under this name, and there is something to fill it with. -/
structure Starts (job : Job) (id : DeclId) (routine : Routine) (before middle : Pass)
    (name : String) (function : Function) : Prop where
  filled : routine.isFilled = true
  declares : ∃ reference, job.declare id before = .ok reference middle
  assigned : middle.names.assigned.get? id = some name
  present : middle.builder.module.function? name = some function
  empty : function.isDeclaration = true

/--
The declarations are bound to the parameters of the block, one by one. A constructor makes room for
its receiver, and nothing else is bound.
-/
structure Binds (program : Program) (routine : Routine) (takers bound : List DeclId)
    (entry : Block) (locals : Locals) : Prop where
  arguments : ∀ id arg, (id, arg) ∈ takers.zip entry.paramValues → locals.get? id = some arg
  constructs : routine.isConstructor = true → ∃ self own slot, routine.self = some self ∧
    program.find? self = some own ∧
    entry.instructions = [.allocStack slot (own.ty.base.contextualized routine.env)] ∧
    slot ∉ entry.params.map Prod.fst ∧
    locals.get? self = some (Value.temp slot (.address (own.ty.base.contextualized routine.env)))
  idle : routine.isConstructor = false → entry.instructions = []
  only : ∀ id value, locals.get? id = some value → id ∈ bound

/--
What a function has at hand when its body starts: no argument is missing or left over, and no
declaration is bound twice.
-/
structure Prologue (program : Program) (routine : Routine) (captures : List DeclId) (entry : Block)
    (locals : Locals) : Prop extends
    Binds program routine (routine.takers captures) (routine.bound captures) entry locals where
  distinct : (routine.bound captures).Nodup
  exhausted : entry.params.length = (routine.takers captures).length

end Job

/-- The pass writes to the only block of the function, which was opened as a block like this. -/
structure Pass.Begins (pass : Pass) (name : String) (signature : Signature) (opened : Block)
    (function : Function) (entry : Block) : Prop where
  place : pass.builder.At function entry
  name : function.name = name
  signature : function.signature = signature
  alone : function.blocks = [entry]
  label : entry.label = opened.label
  params : entry.params = opened.params

namespace Job

section Signature

theorem map_eq_map {A B C : Type} {view : A → C} {seen : B → C} {items : List A} {values : List B}
    (all : List.Forall₂ (fun item value => seen value = view item) items values) :
    values.map seen = items.map view := by
  induction all with
  | nil => rfl
  | cons same _ rest_ih => rw [List.map_cons, List.map_cons, same, rest_ih]

variable {job : Job} {id : DeclId} {decl : Decl} {routine : Routine} {signature : Signature}

/-- The parameters of a signature are those of the declarations that take the arguments. -/
theorem signature_takes (functions : job.program.Signed) (found : job.program.find? id = some decl)
    (listed : decl.routine? = some routine) (written : routine.isBuiltin = false)
    (signed : job.signature id = .ok signature) :
    ∃ captures, job.program.captures id = .ok captures ∧ signature.params.map some =
      routine.receivers.map (job.program.operand? routine.env) ++
        (captures.map (job.program.captured? routine.env) ++
          routine.params.map (job.program.operand? routine.env)) := by
  obtain ⟨types, result, captures, receivers, captured, typed, known, received, passes, takes, _⟩ :=
    signature_seen functions found listed signed
  obtain ⟨formals, yields, same, declares, _⟩ := functions id decl routine found listed
  obtain ⟨rfl, rfl⟩ := (Ty.function.injEq _ _ _ _).mp (typed.symm.trans same)
  have receiver : receivers.map (some ∘ routine.env.operand) =
      routine.receivers.map (job.program.operand? routine.env) := by
    rw [Routine.receivers]
    cases member : routine.isMember with
    | false =>
      rw [List.map_eq_nil_iff.mp (received.eq_nil (by simp [member]))]
      rfl
    | true =>
      obtain ⟨self, own, given, there, single⟩ := received.of_isMember member
      obtain ⟨ty, rfl, lowered⟩ := List.map_eq_singleton_iff.mp single
      obtain rfl : ty = own.ty := by
        rw [← OperandType.toSource_lower ty, lowered, OperandType.toSource_lower]
      simp [given, Program.operand?, there, GenericEnv.operand]
  have outer : captured.map some = captures.map (job.program.captured? routine.env) := by
    refine map_eq_map (passes.imp fun capture type passed => ?_)
    obtain ⟨own, there, rfl⟩ := passed
    rw [Program.captured?, there, Option.map_some]
  have formal : types.map (some ∘ routine.env.operand) =
      routine.params.map (job.program.operand? routine.env) := by
    refine map_eq_map ((declares written).imp fun param type held => ?_)
    obtain ⟨own, there, rfl⟩ := held
    rw [Program.operand?, there, Option.map_some]
    rfl
  refine ⟨captures, known, ?_⟩
  rw [takes, List.map_append, List.map_append, List.map_map, List.map_map,
    receiver, outer, formal]

end Signature

section Entry

variable {job : Job} {id : DeclId} {decl : Decl} {routine : Routine} {name : String}

/-- As many arguments as declarations are bound, each to its own. -/
theorem bindArguments_eq_ok (job : Job) (name : String) (ids : List DeclId) {args : List Value}
    (locals : Locals) (distinct : ids.Nodup) (count : ids.length = args.length) :
    ∃ bound, job.bindArguments name locals ids args = .ok bound ∧
      (∀ id arg, (id, arg) ∈ ids.zip args → bound.get? id = some arg) ∧
      ∀ id, id ∉ ids → bound.get? id = locals.get? id := by
  induction ids generalizing args locals with
  | nil => exact ⟨locals, rfl, by simp, fun _ _ => rfl⟩
  | cons first rest rest_ih =>
    cases args with
    | nil => cases count
    | cons arg args =>
      obtain ⟨new, distinct⟩ := List.nodup_cons.mp distinct
      obtain ⟨bound, done, given, others⟩ :=
        rest_ih (locals.insert first arg) distinct (Nat.succ.inj count)
      refine ⟨bound, done, fun id other listed => ?_, fun id apart => ?_⟩
      · rw [List.zip_cons_cons] at listed
        rcases List.mem_cons.mp listed with same | later
        · obtain ⟨rfl, rfl⟩ := Prod.mk.inj same
          rw [others id new, Table.get?_insert_self]
        · exact given id other later
      · obtain ⟨differ, apart⟩ := not_or.mp (List.mem_cons.not.mp apart)
        rw [others id apart, Table.get?_insert_of_ne _ _ _ _ differ]

/-- A receiver is found in the first argument. -/
theorem binds_member {self : DeclId} (own : routine.self = some self)
    (member : routine.isMember = true) (ordinary : routine.isConstructor = false)
    {entry : Block} {receiver : Value} {rest : List Value}
    (takes : entry.paramValues = receiver :: rest) (idle : entry.instructions = []) :
    Binds job.program routine routine.receivers routine.self.toList entry
      (Table.empty.insert self receiver) where
  arguments id arg listed := by
    rw [Routine.receivers, member, own, takes] at listed
    obtain ⟨rfl, rfl⟩ : id = self ∧ arg = receiver := by simpa using listed
    exact Table.get?_insert_self ..
  constructs constructs := by
    rw [ordinary] at constructs
    cases constructs
  idle _ := idle
  only id value given := by
    by_contra apart
    rw [Table.get?_insert_of_ne _ _ _ _ (by simpa [own] using apart), Table.get?_empty] at given
    cases given

/-- The receiver of a constructor is found at a new place. -/
theorem binds_constructor {self : DeclId} {own : Decl} {slot : TempId}
    (given : routine.self = some self) (member : routine.isMember = false)
    (constructs : routine.isConstructor = true) (found : job.program.find? self = some own)
    {entry : Block}
    (room : entry.instructions = [.allocStack slot (own.ty.base.contextualized routine.env)])
    (fresh : slot ∉ entry.params.map Prod.fst) :
    Binds job.program routine routine.receivers routine.self.toList entry (Table.empty.insert self
      (Value.temp slot (.address (own.ty.base.contextualized routine.env)))) where
  arguments id arg listed := by
    rw [Routine.receivers, member] at listed
    cases listed
  constructs _ := ⟨self, own, slot, given, found, room, fresh, Table.get?_insert_self ..⟩
  idle ordinary := by
    rw [constructs] at ordinary
    cases ordinary
  only id value bound := by
    by_contra apart
    rw [Table.get?_insert_of_ne _ _ _ _ (by simpa [given] using apart), Table.get?_empty] at bound
    cases bound

theorem binds_none (member : routine.isMember = false)
    (ordinary : routine.isConstructor = false) {entry : Block} (idle : entry.instructions = []) :
    Binds job.program routine routine.receivers routine.self.toList entry Table.empty where
  arguments id arg listed := by
    rw [Routine.receivers, member] at listed
    cases listed
  constructs constructs := by
    rw [ordinary] at constructs
    cases constructs
  idle _ := idle
  only id value given := by
    rw [Table.get?_empty] at given
    cases given

/-- The receiver is bound, and the arguments after it are left. -/
theorem bindReceiver_eq_ok (job : Job) {before : Pass} {signature : Signature}
    {opened : Block} {function : Function} {entry : Block}
    (received : routine.self.isSome = (routine.isMember || routine.isConstructor))
    (free : routine.isConstructor = true → routine.isMember = false)
    (known : ∀ self ∈ routine.self, ∃ own, job.program.find? self = some own)
    (enough : routine.receivers.length ≤ opened.params.length)
    (begins : before.Begins name signature opened function entry) (idle : entry.instructions = [])
    (fresh : function.temps.issued ∉ opened.params.map Prod.fst) :
    ∃ locals after final last, job.bindReceiver name routine entry.paramValues before =
        .ok (locals, last.paramValues.drop routine.receivers.length) after ∧
      after.Begins name signature opened final last ∧
      Binds job.program routine routine.receivers routine.self.toList last locals := by
  rcases routine.self.eq_none_or_eq_some with bare | ⟨self, own⟩
  · rw [bare] at received
    obtain ⟨member, ordinary⟩ := Bool.or_eq_false_iff.mp received.symm
    refine ⟨Table.empty, before, function, entry, ?_, begins,
      binds_none member ordinary idle⟩
    simp only [bindReceiver, bare, Routine.receivers, member]
    rfl
  · obtain ⟨decl, found⟩ := known self own
    rw [own] at received
    rcases Bool.eq_false_or_eq_true routine.isMember with member | member
    · have ordinary : routine.isConstructor = false := by
        by_contra constructs
        exact absurd (free (by simpa using constructs)) (by simp [member])
      -- There is a parameter for the receiver.
      obtain ⟨receiver, rest, takes⟩ : ∃ receiver rest, entry.paramValues = receiver :: rest := by
        refine List.exists_cons_of_length_pos ?_
        rw [Block.paramValues, List.length_map, begins.params]
        rw [Routine.receivers, member, own] at enough
        exact enough
      refine ⟨_, before, function, entry, ?_, begins, binds_member own member ordinary takes idle⟩
      simp only [bindReceiver, own, Routine.receivers, member, takes]
      rfl
    · have constructs : routine.isConstructor = true := by simpa [member] using received
      let ty := decl.ty.base.contextualized routine.env
      let room := Instruction.allocStack function.temps.issued ty
      have defined : BuildM.allocStack ty before.builder = .ok _ _ :=
        begins.place.define_eq (.address ty) fun slot => .allocStack slot ty
      let final := function.takeTemp.2.extendBlock entry.label room
      refine ⟨_, { before with builder := before.builder.put final }, final, entry.add room, ?_,
        ⟨begins.place.define rfl, begins.name, begins.signature, ?_, begins.label, begins.params⟩,
        binds_constructor own member constructs found ?_ (begins.params ▸ fresh)⟩
      · simp only [bindReceiver, own, Routine.receivers, member, constructs, Bool.false_eq_true,
          if_false, if_true]
        refine (run_check_bind _ _ _ _ _).mpr
          ⟨decl, (lift_answer _ _).mpr (Program.decl_eq_ok.mpr found), ?_⟩
        exact (run_bind _ _ _ _ _).mpr ⟨_, _, (lift_build _ _ _ _).mpr ⟨_, defined, rfl⟩, rfl⟩
      · simp [final, Function.extendBlock, Function.modifyBlock, Function.takeTemp, begins.alone,
          modifyFirst]
      · rw [Block.add, idle]
        rfl

/-- A function without blocks gets its first one, and the pass goes on there. -/
theorem begins_createBlock {before : Pass} {function : Function}
    (present : before.builder.module.function? name = some function)
    (empty : function.isDeclaration = true) (params : List OperandType) :
    ({ before with builder := before.builder.put (function.addBlock params).2 }.withCursor
      (some ⟨name, (function.addBlock params).1.label⟩)).Begins name function.signature
        (function.addBlock params).1 (function.addBlock params).2
        (function.addBlock params).1 := by
  have named := Module.name_of_function? present
  have alone : (function.addBlock params).2.blocks = [(function.addBlock params).1] := by
    rw [Function.addBlock, List.isEmpty_iff.mp empty]
    rfl
  refine ⟨⟨?_, ?_, ?_, rfl⟩, named, rfl, alone, rfl, rfl⟩
  · show some _ = some (Cursor.mk (function.addBlock params).2.name _)
    rw [Function.name_addBlock, named]
  · exact Builder.function?_put_self _ function _ (by rw [Function.name_addBlock, named, present])
  · rw [Function.block?, alone]
    simp

/-- What is bound after the receiver leaves the receiver bound. -/
theorem prologue_of_binds {captures : List DeclId} {entry : Block} {start locals : Locals}
    (distinct : (routine.bound captures).Nodup)
    (exhausted : entry.params.length = (routine.takers captures).length)
    (binds : Binds job.program routine routine.receivers routine.self.toList entry start)
    (given : ∀ id arg, (id, arg) ∈ (captures ++ routine.params).zip
      (entry.paramValues.drop routine.receivers.length) → locals.get? id = some arg)
    (others : ∀ id, id ∉ captures ++ routine.params → locals.get? id = start.get? id) :
    Prologue job.program routine captures entry locals := by
  obtain ⟨_, _, apart⟩ := List.nodup_append.mp distinct
  have kept (self : DeclId) (listed : self ∈ routine.self.toList) :
      locals.get? self = start.get? self :=
    others self fun inside => apart self listed self inside rfl
  -- The first arguments go to the receiver, and the others to what comes after it.
  have split (ids : List DeclId) : (routine.receivers ++ ids).zip entry.paramValues =
      routine.receivers.zip (entry.paramValues.take routine.receivers.length) ++
        ids.zip (entry.paramValues.drop routine.receivers.length) := by
    have first : routine.receivers.length =
        (entry.paramValues.take routine.receivers.length).length := by
      rw [List.length_take, Block.paramValues, List.length_map, exhausted, Routine.takers,
        List.length_append]
      omega
    rw [← List.zip_append first, List.take_append_drop]
  refine ⟨⟨fun id arg listed => ?_, fun constructs => ?_, binds.idle, fun id value bound => ?_⟩,
    distinct, exhausted⟩
  · rw [Routine.takers, split] at listed
    rcases List.mem_append.mp listed with first | later
    · have own : id ∈ routine.self.toList := by
        have taken := (List.of_mem_zip first).1
        rw [Routine.receivers] at taken
        split at taken
        · exact taken
        · cases taken
      have whole := split []
      rw [List.append_nil, List.zip_nil_left, List.append_nil] at whole
      rw [kept id own]
      exact binds.arguments id arg (whole ▸ first)
    · exact given id arg later
  · obtain ⟨self, own, slot, same, found, room, fresh, bound⟩ := binds.constructs constructs
    exact ⟨self, own, slot, same, found, room, fresh, (kept self (by simp [same])).trans bound⟩
  · rw [Routine.bound]
    by_cases inside : id ∈ captures ++ routine.params
    · exact List.mem_append_right _ inside
    · exact List.mem_append_left _ (binds.only id value (others id inside ▸ bound))

/-- A function is entered with all that it takes bound. -/
theorem enter_eq_ok (job : Job) {before : Pass} {function : Function} {captures : List DeclId}
    (present : before.builder.module.function? name = some function)
    (empty : function.isDeclaration = true)
    (received : routine.self.isSome = (routine.isMember || routine.isConstructor))
    (free : routine.isConstructor = true → routine.isMember = false)
    (known : ∀ self ∈ routine.self, ∃ own, job.program.find? self = some own)
    (captured : job.program.captures id = .ok captures)
    (distinct : (routine.bound captures).Nodup)
    (count : function.signature.params.length = (routine.takers captures).length) :
    ∃ locals entered final entry,
      job.enter id routine name function.signature before = .ok locals entered ∧
      entered.Begins name function.signature (function.addBlock function.signature.params).1
        final entry ∧
      entry.params.map Prod.snd = function.signature.params ∧
      Prologue job.program routine captures entry locals := by
  let block := (function.addBlock function.signature.params).1
  have types : block.params.map Prod.snd = function.signature.params :=
    List.map_snd_zip (by simp)
  have length : block.params.length = (routine.takers captures).length := by
    rw [← count, ← types, List.length_map]
  have begins := begins_createBlock present empty function.signature.params
  have fresh : (function.addBlock function.signature.params).2.temps.issued ∉
      block.params.map Prod.fst := by
    have names : block.params.map Prod.fst =
        List.range' function.temps.issued function.signature.params.length :=
      List.map_fst_zip (by simp)
    rw [names, List.mem_range'_1]
    exact fun inside => Nat.lt_irrefl _ inside.2
  have enough : routine.receivers.length ≤ block.params.length := by
    rw [length, Routine.takers, List.length_append]
    exact Nat.le_add_right ..
  obtain ⟨start, entered, final, entry, receives, begins, binds⟩ :=
    job.bindReceiver_eq_ok received free known enough begins rfl fresh
  have taken : (captures ++ routine.params).length =
      (entry.paramValues.drop routine.receivers.length).length := by
    rw [List.length_drop, Block.paramValues, List.length_map, begins.params, length,
      Routine.takers, ← List.length_drop, List.drop_left]
  obtain ⟨locals, bound, given, others⟩ := job.bindArguments_eq_ok name
    (captures ++ routine.params) start (List.nodup_append.mp distinct).2.1 taken
  refine ⟨locals, entered, final, entry, ?_, begins, begins.params ▸ types,
    prologue_of_binds distinct (by rw [begins.params, length]) binds given others⟩
  have created := BuildM.createBlock_eq present function.signature.params
  refine (run_bind _ _ _ _ _).mpr ⟨_, _, (lift_build _ _ _ _).mpr ⟨_, created, rfl⟩, ?_⟩
  refine (run_bind _ _ _ _ _).mpr
    ⟨(), _, (lift_build _ _ _ _).mpr ⟨_, (BuildM.run_setCursor _ _ _ _).mpr rfl, rfl⟩, ?_⟩
  refine (run_bind _ _ _ _ _).mpr ⟨_, entered, receives, ?_⟩
  refine (run_check_bind _ _ _ _ _).mpr ⟨captures, (lift_answer _ _).mpr captured, ?_⟩
  exact (lift_check _ _ _ _).mpr ⟨bound, rfl⟩

/-- The captures of a function are different from each other, and from what is declared in it. -/
theorem nodup_bound {program : Program} {captures : List DeclId} (formed : program.Formed)
    (assembled : program.Assembled) (found : program.find? id = some decl)
    (listed : decl.routine? = some routine) (ordinary : routine.isBuiltin = false)
    (captured : program.captures id = .ok captures) : (routine.bound captures).Nodup := by
  have inside (local_ : DeclId) (taken : local_ ∈ routine.self.toList ++ routine.params) :
      ∃ own, program.find? local_ = some own ∧ own.parent = some id := by
    rcases List.mem_append.mp taken with receiver | param
    · obtain ⟨_, own, found_own, _, parent, _⟩ :=
        ((formed id decl found).routine routine listed ordinary).housed local_
          (Option.mem_toList.mp receiver)
      exact ⟨own, found_own, parent⟩
    · refine assembled.gathers id decl found local_ (List.mem_append_right _ ?_)
      rwa [listed]
  refine (List.perm_append_comm_assoc ..).nodup_iff.mp (List.nodup_append.mpr ⟨?_, ?_, ?_⟩)
  · exact Program.nodup_captures captured
  · exact (assembled.successive id decl found).distinct listed
  · rintro target taken _ local_ rfl
    obtain ⟨own, present, parent⟩ := inside target local_
    exact (Program.captured_of_mem captured taken).not_inside present found listed parent

/-- In a program that was assembled, a function is entered with all that it takes bound. -/
theorem enter_prologue {before : Pass} {function : Function} (formed : job.program.Formed)
    (assembled : job.program.Assembled) (found : job.program.find? id = some decl)
    (listed : decl.routine? = some routine) (filled : routine.isFilled = true)
    (present : before.builder.module.function? name = some function)
    (empty : function.isDeclaration = true) (signed : job.signature id = .ok function.signature) :
    ∃ captures locals entered final entry, job.program.captures id = .ok captures ∧
      function.signature.params.map some =
        routine.receivers.map (job.program.operand? routine.env) ++
          (captures.map (job.program.captured? routine.env) ++
            routine.params.map (job.program.operand? routine.env)) ∧
      job.enter id routine name function.signature before = .ok locals entered ∧
      entered.Begins name function.signature (function.addBlock function.signature.params).1
        final entry ∧
      entry.params.map Prod.snd = function.signature.params ∧
      Prologue job.program routine captures entry locals := by
  have ordinary := Routine.ordinary_of_isFilled filled
  have forms := (formed id decl found).routine routine listed ordinary
  have known (self : DeclId) (own : self ∈ routine.self) :
      ∃ held, job.program.find? self = some held := by
    obtain ⟨_, held, there, _⟩ := forms.housed self own
    exact ⟨held, there⟩
  obtain ⟨captures, captured, takes⟩ :=
    signature_takes assembled.signed found listed ordinary signed
  have count : function.signature.params.length = (routine.takers captures).length := by
    have lengths := congrArg List.length takes
    simpa [Routine.takers] using lengths
  obtain ⟨locals, entered, final, entry, enters, begins, types, prologue⟩ :=
    job.enter_eq_ok present empty forms.received
      (assembled.routed id decl found routine listed).2 known captured
      (nodup_bound formed assembled found listed ordinary captured) count
  exact ⟨captures, locals, entered, final, entry, captured, takes, enters, begins, types, prologue⟩

/-- A function that is filled has its body lowered from where it was entered. -/
theorem Starts.emitRoutine_eq {before middle entered : Pass} {function : Function}
    {locals : Locals} (starts : job.Starts id routine before middle name function)
    (found : job.program.find? id = some decl) (listed : decl.routine? = some routine)
    (enters : job.enter id routine name function.signature middle = .ok locals entered)
    (nested : DeclId → PassM Unit) :
    job.emitRoutine nested id before = PassM.restoring
      (fun _ => PassM.activate locals (Frame.emitBody ⟨job, id⟩ nested routine) entered)
        middle := by
  obtain ⟨reference, declares⟩ := starts.declares
  have ordinary := Routine.ordinary_of_isFilled starts.filled
  have bodied : (routine.body.isNone && !routine.isSynthesized) = false := by
    have filled := starts.filled
    cases body : routine.body <;> simp_all [Routine.isFilled]
  have fills : job.fill nested id routine name function.signature middle =
      PassM.activate locals (Frame.emitBody ⟨job, id⟩ nested routine) entered := by
    rw [fill_eq_enter]
    exact bind_of_ok enters
  have read : (liftM (job.program.decl id) : PassM Decl) before = .ok decl before :=
    (lift_check _ _ _ _).mpr ⟨(lift_answer _ _).mpr (Program.decl_eq_ok.mpr found), rfl⟩
  have declared : (discard (job.declare id)) before = .ok () middle :=
    (run_map _ _ _ _ _).mpr ⟨reference, declares, rfl⟩
  have named : (liftM (NamesM.functionName job.program id) : PassM String) middle =
      .ok name middle :=
    (lift_names _ _ _ _).mpr ⟨_, NamesM.functionName_of_assigned starts.assigned, rfl⟩
  refine (bind_of_ok read).trans ?_
  simp only [listed, ordinary, bodied, Bool.false_eq_true, if_false]
  refine (bind_of_ok declared).trans ((bind_of_ok named).trans ?_)
  refine (bind_of_ok ((run_get _ _ _).mpr ⟨rfl, rfl⟩)).trans ?_
  simp only [starts.present, starts.empty, Bool.not_true, Bool.false_eq_true, if_false]
  unfold PassM.restoring
  rw [fills]

/-- Whatever is lowered with something to fill it has been started. -/
theorem starts_of_run {before after : Pass} {nested : DeclId → PassM Unit}
    (found : job.program.find? id = some decl) (listed : decl.routine? = some routine)
    (filled : routine.isFilled = true)
    (done : job.emitRoutine nested id before = .ok () after) :
    ∃ middle name function, job.Starts id routine before middle name function := by
  obtain ⟨again, own, asked, holds, rest⟩ := run_emitRoutine_cases done
  obtain rfl := Option.some.inj (found.symm.trans (Program.decl_eq_ok.mp asked))
  obtain rfl := Option.some.inj (listed.symm.trans holds)
  rcases rest with ⟨builtin, _⟩ | ⟨_, reference, middle, name, function, declares, assigned,
    present, ⟨bare, _⟩ | ⟨_, empty, _⟩⟩
  · simp [Routine.isFilled, builtin] at filled
  · exact absurd filled (by simp [bare])
  · exact ⟨middle, name, function, filled, ⟨reference, declares⟩, assigned, present, empty⟩

end Entry

end Job

open Assembly in
/--
Whatever a program is assembled of, and in whatever generic environments: a function that is about
to be filled has a parameter for its receiver, if it is a member, then one for each capture, and
then one for each formal parameter, with their types as the function sees them. Its first block has
the same parameters, and its body starts there with each declaration bound to the argument that it
takes, and with nothing else bound but the place that a constructor makes for its receiver.
-/
theorem prologue_binds_arguments {calls : List Call} {job : Job} {id : DeclId} {decl : Decl}
    {routine : Routine} {before middle : Pass} {name : String} {function : Function}
    (made : Call.makeAll calls Program.empty = some job.program)
    (found : job.program.find? id = some decl) (listed : decl.routine? = some routine)
    (starts : job.Starts id routine before middle name function) :
    ∃ captures locals entered final entry,
      job.signature id = .ok function.signature ∧ job.program.captures id = .ok captures ∧
      function.signature.params.map some =
        routine.receivers.map (job.program.operand? routine.env) ++
          (captures.map (job.program.captured? routine.env) ++
            routine.params.map (job.program.operand? routine.env)) ∧
      entry.params.map Prod.snd = function.signature.params ∧
      entered.Begins name function.signature (function.addBlock function.signature.params).1
        final entry ∧
      Job.Prologue job.program routine captures entry locals ∧
      ∀ nested, job.emitRoutine nested id before = PassM.restoring
        (fun _ => PassM.activate locals (Frame.emitBody ⟨job, id⟩ nested routine) entered)
          middle := by
  obtain ⟨reference, declares⟩ := starts.declares
  obtain ⟨known, signature, declared, assigned, signed, _, present, typed⟩ :=
    Job.run_declare declares
  obtain rfl := Option.some.inj (starts.assigned.symm.trans assigned)
  obtain rfl := Option.some.inj (starts.present.symm.trans present)
  subst typed
  obtain ⟨captures, locals, entered, final, entry, captured, takes, enters, begins, types,
    prologue⟩ := Job.enter_prologue (Call.makeAll_formed calls Program.formed_empty made)
      (Call.makeAll_assembled calls .empty made) found listed starts.filled present starts.empty
      signed
  exact ⟨captures, locals, entered, final, entry, signed, captured, takes, types, begins,
    prologue, starts.emitRoutine_eq found listed enters⟩

/-- A type inside a function has a method that refers to a parameter of the function. -/
def capturingCalls : List Assembly.Call := [
  .addModule "main", .addFunction ⟨0⟩ "outer" [⟨none, "n", .int⟩] .unit,
  .addProduct ⟨1⟩ "Counter", .addMethod ⟨3⟩ "add" [⟨none, "by", .int⟩] .unit true,
  .setBody ⟨4⟩ ⟨[.expr (.ref ⟨.int, Span.unknown⟩ ⟨2⟩)], Span.unknown⟩]

def capturingJob : Job := ⟨Assembly.Call.made capturingCalls, Options.standard⟩

open Assembly in
/-- The method takes its receiver, then the capture, and then its parameter. -/
theorem prologue_binds_arguments_capturing :
    Call.makeAll capturingCalls Program.empty = some capturingJob.program ∧
      ∃ (decl : Decl) (routine : Routine) (before middle : Pass) (name : String)
        (function : Function), capturingJob.program.find? ⟨4⟩ = some decl ∧
      decl.routine? = some routine ∧
      capturingJob.Starts ⟨4⟩ routine before middle name function ∧
      routine.takers [⟨2⟩] = [⟨5⟩, ⟨2⟩, ⟨6⟩] ∧
      function.signature.params.map some =
        routine.receivers.map (capturingJob.program.operand? routine.env) ++
          ([⟨2⟩].map (capturingJob.program.captured? routine.env) ++
            routine.params.map (capturingJob.program.operand? routine.env)) ∧
      ∃ locals entered final entry,
        entry.params.map Prod.snd = function.signature.params ∧
        entered.Begins name function.signature (function.addBlock function.signature.params).1
          final entry ∧
        Job.Prologue capturingJob.program routine [⟨2⟩] entry locals ∧
        ∀ nested, capturingJob.emitRoutine nested ⟨4⟩ before = PassM.restoring
          (fun _ => PassM.activate locals
            (Frame.emitBody ⟨capturingJob, ⟨4⟩⟩ nested routine) entered) middle := by
  have made : Call.makeAll capturingCalls Program.empty = some capturingJob.program :=
    Call.makeAll_eq_made (by decide +kernel)
  have seen : ((capturingJob.program.find? ⟨4⟩).bind Decl.routine?).map (fun routine =>
      (routine.isFilled, routine.takers [⟨2⟩])) = some (true, [⟨5⟩, ⟨2⟩, ⟨6⟩]) := by
    decide +kernel
  have around : (capturingJob.program.captures ⟨4⟩).toOption = some [⟨2⟩] := by decide +kernel
  have ran : ((capturingJob.emitRoutine capturingJob.emitDecl ⟨4⟩).run'
      (Pass.start Options.standard)).isSome = true := by
    decide +kernel
  obtain ⟨routine, routed, seen⟩ := Option.map_eq_some_iff.mp seen
  obtain ⟨decl, found, listed⟩ := Option.bind_eq_some_iff.mp routed
  obtain ⟨filled, takers⟩ := Prod.mk.inj seen
  obtain ⟨_, after, done⟩ := ok_of_run' ran
  obtain ⟨middle, name, function, starts⟩ := Job.starts_of_run found listed filled done
  obtain ⟨captures, locals, entered, final, entry, _, captured, takes, rest⟩ :=
    prologue_binds_arguments made found listed starts
  rw [captured] at around
  obtain rfl := Option.some.inj around
  exact ⟨made, decl, routine, _, middle, name, function, found, listed, starts, takers, takes,
    locals, entered, final, entry, rest⟩

end Lowering
