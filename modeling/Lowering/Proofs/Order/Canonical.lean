import Lowering.Proofs.IR.Growth
import Lowering.Proofs.Pass.Opening
import Lowering.Proofs.Program.Reordering

/-
This file follows the names and the signatures in a module where no two functions have one path. A
function goes by its qualified name then, whenever it is first named.
-/

namespace Lowering

open IR

/-- Paths of plain segments are told apart by their names. -/
theorem intercalate_inj {first second : List String} (plain : ∀ segment ∈ first, PlainName segment)
    (clear : ∀ segment ∈ second, PlainName segment) (some : first ≠ []) (any : second ≠ [])
    (same : ".".intercalate first = ".".intercalate second) : first = second := by
  -- A segment alone has no separator in it, and a longer path has one.
  have alone {segment head next : String} {rest : List String} (plain : PlainName segment)
      (same : segment = ".".intercalate (head :: next :: rest)) : False := by
    rw [String.intercalate_cons_cons] at same
    refine plain.undotted ?_
    rw [same]
    simp
  induction first generalizing second with
  | nil => exact (some rfl).elim
  | cons head rest rest_ih =>
    have front := plain head (List.mem_cons_self ..)
    cases second with
    | nil => exact (any rfl).elim
    | cons other others =>
      have back := clear other (List.mem_cons_self ..)
      cases rest with
      | nil =>
        cases others with
        | nil => simpa using same
        | cons => exact (alone front (by simpa using same)).elim
      | cons next rest =>
        cases others with
        | nil => exact (alone back (by simpa using same.symm)).elim
        | cons again others =>
          rw [String.intercalate_cons_cons, String.intercalate_cons_cons] at same
          have texts : head.toList ++ '.' :: (".".intercalate (next :: rest)).toList =
              other.toList ++ '.' :: (".".intercalate (again :: others)).toList := by
            simpa using congrArg String.toList same
          obtain ⟨heads, tails⟩ := first_mark_inj front.undotted back.undotted texts
          rw [String.toList_injective heads,
            rest_ih (fun segment inside => plain segment (List.mem_cons_of_mem _ inside))
              (fun segment inside => clear segment (List.mem_cons_of_mem _ inside))
              (by simp) (by simp) (String.toList_injective tails)]

namespace Program

variable {program other : Program}

/-- A function is declared here. -/
def IsRoutine (program : Program) (id : DeclId) : Prop :=
  ∃ decl, program.find? id = some decl ∧ decl.routine?.isSome = true

/-- No two functions have one qualified path. -/
def Unambiguous (program : Program) : Prop :=
  ∀ entry ∈ program.entries, ∀ other ∈ program.entries, entry.2.routine?.isSome = true →
    other.2.routine?.isSome = true → ∀ path ∈ (program.qualifiedPath entry.1).toOption,
      (program.qualifiedPath other.1).toOption = some path → entry.1 = other.1

instance : Decidable program.Unambiguous := by
  unfold Unambiguous
  infer_instance

/-- A function has at least its own name in its path. -/
theorem IsRoutine.path_ne_nil {id : DeclId} (routine : program.IsRoutine id) {path : List String}
    (given : program.qualifiedPath id = .ok path) : path ≠ [] := by
  obtain ⟨decl, found, listed⟩ := routine
  unfold qualifiedPath walkLimit pathFrom at given
  obtain ⟨again, known, given⟩ := (check_bind _ _ _).mp given
  obtain rfl := Option.some.inj (found.symm.trans (decl_eq_ok.mp known))
  split at given
  next members kind => simp [Decl.routine?, kind, DeclKind.routine?] at listed
  next =>
    obtain ⟨name, _, given⟩ := (check_bind _ _ _).mp given
    obtain ⟨outer, _, given⟩ := (check_bind _ _ _).mp given
    obtain rfl := Except.ok.inj given
    simp

/-- A qualified name is that of one function. -/
theorem Unambiguous.eq (unambiguous : program.Unambiguous) (plain : program.PlainNames)
    {id again : DeclId} {name : String} (routine : program.IsRoutine id)
    (function : program.IsRoutine again) (named : program.qualifiedName id = .ok name)
    (called : program.qualifiedName again = .ok name) : id = again := by
  obtain ⟨path, walked, joined⟩ := (check_bind _ _ _).mp named
  obtain ⟨trail, reached, same⟩ := (check_bind _ _ _).mp called
  have paths : path = trail := by
    refine intercalate_inj (plain.pathFrom walked) (plain.pathFrom reached)
      (routine.path_ne_nil walked) (function.path_ne_nil reached) ?_
    exact Except.ok.inj (joined.trans same.symm)
  subst paths
  obtain ⟨decl, found, listed⟩ := routine
  obtain ⟨peer, present, given⟩ := function
  exact unambiguous _ (mem_entries found) _ (mem_entries present) listed given path
    (by simp [walked, Except.toOption]) (by simp [reached, Except.toOption])

end Program

/-- The names given are those of functions, and each is the qualified name of its function. -/
structure Names.Canonical (program : Program) (names : Names) : Prop where
  named : ∀ id name, names.assigned.get? id = some name →
    program.IsRoutine id ∧ program.qualifiedName id = .ok name
  used : ∀ path, (names.uses.get? path).getD 0 ≠ 0 → ∃ id, names.assigned.get? id = some path

namespace Names.Canonical

variable {program : Program} {names : Names}

theorem empty (program : Program) : Names.empty.Canonical program where
  named _ _ assigned := by simp [Names.empty, Table.get?_empty] at assigned
  used _ uses := by simp [Names.empty, Table.get?_empty] at uses

/-- A function is given its qualified name, whatever was named before. -/
theorem functionName (canonical : names.Canonical program) (plain : program.PlainNames)
    (unambiguous : program.Unambiguous) {id : DeclId} {name : String}
    (routine : program.IsRoutine id) (qualifies : program.qualifiedName id = .ok name) :
    ∃ after : Names, NamesM.functionName program id names = .ok name after ∧
      after.Canonical program ∧ after.assigned.get? id = some name := by
  cases assigned : names.assigned.get? id with
  | some given =>
    obtain rfl : name = given :=
      Except.ok.inj (qualifies.symm.trans (canonical.named id given assigned).2)
    exact ⟨names, NamesM.functionName_of_assigned assigned, canonical, assigned⟩
  | none =>
    have unused : (names.uses.get? name).getD 0 = 0 := by
      by_contra used
      obtain ⟨other, taken⟩ := canonical.used name used
      obtain ⟨function, called⟩ := canonical.named other name taken
      obtain rfl := unambiguous.eq plain routine function qualifies called
      rw [assigned] at taken
      cases taken
    refine ⟨names.give id name, ?_, ⟨fun other given assigned => ?_, fun path used => ?_⟩, ?_⟩
    · rw [NamesM.functionName_eq, assigned]
      dsimp only
      rw [qualifies]
      dsimp only
      rw [unused]
      rfl
    · rcases assigned_give assigned with old | ⟨rfl, rfl⟩
      · exact canonical.named other given old
      · rw [unused]
        exact ⟨routine, qualifies⟩
    · by_cases here : path = name
      · subst here
        exact ⟨id, by simp [give, unused, NamesM.numbered]⟩
      · rw [give, Table.get?_insert_of_ne _ _ _ _ here] at used
        obtain ⟨other, taken⟩ := canonical.used path used
        exact ⟨other, extends_give assigned name other path taken⟩
    · simp [give, unused, NamesM.numbered]

/-- The name that a function gets is its qualified name. -/
theorem qualifiedName (canonical : names.Canonical program) (plain : program.PlainNames)
    (unambiguous : program.Unambiguous) {id : DeclId} {name : String} {after : Names}
    (routine : program.IsRoutine id)
    (given : NamesM.functionName program id names = .ok name after) :
    program.qualifiedName id = .ok name ∧ after.Canonical program ∧
      after.assigned.get? id = some name := by
  obtain ⟨path, qualifies⟩ : ∃ path, program.qualifiedName id = .ok path := by
    rw [NamesM.functionName_eq] at given
    split at given
    next known assigned => exact ⟨known, (canonical.named id known assigned).2⟩
    next =>
      split at given
      next path qualifies => exact ⟨path, qualifies⟩
      next => cases given
  obtain ⟨last, same, kept, assigned⟩ :=
    canonical.functionName plain unambiguous routine qualifies
  obtain ⟨rfl, rfl⟩ := EStateM.Result.ok.inj (given.symm.trans same)
  exact ⟨qualifies, kept, assigned⟩

end Names.Canonical

/-- The thunk of this name forwards from a requirement to its implementation. -/
structure Program.Forwards (program : Program) (entry : ConformanceEntry) (name : String) :
    Prop where
  implementing : program.IsRoutine entry.implementation
  requiring : program.IsRoutine entry.requirement
  named : ∃ own path, program.qualifiedName entry.implementation = .ok own ∧
    program.qualifiedName entry.requirement = .ok path ∧ name = s!"{own}$witness${path}"

namespace Program.Forwards

variable {program : Program} {entry other : ConformanceEntry} {name : String}

theorem marked (forwards : program.Forwards entry name) : '$' ∈ name.toList := by
  obtain ⟨own, path, _, _, rfl⟩ := forwards.named
  simp [toString]

/-- The name of a thunk tells what it forwards. -/
theorem unique (plain : program.PlainNames) (unambiguous : program.Unambiguous)
    (forwards : program.Forwards entry name) (again : program.Forwards other name) :
    entry = other := by
  obtain ⟨own, path, qualifies, required, rfl⟩ := forwards.named
  obtain ⟨_, _, called, requires, same⟩ := again.named
  obtain ⟨rfl, rfl⟩ := NamesM.thunk_inj (plain.qualifiedName qualifies).unmarked
    (plain.qualifiedName called).unmarked same
  have implementation :=
    unambiguous.eq plain forwards.implementing again.implementing qualifies called
  have requirement := unambiguous.eq plain forwards.requiring again.requiring required requires
  cases entry
  cases other
  exact congr (congrArg _ requirement) implementation

end Program.Forwards

namespace Names.Canonical

variable {program : Program} {names : Names} {entry : ConformanceEntry} {name : String}
  (canonical : names.Canonical program) (plain : program.PlainNames)
  (unambiguous : program.Unambiguous)

include canonical plain unambiguous

/-- A thunk is named for the functions at both ends, whatever was named before. -/
theorem thunkName (forwards : program.Forwards entry name) :
    ∃ after : Names, NamesM.thunkName program entry.implementation entry.requirement names =
      .ok name after ∧ after.Canonical program := by
  obtain ⟨own, path, qualifies, required, rfl⟩ := forwards.named
  obtain ⟨after, given, kept, _⟩ :=
    canonical.functionName plain unambiguous forwards.implementing qualifies
  refine ⟨after, (run_bind _ _ _ _ _).mpr ⟨own, after, given, ?_⟩, kept⟩
  unfold NamesM.qualified
  rw [required]
  rfl

theorem forwards (implementing : program.IsRoutine entry.implementation)
    (requiring : program.IsRoutine entry.requirement) {after : Names}
    (given : NamesM.thunkName program entry.implementation entry.requirement names =
      .ok name after) : program.Forwards entry name ∧ after.Canonical program := by
  obtain ⟨own, path, named, required, rfl⟩ := NamesM.run_thunkName given
  obtain ⟨qualifies, kept, _⟩ := canonical.qualifiedName plain unambiguous implementing named
  exact ⟨⟨implementing, requiring, own, path, qualifies, required, rfl⟩, kept⟩

end Names.Canonical

/-- The signature that a name stands for. -/
inductive Job.Signs (job : Job) (name : String) (signature : Signature) : Prop where
  | routine (id : DeclId) (function : job.program.IsRoutine id)
      (named : job.program.qualifiedName id = .ok name)
      (signed : job.signature id = .ok signature)
  | thunk (entry : ConformanceEntry) (unapplied : FunType)
      (forwards : job.program.Forwards entry name)
      (typed : job.program.unappliedType entry.requirement = .ok unapplied)
      (signed : signature = .lower unapplied)

/-- There is one signature for a name. -/
theorem Job.Signs.unique {job : Job} {name : String} {signature other : Signature}
    (plain : job.program.PlainNames) (unambiguous : job.program.Unambiguous)
    (first : job.Signs name signature) (second : job.Signs name other) : signature = other := by
  cases first with
  | routine id function named signed =>
    cases second with
    | routine again routine called given =>
      obtain rfl := unambiguous.eq plain function routine named called
      exact Except.ok.inj (signed.symm.trans given)
    | thunk entry unapplied forwards typed _ =>
      exact ((plain.qualifiedName named).unmarked forwards.marked).elim
  | thunk entry unapplied forwards typed signed =>
    cases second with
    | routine id _ named _ => exact ((plain.qualifiedName named).unmarked forwards.marked).elim
    | thunk again taken forwarding given same =>
      obtain rfl := forwards.unique plain unambiguous forwarding
      rw [signed, same, Except.ok.inj (typed.symm.trans given)]

/-- Only functions have signatures. -/
theorem Job.isRoutine_of_signature {job : Job} {id : DeclId} {signature : Signature}
    (signed : job.signature id = .ok signature) : job.program.IsRoutine id := by
  obtain ⟨decl, found, signed⟩ := (check_bind _ _ _).mp signed
  have found := Program.decl_eq_ok.mp ((lift_answer _ _).mp found)
  cases listed : decl.routine? with
  | none =>
    rw [listed] at signed
    cases signed
  | some routine => exact ⟨decl, found, by simp [listed]⟩

/-- The blocks of the function are numbered in order. -/
def IR.Function.Labelled (function : Function) : Prop :=
  function.blocks.map Block.label = List.range function.labels.issued

/-- The same function, up to the temporaries it has taken. -/
structure IR.Function.Copies (function copy : Function) : Prop where
  name : copy.name = function.name
  signature : copy.signature = function.signature
  blocks : copy.blocks = function.blocks
  labels : copy.labels = function.labels

namespace IR.Function

theorem Copies.refl (function : Function) : function.Copies function := ⟨rfl, rfl, rfl, rfl⟩

theorem Copies.takeTemp (function : Function) : function.Copies function.takeTemp.2 :=
  ⟨rfl, rfl, rfl, rfl⟩

theorem Copies.inside {function copy : Function} (copies : function.Copies copy) {label : LabelId}
    {block : Block} (inside : function.block? label = some block) :
    copy.block? label = some block := by
  rw [block?, copies.blocks]
  exact inside

/-- The next block has a label of its own. -/
theorem Labelled.block?_next {function : Function} (labelled : function.Labelled) :
    function.block? function.labels.issued = none := by
  rw [block?, List.find?_eq_none]
  intro block inside
  have listed : block.label ∈ function.blocks.map Block.label := List.mem_map_of_mem inside
  rw [labelled, List.mem_range] at listed
  simpa using Nat.ne_of_lt listed

theorem Labelled.extendBlock {function : Function} (labelled : function.Labelled) (label : LabelId)
    (instruction : Instruction) : (function.extendBlock label instruction).Labelled :=
  (map_modifyFirst Block.label _ (Block.add · instruction) (fun _ => rfl) _).trans labelled

theorem Labelled.addBlock {function : Function} (labelled : function.Labelled)
    (params : List OperandType) : (function.addBlock params).2.Labelled := by
  unfold Labelled at labelled ⊢
  simp [Function.addBlock, Counter.next, labelled, List.range_succ]

end IR.Function

/-- A function has the signature of its name, and without blocks it is as it was declared. -/
structure Job.Describes (job : Job) (name : String) (function : Function) : Prop where
  signed : job.Signs name function.signature
  bare : function.blocks = [] → function = Function.declared name function.signature
  labelled : function.Labelled

namespace Job.Describes

variable {job : Job} {name : String} {function : Function}

theorem declared {signature : Signature} (signs : job.Signs name signature) :
    job.Describes name (Function.declared name signature) :=
  ⟨signs, fun _ => rfl, rfl⟩

theorem extendBlock (describes : job.Describes name function) {copy : Function}
    (copies : function.Copies copy) {label : LabelId} {block : Block}
    (inside : function.block? label = some block) (instruction : Instruction) :
    job.Describes name (copy.extendBlock label instruction) where
  signed := by
    rw [Function.extendBlock, Function.modifyBlock, copies.signature]
    exact describes.signed
  bare empty := (Function.extendBlock_ne_nil (copies.inside inside) instruction empty).elim
  labelled := by
    refine Function.Labelled.extendBlock ?_ label instruction
    rw [Function.Labelled, copies.blocks, copies.labels]
    exact describes.labelled

theorem addBlock (describes : job.Describes name function) (params : List OperandType) :
    job.Describes name (function.addBlock params).2 :=
  ⟨describes.signed, fun empty => by simp [Function.addBlock] at empty,
    describes.labelled.addBlock params⟩

end Job.Describes

/-- Names and functions are what the program says. -/
structure Job.Orderly (job : Job) (names : Names) (module : Module) : Prop where
  names : names.Canonical job.program
  functions : ∀ name function, module.function? name = some function → job.Describes name function

namespace Job.Orderly

variable {job : Job} {names : Names} {module : Module}

theorem empty (job : Job) (name : String) : job.Orderly Names.empty (Module.empty name) :=
  ⟨.empty _, fun _ _ found => by simp [Module.empty, Module.function?] at found⟩

/-- A function is written as its name says. -/
theorem put {builder : Builder} (orderly : job.Orderly names builder.module)
    (function : Function) {old : Function}
    (found : builder.module.function? function.name = some old)
    (describes : job.Describes function.name function) :
    job.Orderly names (builder.put function).module := by
  refine ⟨orderly.names, fun name other present => ?_⟩
  by_cases same : name = function.name
  · subst same
    rw [Builder.function?_put_self function old builder found] at present
    exact Option.some.inj present ▸ describes
  · rw [Builder.function?_put_of_ne function builder name same] at present
    exact orderly.functions name other present

/-- A function is declared with the signature that its name stands for. -/
theorem addFunction (orderly : job.Orderly names module) {name : String} {signature : Signature}
    (signs : job.Signs name signature) :
    job.Orderly names (module.addFunction (Function.declared name signature)) := by
  refine ⟨orderly.names, fun other function found => ?_⟩
  unfold Module.function? Module.addFunction at found
  rw [List.find?_append] at found
  cases old : module.functions.find? (·.name == other) with
  | some given =>
    rw [old] at found
    exact orderly.functions other function (old.trans found)
  | none =>
    rw [old, Option.none_or, List.find?_singleton] at found
    split at found
    next here =>
      have same : name = other := by simpa [Function.declared] using here
      exact Option.some.inj found ▸ same ▸ .declared signs
    next => cases found

/-- A function that is asked for with its signature is there, or is declared. -/
theorem getOrCreate {pass : Pass} (orderly : job.Orderly pass.names pass.builder.module)
    (plain : job.program.PlainNames) (unambiguous : job.program.Unambiguous) {name : String}
    {signature : Signature} (signs : job.Signs name signature) :
    ∃ builder, BuildM.getOrCreateFunction name signature pass.builder =
        .ok (Value.function name signature.funType) builder ∧
      job.Orderly pass.names builder.module := by
  cases ran : BuildM.getOrCreateFunction name signature pass.builder with
  | ok value builder =>
    obtain ⟨rfl, ⟨_, _, _, rfl⟩ | ⟨_, rfl⟩⟩ := BuildM.run_getOrCreateFunction ran
    · exact ⟨_, rfl, orderly⟩
    · exact ⟨_, rfl, orderly.addFunction signs⟩
  | error error builder =>
    obtain ⟨existing, found, differs, _⟩ := BuildM.run_getOrCreateFunction_error ran
    exact (differs ((orderly.functions name existing found).signed.unique plain unambiguous signs)).elim

/-- What it takes to declare a function does not depend on the run. -/
theorem declare {pass : Pass} (orderly : job.Orderly pass.names pass.builder.module)
    (plain : job.program.PlainNames) (unambiguous : job.program.Unambiguous) {id : DeclId}
    {name : String} {signature : Signature} (function : job.program.IsRoutine id)
    (named : job.program.qualifiedName id = .ok name) (signed : job.signature id = .ok signature) :
    ∃ names builder, job.declare id pass =
        .ok (Value.function name signature.funType) { pass with names := names, builder := builder } ∧
      BuildM.getOrCreateFunction name signature pass.builder =
        .ok (Value.function name signature.funType) builder ∧
      names.assigned.get? id = some name ∧ job.Orderly names builder.module := by
  obtain ⟨names, given, canonical, assigned⟩ :=
    orderly.names.functionName plain unambiguous function named
  obtain ⟨builder, created, kept⟩ :=
    orderly.getOrCreate plain unambiguous (.routine id function named signed)
  refine ⟨names, builder, ?_, created, assigned, canonical, kept.functions⟩
  refine (run_bind _ _ _ _ _).mpr ⟨name, _, (lift_names _ _ _ _).mpr ⟨names, given, rfl⟩, ?_⟩
  refine (run_check_bind _ _ _ _ _).mpr ⟨signature, signed, ?_⟩
  exact (lift_build _ _ _ _).mpr ⟨builder, created, rfl⟩

/-- A function that is declared has a name and a signature. -/
theorem run_declare {pass after : Pass} (orderly : job.Orderly pass.names pass.builder.module)
    (plain : job.program.PlainNames) (unambiguous : job.program.Unambiguous) {id : DeclId}
    {value : Value} (done : job.declare id pass = .ok value after) :
    ∃ name signature names builder, job.program.IsRoutine id ∧
      job.program.qualifiedName id = .ok name ∧ job.signature id = .ok signature ∧
      value = Value.function name signature.funType ∧
      after = { pass with names := names, builder := builder } ∧
      BuildM.getOrCreateFunction name signature pass.builder = .ok value builder ∧
      names.assigned.get? id = some name ∧ job.Orderly names builder.module := by
  obtain ⟨given, between, lifted, ran⟩ := (run_bind _ _ _ _ _).mp done
  obtain ⟨names, called, rfl⟩ := (lift_names _ _ _ _).mp lifted
  obtain ⟨signature, signed, _⟩ := (run_check_bind _ _ _ _ _).mp ran
  have function := isRoutine_of_signature signed
  obtain ⟨named, _⟩ := orderly.names.qualifiedName plain unambiguous function called
  obtain ⟨names, builder, declares, created, assigned, kept⟩ :=
    orderly.declare plain unambiguous function named signed
  obtain ⟨rfl, rfl⟩ := EStateM.Result.ok.inj (done.symm.trans declares)
  exact ⟨given, signature, names, builder, function, named, signed, rfl, rfl, created, assigned,
    kept⟩

end Job.Orderly

end Lowering
