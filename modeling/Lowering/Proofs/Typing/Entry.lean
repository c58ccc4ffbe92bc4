import Lowering.Proofs.Pass.Entering
import Lowering.Proofs.Pass.Opening
import Lowering.Proofs.Pass.Primitive
import Lowering.Proofs.Typing.Signature

/-
This file types the locals with which the body of a function starts: its receiver, its captures and
its parameters.
-/

namespace Lowering

open IR

theorem IR.OperandType.ty_lower (ty : Ty) : (OperandType.lower ty).ty = ty.base := by
  cases ty <;> rfl

namespace GenericEnv

variable {env : GenericEnv}

/-- Nothing borrowed is put in the place of a generic parameter. -/
def SubstitutesOwned (env : GenericEnv) : Prop :=
  ∀ entry ∈ env.substitutions, entry.2.base = entry.2

instance : Decidable env.SubstitutesOwned :=
  inferInstanceAs (Decidable (∀ entry ∈ env.substitutions, _))

theorem base_contextualized (owned : env.SubstitutesOwned) (ty : Ty) :
    (ty.contextualized env).base = ty.base.contextualized env := by
  cases ty with
  | genericParam nominal =>
    show (Ty.contextualized env _).base = Ty.contextualized env (.genericParam nominal)
    rw [Ty.contextualized]
    cases given : env.substitution? nominal.decl with
    | none => rfl
    | some ty =>
      obtain ⟨before, after, same, _⟩ := List.lookup_eq_some_iff.mp given
      exact owned (nominal.decl, ty) (by simp [same])
  | _ => rfl

theorem ty_operand (owned : env.SubstitutesOwned) (ty : Ty) :
    (env.operand ty).ty = ty.base.contextualized env := by
  rw [operand, OperandType.ty_lower, base_contextualized owned]

end GenericEnv

namespace Program

variable (program : Program) (env : GenericEnv)

/-- The declaration is there, and the environment has its type, without inout, as this. -/
def SeesType (id : DeclId) (ty : Ty) : Prop :=
  ∃ decl, program.find? id = some decl ∧ ty = decl.ty.base.contextualized env

/-- What is bound to a declaration is of its type as the environment has it. -/
def SeesValue (id : DeclId) (value : Value) : Prop :=
  (∃ decl, program.find? id = some decl ∧ decl.ty.isError = true ∧ value.isError = true) ∨
    value.isError = false ∧ program.SeesType env id value.type.ty

def SeesLocals (locals : Locals) : Prop :=
  ∀ id value, locals.get? id = some value → program.SeesValue env id value

variable {program env} {id : DeclId}

theorem PassesIn.seesType {type : OperandType} (passes : program.PassesIn env id type) :
    program.SeesType env id type.ty := by
  obtain ⟨decl, found, rfl⟩ := passes
  exact ⟨decl, found, rfl⟩

theorem Declares.seesType (owned : env.SubstitutesOwned) {ty : Ty}
    (declares : program.Declares id ty) : program.SeesType env id (env.operand ty).ty := by
  obtain ⟨decl, found, rfl⟩ := declares
  exact ⟨decl, found, GenericEnv.ty_operand owned decl.ty⟩

theorem seesLocals_empty : program.SeesLocals env Table.empty := by
  intro id value found
  simp [Table.get?_empty] at found

theorem SeesLocals.insert {locals : Locals} (sees : program.SeesLocals env locals) {value : Value}
    (seen : program.SeesValue env id value) : program.SeesLocals env (locals.insert id value) := by
  intro other kept found
  by_cases same : other = id
  · subst same
    obtain rfl : value = kept := by simpa using found
    exact seen
  · rw [Table.get?_insert_of_ne _ _ _ _ same] at found
    exact sees other kept found

/-- Without substitutions a type is seen as it is. -/
theorem SeesLocals.typesLocals {locals : Locals} (none : env.substitutions = [])
    (sees : program.SeesLocals env locals) : program.TypesLocals locals := by
  intro id value found
  rcases sees id value found with ⟨decl, found, _, error⟩ | ⟨_, decl, found, seen⟩
  · exact ⟨decl, found, Or.inl error⟩
  · exact ⟨decl, found, Or.inr (seen.trans (Ty.contextualized_eq_self none _))⟩

end Program

namespace Job

variable (job : Job)

/-- What comes before the body of a function: its first block, and the arguments bound to it. -/
def enter (id : DeclId) (routine : Routine) (name : String) (signature : Signature) :
    PassM Locals := do
  let (entry, args) ← BuildM.createBlock name signature.params
  BuildM.positionAtEnd name entry
  job.bindEntry id routine name args

theorem fill_eq_enter (nested : DeclId → PassM Unit) (id : DeclId) (routine : Routine)
    (name : String) (signature : Signature) :
    job.fill nested id routine name signature = (do
      let locals ← job.enter id routine name signature
      PassM.activate locals (Frame.emitBody ⟨job, id⟩ nested routine)) := by
  unfold fill enter
  simp only [bind_assoc]

variable {job : Job} {id : DeclId} {decl : Decl} {routine : Routine} {name : String}
  {signature : Signature} {before after : Pass}

/-- A function is entered at its first block, with its arguments bound. -/
theorem run_enter {locals : Locals}
    (done : job.enter id routine name signature before = .ok locals after) :
    ∃ label args builder bound others captures,
      BuildM.createBlock name signature.params before.builder = .ok (label, args) builder ∧
      job.bindReceiver name routine args
        ({ before with builder := builder }.withCursor (some ⟨name, label⟩)) =
          .ok (bound, others) after ∧
      job.program.captures id = .ok captures ∧
      job.bindArguments name bound (captures ++ routine.params) others = .ok locals := by
  obtain ⟨label, args, builder, created, done⟩ := run_createBlock_bind done
  obtain ⟨bound, others, captures, received, captured, arguments⟩ :=
    run_bindEntry (run_positionAtEnd_bind done)
  exact ⟨label, args, builder, bound, others, captures, created, received, captured, arguments⟩

/-- The parameters of a block are those of its function. -/
theorem args_of_createBlock {before after : Builder} {params : List OperandType}
    {label : LabelId} {args : List Value}
    (done : BuildM.createBlock name params before = .ok (label, args) after) :
    args.map Value.type = params ∧ ∀ arg ∈ args, arg.isError = false := by
  obtain ⟨function, _, _, rfl, _⟩ := BuildM.run_createBlock done
  refine ⟨?_, fun arg inside => ?_⟩
  · simp only [Function.addBlock, Block.paramValues, Counter.take, List.map_map]
    exact List.map_snd_zip (by simp)
  · obtain ⟨param, _, rfl⟩ := List.mem_map.mp inside
    rfl

/-- The receiver is the first argument, or it has a location of its own. -/
inductive BindsReceiver (job : Job) (routine : Routine) (args : List Value) :
    Locals → List Value → Prop
  | none (bare : routine.self = none) : BindsReceiver job routine args Table.empty args
  | member {self : DeclId} {receiver : Value} {rest : List Value}
    (given : routine.self = some self) (member : routine.isMember = true)
    (takes : args = receiver :: rest) :
    BindsReceiver job routine args (Table.empty.insert self receiver) rest
  | constructor {self : DeclId} {decl : Decl} {location : Value}
    (given : routine.self = some self) (free : routine.isMember = false)
    (found : job.program.find? self = some decl) (sound : location.isError = false)
    (typed : location.type = .address (decl.ty.base.contextualized routine.env)) :
    BindsReceiver job routine args (Table.empty.insert self location) args

theorem run_bindReceiver {args others : List Value} {locals : Locals}
    (done : job.bindReceiver name routine args before = .ok (locals, others) after) :
    BindsReceiver job routine args locals others := by
  rcases bindReceiver_cases done with ⟨bare, rfl, rfl, _⟩ | ⟨_, _, given, member, takes, rfl, _⟩ |
    ⟨_, _, _, _, given, free, _, found, allocated, rfl, rfl, _⟩
  · exact .none bare
  · exact .member given member takes
  · obtain ⟨_, _, _, rfl, _⟩ := BuildM.run_define allocated
    exact .constructor given free found rfl rfl

/-- The receiver is seen as the type of its declaration, and the other parameters are left. -/
theorem BindsReceiver.sees {args others : List Value} {locals : Locals}
    (binds : BindsReceiver job routine args locals others)
    (owned : routine.env.SubstitutesOwned) {receivers : List Ty}
    (received : job.program.Receives routine (receivers.map OperandType.lower))
    {types : List OperandType}
    (same : args.map Value.type = receivers.map routine.env.operand ++ types)
    (sound : ∀ arg ∈ args, arg.isError = false) :
    job.program.SeesLocals routine.env locals ∧ others.map Value.type = types ∧
      ∀ arg ∈ others, arg.isError = false := by
  have takesNone (free : ¬routine.isMember = true) : args.map Value.type = types := by
    rw [same, List.map_eq_nil_iff.mp (received.eq_nil free)]
    rfl
  cases binds with
  | none bare =>
    refine ⟨Program.seesLocals_empty, takesNone fun member => ?_, sound⟩
    obtain ⟨self, _, given, _⟩ := received.of_isMember member
    exact nomatch bare.symm.trans given
  | constructor given free found defined typed =>
    refine ⟨Program.seesLocals_empty.insert (Or.inr ⟨defined, _, found, ?_⟩),
      takesNone (by simp [free]), sound⟩
    rw [typed]
    rfl
  | member given member takes =>
    obtain ⟨again, decl, is_self, found, single⟩ := received.of_isMember member
    obtain rfl := Option.some.inj (given.symm.trans is_self)
    obtain ⟨ty, rfl, lowered⟩ := List.map_eq_singleton_iff.mp single
    obtain rfl : ty = decl.ty := by
      rw [← OperandType.toSource_lower ty, lowered, OperandType.toSource_lower]
    subst takes
    obtain ⟨first, rest⟩ := List.cons.inj same
    refine ⟨Program.seesLocals_empty.insert (Or.inr ⟨sound _ (List.mem_cons_self ..), decl, found,
      ?_⟩), rest, fun arg inside => sound arg (List.mem_cons_of_mem _ inside)⟩
    rw [first, GenericEnv.ty_operand owned]

/-- A declaration is bound to its argument, if it takes one, and otherwise to what it was. -/
theorem bindArguments_get? {good : DeclId → Value → Prop} {ids : List DeclId} {args : List Value}
    (all : List.Forall₂ good ids args) {locals bound : Locals}
    (done : job.bindArguments name locals ids args = .ok bound) {id : DeclId} {value : Value}
    (given : bound.get? id = some value) :
    (id ∈ ids ∧ value ∈ args ∧ good id value) ∨ id ∉ ids ∧ locals.get? id = some value := by
  induction all generalizing locals with
  | nil =>
    obtain rfl := (check_pure _ _).mp done
    exact Or.inr ⟨List.not_mem_nil, given⟩
  | @cons first arg rest args holds _ rest_ih =>
    rcases rest_ih done with ⟨inside, listed, later⟩ | ⟨apart, earlier⟩
    · exact Or.inl ⟨List.mem_cons_of_mem _ inside, List.mem_cons_of_mem _ listed, later⟩
    · by_cases same : id = first
      · subst same
        obtain rfl : arg = value := by simpa using earlier
        exact Or.inl ⟨List.mem_cons_self .., List.mem_cons_self .., holds⟩
      · rw [Table.get?_insert_of_ne _ _ _ _ same] at earlier
        exact Or.inr ⟨by simp [same, apart], earlier⟩

/--
A body starts with locals of the types that their declarations have in the function. The captures
that are no parameters as well are bound to objects.
-/
theorem enter_seen (functions : job.program.Signed) (owned : routine.env.SubstitutesOwned)
    (found : job.program.find? id = some decl) (listed : decl.routine? = some routine)
    (ordinary : routine.isBuiltin = false) (signed : job.signature id = .ok signature)
    {locals : Locals} (done : job.enter id routine name signature before = .ok locals after) :
    job.program.SeesLocals routine.env locals ∧ ∀ captures, job.program.captures id = .ok captures →
      ∀ capture ∈ captures, capture ∉ routine.params → ∀ value, locals.get? capture = some value →
        job.program.PassesIn routine.env capture value.type := by
  obtain ⟨params, result, captures, receivers, captured, function, known, received, passes, takes,
    _⟩ := signature_seen functions found listed signed
  obtain ⟨others, yields, same, declares, _⟩ := functions id decl routine found listed
  obtain ⟨rfl, rfl⟩ := (Ty.function.injEq _ _ _ _).mp (function.symm.trans same)
  obtain ⟨label, args, builder, start, rest, again, block, bound, known_again, arguments⟩ :=
    run_enter done
  obtain ⟨given, sound⟩ := args_of_createBlock block
  obtain ⟨start_seen, rest_types, rest_sound⟩ :=
    (run_bindReceiver bound).sees owned received (given.trans takes) sound
  obtain rfl := Except.ok.inj (known.symm.trans known_again)
  have formal : List.Forall₂ job.program.Declares routine.params params := declares ordinary
  refine ⟨fun id value held => ?_, fun others known_others capture inside apart value held => ?_⟩
  · have seen : List.Forall₂ (fun id type => job.program.SeesType routine.env id type.ty)
        (captures ++ routine.params) (captured ++ params.map routine.env.operand) :=
      List.rel_append (passes.imp fun _ _ => Program.PassesIn.seesType)
        (List.forall₂_map_right_iff.mpr (formal.imp fun _ _ => Program.Declares.seesType owned))
    rw [← rest_types, List.forall₂_map_right_iff] at seen
    rcases bindArguments_get? seen arguments held with ⟨_, listed, seen⟩ | ⟨_, earlier⟩
    · exact Or.inr ⟨rest_sound value listed, seen⟩
    · exact start_seen id value earlier
  · obtain rfl := Except.ok.inj (known.symm.trans known_others)
    let taken (id : DeclId) (type : OperandType) : Prop :=
      id ∉ routine.params → job.program.PassesIn routine.env id type
    have first : List.Forall₂ taken captures captured := by
      refine passes.imp ?_
      exact fun _ _ passes _ => passes
    have second : List.Forall₂ taken routine.params (params.map routine.env.operand) :=
      List.forall₂_map_right_iff.mpr (List.forall₂_iff_get.mpr ⟨formal.length_eq,
        fun place below _ apart => (apart (List.get_mem routine.params ⟨place, below⟩)).elim⟩)
    have passed : List.Forall₂ taken (captures ++ routine.params)
        (captured ++ params.map routine.env.operand) := List.rel_append first second
    rw [← rest_types, List.forall₂_map_right_iff] at passed
    rcases bindArguments_get? passed arguments held with ⟨_, _, passes⟩ | ⟨absent, _⟩
    · exact passes apart
    · exact (absent (List.mem_append_left _ inside)).elim

/-- A body starts with locals of the types that their declarations have. -/
theorem enter_typed (typed : job.program.Typed) (found : job.program.find? id = some decl)
    (listed : decl.routine? = some routine) (ordinary : routine.isBuiltin = false)
    (signed : job.signature id = .ok signature) {locals : Locals}
    (done : job.enter id routine name signature before = .ok locals after) :
    job.program.TypesLocals locals := by
  have none := typed.monomorphic decl (Program.mem_decls found) routine listed
  have owned : routine.env.SubstitutesOwned := by simp [GenericEnv.SubstitutesOwned, none]
  exact (enter_seen typed.signed owned found listed ordinary signed done).1.typesLocals none

end Job

end Lowering
