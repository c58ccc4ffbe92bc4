import Lowering.Proofs.Pass.Lasting
import Lowering.Proofs.Program.Capturing
import Lowering.Proofs.Program.Gathering

/-
This file types what closures are made of. A captured value has the type that the function around
the closed function sees, and the parameter for it the type that the closed function sees.
-/

namespace Lowering

open IR

namespace Program

variable (program : Program)

/-- The generic environment of a function. -/
def env? (id : DeclId) : Option GenericEnv :=
  ((program.find? id).bind Decl.routine?).map Routine.env

/-- Both functions see the declaration as being of one type, apart from inout. -/
def SeesAlike (one other id : DeclId) : Prop :=
  ∀ decl ∈ program.find? id, ∀ first ∈ program.env? one, ∀ second ∈ program.env? other,
    decl.ty.base.contextualized first = decl.ty.base.contextualized second

instance (one other id : DeclId) : Decidable (program.SeesAlike one other id) := by
  unfold SeesAlike
  infer_instance

/--
A function sees what it captures as the function around it does. It sees a function that captures
nothing as that itself does.
-/
def Harmonizes (owner inner : DeclId) : Prop :=
  ∀ captures ∈ (program.captures inner).toOption, ∀ capture ∈ captures,
    program.SeesAlike owner inner capture ∧
      (program.captures capture = .ok [] → program.SeesAlike capture inner capture)

instance (owner inner : DeclId) : Decidable (program.Harmonizes owner inner) := by
  unfold Harmonizes
  infer_instance

/-- So does everything that a function body declares. -/
def Harmonious : Prop :=
  ∀ entry ∈ program.entries, ∀ routine ∈ entry.2.routine?, ∀ body ∈ routine.body,
    ∀ inner ∈ Stmt.localsAll body.stmts, program.Harmonizes entry.1 inner

instance : Decidable program.Harmonious := by
  unfold Harmonious
  infer_instance

/-- Nothing whose type failed to check is captured. -/
def CapturesChecked : Prop :=
  ∀ entry ∈ program.entries, ∀ captures ∈ (program.captures entry.1).toOption,
    ∀ capture ∈ captures, ∀ decl ∈ program.find? capture, decl.ty.isError = false

instance : Decidable program.CapturesChecked := by
  unfold CapturesChecked
  infer_instance

/-- A pattern names what is declared beside its binding. -/
def NamesBeside : Prop :=
  ∀ decl ∈ program.decls.toList, ∀ name ∈ decl.introduced,
    (program.find? name).map Decl.parent = some decl.parent

instance : Decidable program.NamesBeside := by
  unfold NamesBeside
  infer_instance

/-- No function puts anything borrowed in the place of a generic parameter. -/
def SubstitutesOwned : Prop :=
  ∀ decl ∈ program.decls.toList, ∀ routine ∈ decl.routine?, routine.env.SubstitutesOwned

instance : Decidable program.SubstitutesOwned := by
  unfold SubstitutesOwned
  infer_instance

/-- What is asked of a program for the arguments of its closures to have the right types. -/
structure Closable : Prop where
  signed : program.Signed
  gathers : program.Gathers
  borrows : program.BorrowsOutermost
  binds : program.BindsNoReceiver
  substitutes : program.SubstitutesOwned
  owning : program.OwnsLocals
  housed : program.HousesMembers
  beside : program.NamesBeside
  checked : program.CapturesChecked
  harmonious : program.Harmonious

variable {program} {id owner inner capture : DeclId} {decl : Decl} {routine : Routine}

theorem env?_eq_some (found : program.find? id = some decl)
    (listed : decl.routine? = some routine) : program.env? id = some routine.env := by
  rw [env?, found, Option.bind_some, listed, Option.map_some]

/-- What is passed as an object of its type in both environments is the same in both. -/
theorem SeesAlike.passesIn {one other : DeclId} {first second : GenericEnv} {type : OperandType}
    (alike : program.SeesAlike one other id) (near : program.env? one = some first)
    (far : program.env? other = some second) (passes : program.PassesIn first id type) :
    program.PassesIn second id type := by
  obtain ⟨decl, found, rfl⟩ := passes
  exact ⟨decl, found, congrArg OperandType.object (alike decl found first near second far)⟩

/-- The locals of a function have the types that it sees, and its captures are objects. -/
def Situates (program : Program) (owner : DeclId) (locals : Locals) : Prop :=
  ∀ env, program.env? owner = some env → program.SeesLocals env locals ∧
    ∀ captures, program.captures owner = .ok captures → ∀ capture ∈ captures, ∀ value,
      locals.get? capture = some value → program.PassesIn env capture value.type

namespace Closable

variable (closable : program.Closable)

include closable

theorem owned (found : program.find? id = some decl) (listed : decl.routine? = some routine) :
    routine.env.SubstitutesOwned :=
  closable.substitutes decl (mem_decls found) routine listed

/-- What a function has declared in its body stands inside it. -/
theorem parent_of_declaredIn (declared : program.DeclaredIn owner inner) :
    ∃ own, program.find? inner = some own ∧ own.parent = some owner := by
  obtain ⟨decl, routine, body, found, listed, given, inside⟩ := declared
  exact closable.owning.parent found listed given inside

/-- A function captures nothing that its body declares. -/
theorem not_captured_of_declaredIn (declared : program.DeclaredIn owner inner) :
    ¬program.Captured owner inner := by
  intro captured
  obtain ⟨own, present, parent⟩ := closable.parent_of_declaredIn declared
  obtain ⟨decl, routine, _, found, listed, _⟩ := declared
  exact captured.not_inside present found listed parent

/-- Nor does it capture the variables that its body brings in. -/
theorem not_captured_of_brings (brought : program.Brings (program.DeclaredIn owner) id) :
    ¬program.Captured owner id := by
  intro captured
  obtain ⟨place, outer, declared, present, named⟩ := brought
  obtain ⟨again, there, parent⟩ := closable.parent_of_declaredIn declared
  obtain rfl := Option.some.inj (present.symm.trans there)
  have beside := closable.beside outer (mem_decls present) id named
  obtain ⟨own, held, same⟩ := Option.map_eq_some_iff.mp beside
  obtain ⟨decl, routine, _, found, listed, _⟩ := declared
  exact captured.not_inside held found listed (same.trans parent)

/-- A function does not capture its own parameters. -/
theorem not_mem_params (found : program.find? owner = some decl)
    (listed : decl.routine? = some routine) (captured : program.Captured owner capture) :
    capture ∉ routine.params := by
  intro inside
  have listed_contents : capture ∈ decl.contents :=
    List.mem_append_right _ (by rw [listed]; exact inside)
  obtain ⟨own, present, parent⟩ := closable.gathers owner decl found capture listed_contents
  exact captured.not_inside present found listed parent

theorem alike (declared : program.DeclaredIn owner inner) {captures : List DeclId}
    (captured : program.captures inner = .ok captures) (inside : capture ∈ captures) :
    program.SeesAlike owner inner capture ∧
      (program.captures capture = .ok [] → program.SeesAlike capture inner capture) := by
  obtain ⟨decl, routine, body, found, listed, given, here⟩ := declared
  exact closable.harmonious (owner, decl) (mem_entries found) routine listed body given inner here
    captures (by rw [captured]; rfl) capture inside

/-- A function that a body declares is no method, since its function is around it. -/
theorem free_of_declaredIn (declared : program.DeclaredIn owner inner)
    (found : program.find? inner = some decl) (listed : decl.routine? = some routine) :
    routine.isMember = false := by
  obtain ⟨own, present, parent⟩ := closable.parent_of_declaredIn declared
  obtain rfl := Option.some.inj (found.symm.trans present)
  obtain ⟨outer, holder, _, there, holds, _⟩ := declared
  exact closable.housed.unowned found listed
    ((enclosingFunction_of_parent present parent there).1 (by rw [holds]; rfl))

/-- A captured object is not borrowed in any environment. -/
theorem base_of_passesIn {env : GenericEnv} (owned : env.SubstitutesOwned) {type : OperandType}
    (passes : program.PassesIn env capture type) : ∃ ty : Ty, ty.base = ty ∧ type = .object ty := by
  obtain ⟨decl, found, rfl⟩ := passes
  refine ⟨_, ?_, rfl⟩
  rw [GenericEnv.base_contextualized owned, Ty.base_of_isOwned (closable.borrows.owned found)]

end Closable

theorem Situates.insert {locals : Locals} (situates : program.Situates owner locals) {value : Value}
    (seen : ∀ env, program.env? owner = some env → program.SeesValue env id value)
    (other : ¬program.Captured owner id) :
    program.Situates owner (locals.insert id value) := by
  intro env given
  obtain ⟨sees, passes⟩ := situates env given
  refine ⟨sees.insert (seen env given), fun captures captured capture inside kept found => ?_⟩
  have apart : capture ≠ id := fun same => other (same ▸ captured_of_mem captured inside)
  rw [Table.get?_insert_of_ne _ _ _ _ apart] at found
  exact passes captures captured capture inside kept found

end Program

namespace Frame

variable {frame : Frame} {id capture : DeclId} {locals : Locals} {value : Value}

/-- A type is seen in the function's own environment. -/
theorem run_contextualize {ty seen : Ty} (done : frame.contextualize ty = .ok seen) :
    ∃ env, frame.program.env? frame.owner = some env ∧ seen = ty.contextualized env := by
  obtain ⟨routine, asked, done⟩ := (check_bind _ _ _).mp done
  obtain rfl := (check_pure _ _).mp done
  obtain ⟨decl, found, given⟩ := (check_bind _ _ _).mp asked
  cases listed : decl.routine? with
  | none => simp [listed] at given
  | some own =>
    obtain rfl : own = routine := by simpa [listed] using given
    have found := Program.decl_eq_ok.mp ((lift_answer _ _).mp found)
    exact ⟨own.env, Program.env?_eq_some found listed, rfl⟩

/-- What a body binds has the type that the function sees, and the function does not capture it. -/
theorem Introduces.situates (closable : frame.program.Closable)
    (situates : frame.program.Situates frame.owner locals)
    (introduces : frame.Introduces (frame.program.DeclaredIn frame.owner) id value) :
    frame.program.Situates frame.owner (locals.insert id value) := by
  have located {own : Decl} {ty : Ty} (there : frame.program.find? id = some own)
      (base : own.ty.base = own.ty) (seen : frame.contextualize own.ty = .ok ty)
      (given : value.type = .address ty ∧ value.isError = false) (env : GenericEnv)
      (asked : frame.program.env? frame.owner = some env) :
      frame.program.SeesValue env id value := by
    obtain ⟨again, known, rfl⟩ := run_contextualize seen
    obtain rfl := Option.some.inj (asked.symm.trans known)
    refine Or.inr ⟨given.2, own, there, ?_⟩
    rw [given.1, base]
    rfl
  cases introduces with
  | failed there brought error given =>
    exact situates.insert (fun _ _ => Or.inl ⟨_, there, error, given⟩)
      (closable.not_captured_of_brings brought)
  | «variable» there brought stored seen given =>
    have other := closable.not_captured_of_brings brought
    obtain ⟨_, outer, _, place, named⟩ := brought
    have spared := closable.binds outer (Program.mem_decls place) id named
    have base := closable.borrows.base_eq there stored spared
    exact situates.insert (located there base seen given) other
  | closure there holds declared _ _ seen given =>
    exact situates.insert (located there (closable.signed.base_eq there holds) seen given)
      (closable.not_captured_of_declaredIn declared)

/-- A value that is captured is passed as an object of the type that the function around sees. -/
theorem Denotes.passesIn (closable : frame.program.Closable)
    (situates : frame.program.Situates frame.owner locals) {inner : DeclId}
    (declared : frame.program.DeclaredIn frame.owner inner) {captures : List DeclId}
    (captured : frame.program.captures inner = .ok captures) (inside : capture ∈ captures)
    {own : Decl} (present : frame.program.find? inner = some own) {env : GenericEnv}
    (given : frame.program.env? inner = some env) (denotes : frame.Denotes locals capture value) :
    frame.program.PassesIn env capture value.type := by
  obtain ⟨near, far⟩ := closable.alike declared captured inside
  obtain ⟨outer, holder, _, there, holds, _⟩ := declared
  have around := Program.env?_eq_some there holds
  obtain ⟨sees, _⟩ := situates _ around
  have sound {decl : Decl} (found : frame.program.find? capture = some decl) :
      decl.ty.isError = false :=
    closable.checked (inner, own) (Program.mem_entries present) captures (by rw [captured]; rfl)
      capture inside decl found
  -- What is bound to the capture is no error, for its type has been checked.
  have bound {location : Value} (held : locals.get? capture = some location) :
      location.isError = false ∧ frame.program.SeesType holder.env capture location.type.ty := by
    rcases sees capture location held with ⟨decl, found, error, _⟩ | seen
    · exact nomatch error.symm.trans (sound found)
    · exact seen
  cases denotes with
  | loaded held place typed =>
    obtain ⟨_, decl, found, seen⟩ := bound held
    exact near.passesIn around given ⟨decl, found, typed.trans (congrArg OperandType.object seen)⟩
  | bound held object =>
    obtain ⟨defined, decl, found, seen⟩ := bound held
    have object : value.type.isAddress = false := by simpa [defined, Value.isAddress] using object
    exact near.passesIn around given ⟨decl, found, by rw [← seen, OperandType.object, ← object]⟩
  | @builtin decl routine found listed provided =>
    obtain ⟨_, target, _, again, capturable, _⟩ :=
      Program.captured_iff.mp (Program.captured_of_mem captured inside)
    obtain rfl := Option.some.inj (found.symm.trans again)
    obtain ⟨name, kind, ty, parent, span⟩ := decl
    cases kind with
    | function =>
      obtain rfl := Option.some.inj listed
      simp [Program.isCapturable, provided] at capturable
    | _ => cases listed
  | function found listed free none signed typed =>
    refine (far none).passesIn (Program.env?_eq_some found listed) given ⟨_, found, ?_⟩
    rw [typed, Job.funType_seen closable.signed found listed free none signed,
      closable.signed.base_eq found listed]
  | closure found listed same seen typed =>
    obtain ⟨again, known, rfl⟩ := run_contextualize seen
    obtain rfl := Option.some.inj (around.symm.trans known)
    refine near.passesIn around given ⟨_, found, ?_⟩
    rw [typed, closable.signed.base_eq found listed]

end Frame

/--
The arguments are objects of the types of the first parameters of the function, which does not
borrow them.
-/
def IR.Fits (function : Value) (args : List Value) : Prop :=
  ∃ signature : Signature, function.type = .object signature.funType ∧
    args.map Value.type <+: signature.params ∧
    ∀ arg ∈ args, ∃ ty : Ty, ty.base = ty ∧ arg.type = .object ty

/-- An operand of the type of an object that is not borrowed is such an object. -/
theorem IR.OperandType.eq_object_of_toSource {type : OperandType} {ty : Ty} (plain : ty.base = ty)
    (same : type.toSource = ty) : type = .object ty := by
  obtain ⟨own, isAddress⟩ := type
  cases isAddress with
  | false => exact congrArg OperandType.object same
  | true =>
    have borrowed : Ty.inout own = ty := same
    rw [← borrowed] at plain
    cases plain

/-- So are several of them. -/
theorem IR.OperandType.eq_of_map_toSource {types others : List OperandType}
    (plain : ∀ type ∈ types, ∃ ty : Ty, ty.base = ty ∧ type = .object ty)
    (same : others.map toSource = types.map toSource) : others = types := by
  induction types generalizing others with
  | nil => exact List.map_eq_nil_iff.mp same
  | cons type types types_ih =>
    obtain ⟨other, rest, rfl, first, later⟩ := List.map_eq_cons_iff.mp same
    obtain ⟨ty, owned, rfl⟩ := plain type (List.mem_cons_self ..)
    rw [eq_object_of_toSource owned first,
      types_ih (fun type inside => plain type (List.mem_cons_of_mem _ inside)) later]

/-- A type of functions tells what its functions take, as far as that is not borrowed. -/
theorem IR.Fits.prefix {function : Value} {args : List Value} (fits : Fits function args)
    {signature : Signature} (typed : function.type = .object signature.funType) :
    args.map Value.type <+: signature.params := by
  obtain ⟨other, again, ⟨rest, split⟩, plain⟩ := fits
  obtain ⟨sources, _⟩ := (Ty.function.injEq _ _ _ _).mp
    (congrArg OperandType.ty (again.symm.trans typed))
  rw [← split, List.map_append] at sources
  obtain ⟨first, last, whole, firsts, _⟩ := List.map_eq_append_iff.mp sources.symm
  have same : first = args.map Value.type :=
    OperandType.eq_of_map_toSource (List.forall_mem_map.mpr plain) firsts
  exact ⟨last, by rw [whole, same]⟩

/-- A closure is made of values as its function takes them. -/
theorem Program.Closable.fits {job : Job} (closable : job.program.Closable) {inner : DeclId}
    {decl : Decl} {routine : Routine} (found : job.program.find? inner = some decl)
    (listed : decl.routine? = some routine) (free : routine.isMember = false)
    {captures : List DeclId} (captured : job.program.captures inner = .ok captures)
    {args : List Value}
    (passes : List.Forall₂ (fun capture value =>
      job.program.PassesIn routine.env capture value.type) captures args)
    {signature : Signature} (signed : job.signature inner = .ok signature) {function : Value}
    (typed : function.type = .object signature.funType) : Fits function args := by
  obtain ⟨params, result, again, receivers, types, _, known, received, takes, lists, _⟩ :=
    Job.signature_seen closable.signed found listed signed
  obtain rfl := Except.ok.inj (captured.symm.trans known)
  obtain rfl := List.map_eq_nil_iff.mp (received.eq_nil (by simp [free]))
  have unique : Relator.RightUnique (job.program.PassesIn routine.env) := by
    rintro capture _ _ ⟨decl, found, rfl⟩ ⟨other, there, rfl⟩
    obtain rfl := Option.some.inj (found.symm.trans there)
    rfl
  have same : args.map Value.type = types :=
    List.right_unique_forall₂' unique (List.forall₂_map_right_iff.mpr passes) takes
  refine ⟨signature, typed, ⟨params.map routine.env.operand, ?_⟩, ?_⟩
  · rw [lists, same]
    rfl
  · have owned := closable.owned found listed
    have plain : List.Forall₂ (fun arg capture =>
        (∃ ty : Ty, ty.base = ty ∧ arg.type = .object ty) ∧
          job.program.PassesIn routine.env capture arg.type) args captures :=
      .flip (passes.imp fun _ _ passed => ⟨closable.base_of_passesIn owned passed, passed⟩)
    exact ((List.forall₂_and_left args captures).mp plain).1

end Lowering
