import Lowering.Pass.Signature
import Lowering.Proofs.Typing.Types

/-
This file types the parameters of a function: its receiver, its captures, and those of its type.
-/

namespace Lowering

open IR

/-- Answers for all items are answers for each of them. -/
theorem check_mapM_forall₂ {E A B : Type} {check : A → Except E B} {items : List A}
    {values : List B} (done : items.mapM check = .ok values) :
    List.Forall₂ (fun item value => check item = .ok value) items values := by
  induction items generalizing values with
  | nil =>
    obtain rfl := (check_pure _ _).mp done
    exact .nil
  | cons item rest rest_ih =>
    rw [List.mapM_cons, check_bind] at done
    obtain ⟨first, given, done⟩ := done
    obtain ⟨others, answered, same⟩ := (check_bind _ _ _).mp done
    obtain rfl := (check_pure _ _).mp same
    exact .cons given (rest_ih answered)

/-- How an operand of a source type is seen in a generic environment. -/
def GenericEnv.operand (env : GenericEnv) (ty : Ty) : OperandType :=
  OperandType.lower (ty.contextualized env)

namespace Program

variable (program : Program)

/--
A capture is passed as an object of the type of its declaration, without inout, as the generic
environment has that.
-/
def PassesIn (env : GenericEnv) (capture : DeclId) (type : OperandType) : Prop :=
  ∃ decl, program.find? capture = some decl ∧ type = .object (decl.ty.base.contextualized env)

/-- A member takes its receiver, as the type of that says, and other functions take none. -/
def Receives (routine : Routine) (types : List OperandType) : Prop :=
  (routine.isMember = false ∧ types = []) ∨
    routine.isMember = true ∧ ∃ self decl, routine.self = some self ∧
      program.find? self = some decl ∧ types = [.lower decl.ty]

variable {program}

theorem Receives.eq_nil {routine : Routine} {types : List OperandType}
    (received : program.Receives routine types) (free : ¬routine.isMember = true) : types = [] :=
  received.elim And.right fun ⟨member, _⟩ => (free member).elim

theorem Receives.of_isMember {routine : Routine} {types : List OperandType}
    (received : program.Receives routine types) (member : routine.isMember = true) :
    ∃ self decl, routine.self = some self ∧ program.find? self = some decl ∧
      types = [.lower decl.ty] := by
  rcases received with ⟨free, _⟩ | ⟨_, given⟩
  · exact absurd (member.symm.trans free) Bool.noConfusion
  · exact given

variable {id : DeclId} {decl : Decl} {routine : Routine} {params : List Ty} {result : Ty}
  {unapplied : FunType}

/-- Without its receiver, a function takes and gives what its type says. -/
theorem receives_unapplied (found : program.find? id = some decl)
    (listed : decl.routine? = some routine) (same : decl.ty = .function params result)
    (received : routine.isMember = true → routine.self.isSome = true)
    (typing : program.unappliedType id = .ok unapplied) :
    ∃ receivers, receivers.length = (if routine.isMember then 1 else 0) ∧
      program.Receives routine (receivers.map OperandType.lower) ∧
      unapplied = ⟨receivers ++ params, result⟩ := by
  have applied : appliedType decl = ⟨params, result⟩ := by
    rw [appliedType, same]
    rfl
  unfold Program.unappliedType at typing
  obtain ⟨again, found_again, typing⟩ := (check_bind _ _ _).mp typing
  obtain rfl := Option.some.inj (found.symm.trans (Program.decl_eq_ok.mp found_again))
  simp only [listed, applied] at typing
  split at typing
  next member =>
    obtain ⟨receiver, asked, typing⟩ := (check_bind _ _ _).mp typing
    obtain rfl := (check_pure _ _).mp typing
    obtain ⟨self, is_self⟩ := Option.isSome_iff_exists.mp (received member)
    simp only [Program.receiverType, is_self] at asked
    obtain ⟨self_decl, self_found, asked⟩ := (check_bind _ _ _).mp asked
    obtain rfl := (check_pure _ _).mp asked
    exact ⟨[self_decl.ty], by simp [member],
      Or.inr ⟨member, self, self_decl, is_self, Program.decl_eq_ok.mp self_found, rfl⟩, rfl⟩
  next free =>
    obtain rfl := (check_pure _ _).mp typing
    exact ⟨[], by simp [free], Or.inl ⟨by simpa using free, rfl⟩, rfl⟩

end Program

namespace Job

variable {job : Job} {id : DeclId} {decl : Decl} {routine : Routine} {signature : Signature}

/-- The signature of a function has all types as the generic environment of the function does. -/
theorem signature_seen (functions : job.program.Signed) (found : job.program.find? id = some decl)
    (listed : decl.routine? = some routine) (signed : job.signature id = .ok signature) :
    ∃ params result captures, ∃ receivers : List Ty, ∃ captured,
      decl.ty = .function params result ∧ job.program.captures id = .ok captures ∧
      job.program.Receives routine (receivers.map OperandType.lower) ∧
      List.Forall₂ (job.program.PassesIn routine.env) captures captured ∧
      signature.params = receivers.map routine.env.operand ++
        (captured ++ params.map routine.env.operand) ∧
      signature.result = routine.env.operand result := by
  obtain ⟨params, result, same, _, received⟩ := functions id decl routine found listed
  unfold Job.signature at signed
  obtain ⟨again, found_again, signed⟩ := (check_bind _ _ _).mp signed
  obtain rfl := Option.some.inj
    (found.symm.trans (Program.decl_eq_ok.mp ((lift_answer _ _).mp found_again)))
  simp only [listed] at signed
  obtain ⟨unapplied, typing, signed⟩ := (check_bind _ _ _).mp signed
  obtain ⟨captures, known, signed⟩ := (check_bind _ _ _).mp signed
  obtain ⟨captured, mapped, signed⟩ := (check_bind _ _ _).mp signed
  obtain rfl := (check_pure _ _).mp signed
  have passed : List.Forall₂ (job.program.PassesIn routine.env) captures captured := by
    refine (check_mapM_forall₂ mapped).imp fun capture type asked => ?_
    obtain ⟨decl, found, asked⟩ := (check_bind _ _ _).mp asked
    obtain rfl := (check_pure _ _).mp asked
    exact ⟨decl, Program.decl_eq_ok.mp ((lift_answer _ _).mp found), rfl⟩
  obtain ⟨receivers, length, takes, rfl⟩ :=
    Program.receives_unapplied found listed same received ((lift_answer _ _).mp typing)
  refine ⟨params, result, captures, receivers, captured, same, (lift_answer _ _).mp known, takes,
    passed, ?_, rfl⟩
  simp only [← length, List.take_left, List.drop_left, List.append_assoc]
  rfl

/-- Without a receiver and captures, a function has the type of its declaration as it sees it. -/
theorem funType_seen (functions : job.program.Signed) (found : job.program.find? id = some decl)
    (listed : decl.routine? = some routine) (free : routine.isMember = false)
    (none : job.program.captures id = .ok []) (signed : job.signature id = .ok signature) :
    signature.funType = decl.ty.contextualized routine.env := by
  obtain ⟨params, result, captures, receivers, captured, same, known, received, passed, takes,
    yields⟩ := signature_seen functions found listed signed
  obtain rfl := Except.ok.inj (none.symm.trans known)
  cases passed
  obtain rfl := List.map_eq_nil_iff.mp (received.eq_nil (by simp [free]))
  have lowered : signature = Signature.lower
      ⟨Ty.contextualizedAll routine.env params, result.contextualized routine.env⟩ := by
    cases signature
    simp only [List.map_nil, List.nil_append] at takes yields
    rw [takes, yields, Ty.contextualizedAll_eq_map, Signature.lower, List.map_map]
    rfl
  rw [lowered, Signature.funType_lower, same, Ty.contextualized]
  rfl

/-- A function that takes no receiver and captures nothing has the type of its declaration. -/
theorem funType_of_captures_nil (typed : job.program.Typed)
    (found : job.program.find? id = some decl) (listed : decl.routine? = some routine)
    (free : routine.isMember = false) (none : job.program.captures id = .ok [])
    (signed : job.signature id = .ok signature) : signature.funType = decl.ty :=
  (funType_seen typed.signed found listed free none signed).trans
    (Ty.contextualized_eq_self (typed.monomorphic decl (Program.mem_decls found) routine listed) _)

end Job

end Lowering
