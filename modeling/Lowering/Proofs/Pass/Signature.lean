import Lowering.Pass.Signature
import Lowering.Proofs.Run

/-
This file takes signatures apart: the receiver comes first, then the captures, and then the formal
parameters.
-/

namespace Lowering

open IR

section Unapplied

variable {program : Program} {id : DeclId} {decl : Decl} {routine : Routine} {unapplied : FunType}

/-- Without the receiver, the type of a function is that of its calls. -/
theorem Program.unappliedType_eq_ok (found : program.decl id = .ok decl)
    (listed : decl.routine? = some routine) (typed : program.unappliedType id = .ok unapplied) :
    ∃ receivers, receivers.length = (if routine.isMember then 1 else 0) ∧
      unapplied.params = receivers ++ (appliedType decl).params ∧
      unapplied.result = (appliedType decl).result := by
  unfold Program.unappliedType at typed
  obtain ⟨again, found_again, typed⟩ := (check_bind _ _ _).mp typed
  obtain rfl := Except.ok.inj (found.symm.trans found_again)
  simp only [listed] at typed
  split at typed
  next member =>
    obtain ⟨receiver, _, typed⟩ := (check_bind _ _ _).mp typed
    obtain rfl := (check_pure _ _).mp typed
    exact ⟨[receiver], by simp [member], rfl, rfl⟩
  next apart =>
    obtain rfl := (check_pure _ _).mp typed
    exact ⟨[], by simp [apart], rfl, rfl⟩

/-- A member takes one argument more than its type says, its receiver. -/
theorem Program.length_unapplied (found : program.decl id = .ok decl)
    (listed : decl.routine? = some routine) (typed : program.unappliedType id = .ok unapplied) :
    unapplied.params.length =
      (if routine.isMember then 1 else 0) + (appliedType decl).params.length := by
  obtain ⟨receivers, length, params, _⟩ := unappliedType_eq_ok found listed typed
  rw [params, List.length_append, length]

end Unapplied

namespace Job

variable {job : Job} {id : DeclId} {decl : Decl} {routine : Routine} {signature : Signature}

/-- Only a function has a signature. -/
theorem routine_of_signature (signed : job.signature id = .ok signature) :
    ∃ decl routine, job.program.decl id = .ok decl ∧ decl.routine? = some routine := by
  unfold Job.signature at signed
  obtain ⟨decl, found, signed⟩ := (check_bind _ _ _).mp signed
  cases listed : decl.routine? with
  | none =>
    simp only [listed] at signed
    exact ((check_abort _ _).mp signed).elim
  | some routine => exact ⟨decl, routine, (lift_answer _ _).mp found, listed⟩

theorem signature_eq_ok (found : job.program.decl id = .ok decl)
    (listed : decl.routine? = some routine) (signed : job.signature id = .ok signature) :
    ∃ unapplied captures captured, job.program.unappliedType id = .ok unapplied ∧
      job.program.captures id = .ok captures ∧ captured.length = captures.length ∧
      signature.params =
        ((unapplied.params.take (if routine.isMember then 1 else 0)).map
          fun ty => OperandType.lower (ty.contextualized routine.env)) ++ captured ++
        (unapplied.params.drop (if routine.isMember then 1 else 0)).map
          fun ty => OperandType.lower (ty.contextualized routine.env) := by
  unfold Job.signature at signed
  obtain ⟨again, found_again, signed⟩ := (check_bind _ _ _).mp signed
  obtain rfl := Except.ok.inj (found.symm.trans ((lift_answer _ _).mp found_again))
  simp only [listed] at signed
  obtain ⟨unapplied, typed, signed⟩ := (check_bind _ _ _).mp signed
  obtain ⟨captures, known, signed⟩ := (check_bind _ _ _).mp signed
  obtain ⟨captured, mapped, signed⟩ := (check_bind _ _ _).mp signed
  obtain rfl := (check_pure _ _).mp signed
  exact ⟨unapplied, captures, captured, (lift_answer _ _).mp typed, (lift_answer _ _).mp known,
    check_mapM_length captures mapped, rfl⟩

/-- The parameters of a function: its receiver, its captures, and those that its type has. -/
theorem length_params (found : job.program.decl id = .ok decl)
    (listed : decl.routine? = some routine) (signed : job.signature id = .ok signature) :
    ∃ captures, job.program.captures id = .ok captures ∧
      signature.params.length = (if routine.isMember then 1 else 0) + captures.length +
        (Program.appliedType decl).params.length := by
  obtain ⟨unapplied, captures, captured, typed, known, count, params⟩ :=
    signature_eq_ok found listed signed
  have total := Program.length_unapplied found listed typed
  refine ⟨captures, known, ?_⟩
  simp only [params, List.length_append, List.length_map, List.length_take, List.length_drop, count,
    total]
  generalize (if routine.isMember then 1 else 0) = receivers
  omega

/-- A function that captures nothing takes its receiver and its formal parameters. -/
theorem params_of_captures_nil (found : job.program.decl id = .ok decl)
    (listed : decl.routine? = some routine) (signed : job.signature id = .ok signature)
    (none : job.program.captures id = .ok []) :
    ∃ unapplied, job.program.unappliedType id = .ok unapplied ∧
      signature.params =
        unapplied.params.map fun ty => OperandType.lower (ty.contextualized routine.env) := by
  obtain ⟨unapplied, captures, captured, typed, known, count, params⟩ :=
    signature_eq_ok found listed signed
  obtain rfl := Except.ok.inj (none.symm.trans known)
  obtain rfl := List.length_eq_zero_iff.mp count
  refine ⟨unapplied, typed, ?_⟩
  rw [params, List.append_nil, ← List.map_append, List.take_append_drop]

end Job

end Lowering
