import Lowering.Proofs.Pass.Primitive
import Lowering.Proofs.Program.Conforming
import Lowering.Proofs.Session

/-
This file says which functions a pass may declare. The names tell whose function it is, and the
program tells which signature it has. Where requirements are discerned there is one signature for a
name.
-/

namespace Lowering

open IR

namespace NamesM

/-- Without a name for the declaration, the names stay as they are. -/
theorem run_functionName_error {program : Program} {id : DeclId} {error : QueryError}
    {before after : Names} (stops : functionName program id before = .error error after) :
    after = before := by
  rw [functionName_eq] at stops
  split at stops
  next => cases stops
  next =>
    split at stops
    next => cases stops
    next => exact (EStateM.Result.error.inj stops).2.symm

/-- The name of a thunk joins that of the implementation and the path of the requirement. -/
theorem run_thunkName {program : Program} {implementation requirement : DeclId}
    {thunk : String} {before after : Names}
    (done : thunkName program implementation requirement before = .ok thunk after) :
    ∃ function path, functionName program implementation before = .ok function after ∧
      program.qualifiedName requirement = .ok path ∧ thunk = s!"{function}$witness${path}" := by
  obtain ⟨function, between, named, rest⟩ := (run_bind _ _ _ _ _).mp done
  obtain ⟨path, last, asked, finished⟩ := (run_bind _ _ _ _ _).mp rest
  obtain ⟨qualifies, rfl⟩ := run_qualified asked
  obtain ⟨rfl, rfl⟩ := (run_pure _ _ _ _).mp finished
  exact ⟨function, path, named, qualifies, rfl⟩

/-- Without a name for a thunk, its implementation may have got one. -/
theorem run_thunkName_error {program : Program} {implementation requirement : DeclId}
    {error : QueryError} {before after : Names}
    (stops : thunkName program implementation requirement before = .error error after) :
    after = before ∨
      ∃ function, functionName program implementation before = .ok function after := by
  obtain stops | ⟨function, between, named, stops⟩ := (run_bind_error _ _ _ _ _).mp stops
  · exact Or.inl (run_functionName_error stops)
  obtain stops | ⟨_, _, _, stops⟩ := (run_bind_error _ _ _ _ _).mp stops
  · cases qualifies : program.qualifiedName requirement with
    | ok path => simp [qualified, qualifies] at stops
    | error refused =>
      simp only [qualified, qualifies] at stops
      obtain ⟨_, rfl⟩ := (run_throw_error _ _ _ _).mp stops
      exact Or.inr ⟨function, named⟩
  · exact ((run_pure_error _ _ _ _).mp stops).elim

end NamesM

/-- The thunk of an entry is named for its implementation and the path of its requirement. -/
def Program.NamesThunk (program : Program) (names : Names) (entry : ConformanceEntry)
    (name : String) : Prop :=
  ∃ own path, names.assigned.get? entry.implementation = some own ∧
    program.qualifiedName entry.requirement = .ok path ∧ name = s!"{own}$witness${path}"

/-- Plain names are never mistaken for those of thunks. -/
theorem Names.Distinct.unmarked {program : Program} {names : Names} (plain : program.PlainNames)
    (distinct : names.Distinct program) {id : DeclId} {name : String}
    (assigned : names.assigned.get? id = some name) : '$' ∉ name.toList := by
  obtain ⟨path, uses, qualifies, rfl⟩ := distinct.hasName assigned
  exact NamesM.unmarked_numbered (plain.qualifiedName qualifies) uses

namespace Program.NamesThunk

variable {program : Program} {names after : Names} {entry other : ConformanceEntry} {name : String}

theorem of_extends (named : program.NamesThunk names entry name) (grown : names.Extends after) :
    program.NamesThunk after entry name := by
  obtain ⟨own, path, assigned, qualifies, same⟩ := named
  exact ⟨own, path, grown _ own assigned, qualifies, same⟩

variable (plain : program.PlainNames) (distinct : names.Distinct program)

include plain distinct

theorem not_assigned (named : program.NamesThunk names entry name) (id : DeclId) :
    names.assigned.get? id ≠ some name := by
  rintro assigned
  obtain ⟨own, path, _, _, rfl⟩ := named
  exact distinct.unmarked plain assigned (by simp [toString])

/-- Thunks of one name have one implementation, and requirements of one path. -/
theorem shares (first : program.NamesThunk names entry name)
    (second : program.NamesThunk names other name) :
    entry.implementation = other.implementation ∧
      program.SharesPath entry.requirement other.requirement := by
  obtain ⟨own, path, assigned, qualifies, rfl⟩ := first
  obtain ⟨_, _, assigned_other, qualifies_other, same⟩ := second
  obtain ⟨rfl, rfl⟩ := NamesM.thunk_inj (distinct.unmarked plain assigned)
    (distinct.unmarked plain assigned_other) same
  exact ⟨distinct.injective _ _ _ assigned assigned_other, path, qualifies, qualifies_other⟩

/-- Where requirements are discerned, the thunk of an entry is no other's. -/
theorem unique (discerns : program.Discerns) (listed : entry ∈ program.pairings)
    (inside : other ∈ program.pairings) (first : program.NamesThunk names entry name)
    (second : program.NamesThunk names other name) : entry = other := by
  obtain ⟨implementation, shared⟩ := first.shares plain distinct second
  have requirement := discerns entry listed other inside implementation shared
  cases entry
  cases other
  exact congr (congrArg _ requirement) implementation

end Program.NamesThunk

/-- A function may be declared for a declaration, or as the thunk of an entry. -/
inductive Job.Allots (job : Job) (names : Names) (name : String) (signature : Signature) :
    Prop where
  | routine (id : DeclId) (assigned : names.assigned.get? id = some name)
      (signed : job.signature id = .ok signature)
  | thunk (entry : ConformanceEntry) (unapplied : FunType)
      (listed : entry ∈ job.program.pairings) (named : job.program.NamesThunk names entry name)
      (typed : job.program.unappliedType entry.requirement = .ok unapplied)
      (signed : signature = .lower unapplied)

namespace Job.Allots

variable {job : Job} {names after : Names} {name : String} {signature other : Signature}

theorem of_extends (allots : job.Allots names name signature) (grown : names.Extends after) :
    job.Allots after name signature := by
  cases allots with
  | routine id assigned signed => exact .routine id (grown id name assigned) signed
  | thunk entry unapplied listed named typed signed =>
    exact .thunk entry unapplied listed (named.of_extends grown) typed signed

/-- There is one signature for a name. -/
theorem unique (plain : job.program.PlainNames) (discerns : job.program.Discerns)
    (distinct : names.Distinct job.program) (first : job.Allots names name signature)
    (second : job.Allots names name other) : signature = other := by
  cases first with
  | routine id assigned signed =>
    cases second with
    | routine again assigned_again signed_again =>
      obtain rfl := distinct.injective id again name assigned assigned_again
      exact Except.ok.inj (signed.symm.trans signed_again)
    | thunk entry unapplied listed named typed _ =>
      exact (named.not_assigned plain distinct id assigned).elim
  | thunk entry unapplied listed named typed signed =>
    cases second with
    | routine id assigned _ => exact (named.not_assigned plain distinct id assigned).elim
    | thunk again unapplied_again inside named_again typed_again signed_again =>
      obtain rfl := named.unique plain distinct discerns listed inside named_again
      rw [signed, signed_again, Except.ok.inj (typed.symm.trans typed_again)]

end Job.Allots

end Lowering
