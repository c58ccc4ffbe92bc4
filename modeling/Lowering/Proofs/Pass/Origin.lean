import Lowering.Pass.Declaration
import Lowering.Proofs.Pass.Growth
import Lowering.Proofs.Program.Occurrence

/-
This file says where the functions that are called come from: a reference to a function that
captures nothing, the method of a call, or the implementation behind a thunk.
-/

namespace Lowering

open IR

/-- A local is bound to a temporary, or to the error value in its place. -/
def IR.Value.IsLocal (value : Value) : Prop := value.isError = true ∨ value.temp?.isSome = true

/-- A value that needs neither the function nor the module around it. -/
def IR.Value.IsLiteral (value : Value) : Prop :=
  value.isError = false ∧ value.temp? = none ∧ ∀ name, value.kind ≠ .function name

/-- The name is a use of the qualified name of the declaration. -/
def Program.HasName (program : Program) (id : DeclId) (name : String) : Prop :=
  ∃ path uses, program.qualifiedName id = .ok path ∧ name = NamesM.numbered path uses

namespace Job

variable (job : Job)

/-- The value refers to the function that was declared for a declaration. -/
def Declared (pass : Pass) (id : DeclId) (value : Value) : Prop :=
  ∃ name signature function, pass.names.assigned.get? id = some name ∧
    job.signature id = .ok signature ∧ value = Value.function name signature.funType ∧
    pass.builder.module.function? name = some function ∧ function.signature = signature

/-- Only a reference to a function that captures nothing has a function as its value. -/
def Refers (pass : Pass) (expr : Expr) (value : Value) : Prop :=
  ∀ name, value.kind = .function name → ∃ note id decl routine, expr = .ref note id ∧
    job.program.decl id = .ok decl ∧ decl.routine? = some routine ∧ routine.isMember = false ∧
    job.program.captures id = .ok [] ∧ job.Declared pass id value

/-- The value of the callee is called. -/
def CallsValue (pass : Pass) (function : Value) (args : List Value) : Prop :=
  ∃ callee funType, ∃ env : GenericEnv, job.program.Occurs callee ∧
    job.Refers pass callee function ∧
    (callee.ty.contextualized env).asFunction? = some funType ∧
    args.length = funType.params.length

/-- A method is called, with a receiver if it is a member. -/
def CallsMethod (pass : Pass) (function : Value) (args : List Value) : Prop :=
  ∃ id decl routine funType, ∃ env : GenericEnv, job.program.decl id = .ok decl ∧
    decl.routine? = some routine ∧ job.Declared pass id function ∧
    (decl.ty.contextualized env).asFunction? = some funType ∧
    args.length = (if routine.isMember then 1 else 0) + funType.params.length

/-- A thunk for a requirement calls the implementation. -/
def CallsImplementation (pass : Pass) (function : Value) (args : List Value) : Prop :=
  ∃ id decl members conformances env conformance entry required requirement unapplied,
    job.program.decl id = .ok decl ∧ decl.kind = .product members conformances env ∧
    conformance ∈ conformances ∧ entry ∈ conformance.entries ∧
    job.program.decl entry.requirement = .ok required ∧ required.routine? = some requirement ∧
    job.Declared pass entry.implementation function ∧
    job.program.unappliedType entry.requirement = .ok unapplied ∧
    args.length = unapplied.params.length

/-- Every call has one of the three origins. -/
def Sanctioned (pass : Pass) (instruction : Instruction) : Prop :=
  ∀ result function args type, instruction = .apply result function args type →
    job.CallsValue pass function args ∨ job.CallsMethod pass function args ∨
      job.CallsImplementation pass function args

variable {job}

theorem Declared.of_grows {before after : Pass} {opened : Option Cursor}
    (grown : before.Grows opened after) {id : DeclId} {value : Value}
    (declared : job.Declared before id value) : job.Declared after id value := by
  obtain ⟨name, signature, function, assigned, signed, same, found, typed⟩ := declared
  obtain ⟨later, foundLater, growth⟩ := grown.module.functions name function found
  exact ⟨name, signature, later, grown.names id name assigned, signed, same, foundLater,
    growth.signature.trans typed⟩

theorem Refers.of_grows {before after : Pass} {opened : Option Cursor}
    (grown : before.Grows opened after) {expr : Expr} {value : Value}
    (refers : job.Refers before expr value) : job.Refers after expr value := by
  intro name kind
  obtain ⟨note, id, decl, routine, same, found, listed, free, none, declared⟩ := refers name kind
  exact ⟨note, id, decl, routine, same, found, listed, free, none, declared.of_grows grown⟩

/-- A value that is no function refers to none. -/
theorem refers_of_kind (pass : Pass) (expr : Expr) {value : Value}
    (other : ∀ name, value.kind ≠ .function name) : job.Refers pass expr value :=
  fun name kind => (other name kind).elim

theorem Sanctioned.of_not_apply (pass : Pass) {instruction : Instruction}
    (other : ∀ result function args type, instruction ≠ .apply result function args type) :
    job.Sanctioned pass instruction :=
  fun result function args type same => (other result function args type same).elim

end Job

end Lowering
