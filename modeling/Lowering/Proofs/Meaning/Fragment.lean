import Lowering.Pass.Signature
import Lowering.Proofs.Meaning.Source
import Lowering.Proofs.Pass.Expression

/-
This file delimits the functions whose meaning is known: those that capture nothing, take everything
by value, and have a body of local bindings, blocks, returns, and expressions without calls.
-/

namespace Lowering

open IR

/-- The types of values that have no container and no caller. -/
def Ty.isPlain : Ty → Bool
  | .unit | .nothing | .primitive _ | .product _ => true
  | _ => false

namespace Ty

variable {ty : Ty}

theorem contextualized_of_isPlain (plain : ty.isPlain = true) (env : GenericEnv) :
    ty.contextualized env = ty := by
  cases ty <;> first | rfl | cases plain

theorem isExistential_of_isPlain (plain : ty.isPlain = true) : ty.isExistential = false := by
  cases ty <;> first | rfl | cases plain

theorem isError_of_isPlain (plain : ty.isPlain = true) : ty.isError = false := by
  cases ty <;> first | rfl | cases plain

theorem lower_of_isPlain (plain : ty.isPlain = true) : OperandType.lower ty = .object ty := by
  cases ty <;> first | rfl | cases plain

end Ty

namespace Program

variable (program : Program)

/-- The receiver, a parameter, or a variable. -/
def isVariable (id : DeclId) : Bool := (program.find? id).any fun decl => Frame.isLocalKind decl.kind

def isStoredMember (id : DeclId) : Bool :=
  (program.find? id).any fun decl => decl.kind.isStored && decl.ty.isPlain

/-- Literals, variables, their stored members, and assignments. -/
def isCallFree : Expr → Bool
  | .bool note _ | .int note _ | .float note _ | .string note _ => note.ty.isPlain
  | .ref note id => note.ty.isPlain && program.isVariable id
  | .member note base id => note.ty.isPlain && isCallFree base && program.isStoredMember id
  | .assign note target source => note.ty.isPlain && isCallFree target && isCallFree source
  | .call .. | .addressOf .. | .error _ => false

/-- A binding of a single name. -/
def isLocalBinding (id : DeclId) : Bool :=
  (program.binding? id).any fun (var, initializer) =>
    ((program.find? var).any fun decl => decl.ty.isPlain) && initializer.all program.isCallFree

mutual

def isElementary : Stmt → Bool
  | .decl id => program.isLocalBinding id
  | .block stmts _ => areElementary stmts
  | .returned value _ => value.all program.isCallFree
  | .expr value => program.isCallFree value

def areElementary : List Stmt → Bool
  | [] => true
  | stmt :: rest => isElementary stmt && areElementary rest

end

/-- The receiver is passed by value, and that of a constructor has a plain type. -/
def hasPlainReceiver (routine : Routine) : Bool :=
  routine.self.all fun self => (program.find? self).any fun decl => decl.ty.base.isPlain

/-- A function, a non-mutating method or a constructor of the fragment. -/
def isElementaryRoutine (id : DeclId) : Bool :=
  (program.find? id).any fun decl => decl.routine?.any fun routine => routine.body.any fun body =>
    !routine.isBuiltin && (program.captures id).toOption == some [] &&
      program.hasPlainReceiver routine &&
      ((program.unappliedType id).toOption.any fun unapplied =>
        unapplied.params.all Ty.isPlain && unapplied.result.isPlain) &&
      program.areElementary body.stmts

/-- What is known of a function of the fragment. -/
structure Elementary (id : DeclId) (decl : Decl) (routine : Routine) (body : Body) : Prop where
  found : program.decl id = .ok decl
  listed : decl.routine? = some routine
  given : routine.body = some body
  written : routine.isBuiltin = false
  captures : program.captures id = .ok []
  receiver : program.hasPlainReceiver routine = true
  typed : ∃ unapplied, program.unappliedType id = .ok unapplied ∧
    (∀ ty ∈ unapplied.params, ty.isPlain = true) ∧ unapplied.result.isPlain = true
  body : program.areElementary body.stmts = true

variable {program} {id : DeclId}

theorem ok_of_toOption {A : Type} {answer : Answer A} {value : A}
    (given : answer.toOption = some value) : answer = .ok value := by
  cases answer with
  | ok found => rw [Option.some.inj given]
  | error => cases given

theorem elementary_of_isElementaryRoutine (elementary : program.isElementaryRoutine id = true) :
    ∃ decl routine body, program.Elementary id decl routine body := by
  obtain ⟨decl, found, elementary⟩ := (Option.any_eq_true _ _).mp elementary
  obtain ⟨routine, listed, elementary⟩ := (Option.any_eq_true _ _).mp elementary
  obtain ⟨body, given, elementary⟩ := (Option.any_eq_true _ _).mp elementary
  simp only [Bool.and_eq_true, Bool.not_eq_true', beq_iff_eq] at elementary
  obtain ⟨⟨⟨⟨written, captures⟩, receiver⟩, typed⟩, stmts⟩ := elementary
  obtain ⟨unapplied, asked, plain⟩ := (Option.any_eq_true _ _).mp typed
  simp only [Bool.and_eq_true, List.all_eq_true] at plain
  exact ⟨decl, routine, body, decl_eq_ok.mpr found, listed, given, written,
    ok_of_toOption captures, receiver, ⟨unapplied, ok_of_toOption asked, plain⟩, stmts⟩

theorem isPlain_of_isCallFree {expr : Expr} (free : program.isCallFree expr = true) :
    expr.ty.isPlain = true := by
  cases expr <;> simp_all [isCallFree, Expr.ty, Expr.note]

theorem exists_of_isVariable (variable_ : program.isVariable id = true) :
    ∃ decl, program.decl id = .ok decl ∧ Frame.isLocalKind decl.kind = true := by
  obtain ⟨decl, found, local_⟩ := (Option.any_eq_true _ _).mp variable_
  exact ⟨decl, decl_eq_ok.mpr found, local_⟩

theorem exists_of_isStoredMember (stored : program.isStoredMember id = true) :
    ∃ decl, program.decl id = .ok decl ∧ decl.kind.isStored = true ∧ decl.ty.isPlain = true := by
  obtain ⟨decl, found, stored⟩ := (Option.any_eq_true _ _).mp stored
  exact ⟨decl, decl_eq_ok.mpr found, by simpa using stored⟩

/-- A local binding of a single name, with what there is to know about it. -/
theorem exists_of_isLocalBinding (local_ : program.isLocalBinding id = true) :
    ∃ decl binding var variable_, program.decl id = .ok decl ∧ decl.kind = .binding binding ∧
      binding.pattern.single? = some var ∧
      program.binding? id = some (var, binding.initializer) ∧
      program.decl var = .ok variable_ ∧ variable_.ty.isPlain = true ∧
      ∀ initializer ∈ binding.initializer, program.isCallFree initializer = true := by
  obtain ⟨⟨var, initializer⟩, names, plain⟩ := (Option.any_eq_true _ _).mp local_
  simp only [Bool.and_eq_true, Option.all_eq_true] at plain
  obtain ⟨variable_, found, typed⟩ := (Option.any_eq_true _ _).mp plain.1
  obtain ⟨decl, declared, rest⟩ := Option.bind_eq_some_iff.mp names
  cases kind : decl.kind with
  | binding binding =>
    rw [kind] at rest
    obtain ⟨start, single, same⟩ := Option.bind_eq_some_iff.mp rest
    obtain ⟨rfl, rfl⟩ : start = var ∧ binding.initializer = initializer := by simpa using same
    exact ⟨decl, binding, start, variable_, decl_eq_ok.mpr declared, kind, single, names,
      decl_eq_ok.mpr found, typed, plain.2⟩
  | _ =>
    rw [kind] at rest
    cases rest

end Program

/-- A pattern of a single name introduces that name alone. -/
theorem Pattern.names_of_single? {pattern : Pattern} {var : DeclId}
    (single : pattern.single? = some var) : pattern.names = [var] := by
  cases pattern with
  | named id =>
    obtain rfl : id = var := Option.some.inj single
    rfl
  | tuple elements =>
    match elements, single with
    | [element], single =>
      have inner : element.names = [var] := names_of_single? single
      simpa [names, namesAll] using inner
  | wildcard => cases single

end Lowering
