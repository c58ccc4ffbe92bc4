import Lowering.Program.Assembly
import Lowering.Proofs.Program.Occurrence
import Lowering.Proofs.Run
import Mathlib.Data.List.Forall2

/-
This file says how declarations, expressions and values are typed. Only parameters and receivers are
borrowed, every expression has the type that it is made with, and a local has the type of its
declaration.
-/

namespace Lowering

open IR

namespace Ty

/-- Neither the type nor what its calls yield is borrowed; what they take may be. -/
def isOwned : Ty → Bool
  | .inout _ => false
  | .function _ result => result.isOwned
  | _ => true

theorem base_of_isOwned {ty : Ty} (owned : ty.isOwned = true) : ty.base = ty := by
  cases ty <;> first | rfl | cases owned

theorem lower_of_isOwned {ty : Ty} (owned : ty.isOwned = true) :
    OperandType.lower ty = .object ty := by
  cases ty <;> first | rfl | cases owned

theorem isOwned_result {ty : Ty} {funType : FunType} (owned : ty.isOwned = true)
    (function : ty.asFunction? = some funType) : funType.result.isOwned = true := by
  cases ty with
  | function params result =>
    obtain rfl := Option.some.inj function
    exact owned
  | _ => cases function

mutual

/-- Without substitutions a type is seen everywhere as it is. -/
theorem contextualized_eq_self {env : GenericEnv} (none : env.substitutions = []) (ty : Ty) :
    ty.contextualized env = ty := by
  cases ty with
  | genericParam nominal => simp [contextualized, GenericEnv.substitution?, none]
  | union members => simp [contextualized, contextualizedAll_eq_self none members]
  | function params result =>
    simp [contextualized, contextualizedAll_eq_self none params, contextualized_eq_self none result]
  | inout base => simp [contextualized, contextualized_eq_self none base]
  | unit | nothing | error | primitive | product | existential => rfl

theorem contextualizedAll_eq_self {env : GenericEnv} (none : env.substitutions = [])
    (types : List Ty) : contextualizedAll env types = types := by
  cases types with
  | nil => rfl
  | cons ty rest =>
    simp [contextualizedAll, contextualized_eq_self none ty, contextualizedAll_eq_self none rest]

end

end Ty

/-- The value is an error, or it has the type. -/
def IR.Value.Has (value : Value) (type : OperandType) : Prop :=
  value.isError = true ∨ value.type = type

namespace Decl

def isParameter (decl : Decl) : Bool :=
  match decl.kind with
  | .parameter _ => true
  | _ => false

/-- The variables that a binding introduces. -/
def introduced (decl : Decl) : List DeclId :=
  match decl.kind with
  | .binding binding => binding.pattern.names
  | _ => []

end Decl

/-- The member that an expression refers to. -/
def Expr.member? : Expr → Option DeclId
  | .member _ _ id => some id
  | _ => none

namespace Program

variable (program : Program)

/-- No function substitutes its generic parameters. -/
def Monomorphic : Prop :=
  ∀ decl ∈ program.decls.toList, ∀ routine ∈ decl.routine?, routine.env.substitutions = []

/-- The declaration is the receiver of a function. -/
def IsReceiver (id : DeclId) : Prop :=
  ∃ decl ∈ program.decls.toList, ∃ routine ∈ decl.routine?, routine.self = some id

instance (id : DeclId) : Decidable (program.IsReceiver id) :=
  inferInstanceAs (Decidable (∃ decl ∈ program.decls.toList, ∃ routine ∈ decl.routine?, _))

/-- The declaration is the receiver of a constructor or of a mutating method, which borrow it. -/
def IsBorrowed (id : DeclId) : Prop :=
  program.IsReceiver id ∧ ∃ decl ∈ program.find? id, decl.ty.base ≠ decl.ty

instance (id : DeclId) : Decidable (program.IsBorrowed id) :=
  inferInstanceAs (Decidable (_ ∧ ∃ decl ∈ program.find? id, _))

/-- A declaration is borrowed at most outermost, and only if it is a parameter or a receiver. -/
def BorrowsOutermost : Prop :=
  ∀ entry ∈ program.entries, entry.2.ty.base.isOwned = true ∧
    (entry.2.ty.base = entry.2.ty ∨ entry.2.isParameter = true ∨ program.IsReceiver entry.1)

/-- The patterns of bindings introduce no borrowed receivers. -/
def BindsNoReceiver : Prop :=
  ∀ decl ∈ program.decls.toList, ∀ name ∈ decl.introduced, ¬ program.IsBorrowed name

instance : Decidable program.Monomorphic :=
  inferInstanceAs (Decidable (∀ decl ∈ program.decls.toList, ∀ routine ∈ decl.routine?, _))

instance : Decidable program.BorrowsOutermost :=
  inferInstanceAs (Decidable (∀ entry ∈ program.entries, _ ∧ _))

instance : Decidable program.BindsNoReceiver :=
  inferInstanceAs (Decidable (∀ decl ∈ program.decls.toList, ∀ name ∈ decl.introduced, _))

/-- The declaration has a type, and this is it. -/
def Declares (id : DeclId) (ty : Ty) : Prop := ∃ decl, program.find? id = some decl ∧ decl.ty = ty

/-- A function has a function type and declares its receiver and its parameters as that type says. -/
def SignsRoutine (ty : Ty) (routine : Routine) : Prop :=
  ∃ params result, ty = .function params result ∧
    (routine.isBuiltin = false → List.Forall₂ program.Declares routine.params params) ∧
    (routine.isMember = true → routine.self.isSome = true)

def Signed : Prop :=
  ∀ id decl routine, program.find? id = some decl → decl.routine? = some routine →
    program.SignsRoutine decl.ty routine

/-- What is asked of the declarations of a program for its lowering to preserve types. -/
structure Typed : Prop where
  signed : program.Signed
  monomorphic : program.Monomorphic
  borrows : program.BorrowsOutermost
  binds : program.BindsNoReceiver

/-- Every expression has the type that it is made with. -/
inductive Types : Expr → Prop
  | bool {note : Note} {value : Bool} (ty : note.ty = .bool) : Types (.bool note value)
  | int {note : Note} {value : Int64} (ty : note.ty = .int) : Types (.int note value)
  | float {note : Note} {value : Binary64} (ty : note.ty = .double) : Types (.float note value)
  | string {note : Note} {value : String} (ty : note.ty = .string) : Types (.string note value)
  | ref {note : Note} {id : DeclId} {decl : Decl} (found : program.find? id = some decl)
    (ty : note.ty = decl.ty.base) : Types (.ref note id)
  | member {note : Note} {base : Expr} {id : DeclId} {decl : Decl} (typed : Types base)
    (found : program.find? id = some decl) (ty : note.ty = decl.ty.base) :
    Types (.member note base id)
  | call {note : Note} {callee : Expr} {args : List Expr} (typed : Types callee)
    (all : ∀ arg ∈ args, Types arg)
    (ty : note.ty = (callee.ty.asFunction?.map FunType.result).getD .error) :
    Types (.call note callee args)
  | assign {note : Note} {target value : Expr} (left : Types target) (right : Types value)
    (ty : note.ty = .unit) : Types (.assign note target value)
  /-- An address is taken of what is no address itself. -/
  | addressOf {note : Note} {operand : Expr} (typed : Types operand)
    (ty : note.ty = .inout operand.ty) (other : ∀ note inner, operand ≠ .addressOf note inner) :
    Types (.addressOf note operand)
  | error {note : Note} (ty : note.ty = .error) : Types (.error note)

/-- No borrowed receiver is referred to as the member of a base. -/
def SparesReceivers (expr : Expr) : Prop :=
  ∀ inner ∈ expr.walk, ∀ id ∈ inner.member?, ¬ program.IsBorrowed id

instance (expr : Expr) : Decidable (program.SparesReceivers expr) :=
  inferInstanceAs (Decidable (∀ inner ∈ expr.walk, ∀ id ∈ inner.member?, _))

/-- What is bound to a declaration is an object of its type, without inout, or the address of one. -/
def TypesValue (id : DeclId) (value : Value) : Prop :=
  ∃ decl, program.find? id = some decl ∧ (value.isError = true ∨ value.type.ty = decl.ty.base)

def TypesLocals (locals : Locals) : Prop :=
  ∀ id value, locals.get? id = some value → program.TypesValue id value

/-- An expression is read in a program and among locals that are typed as it takes them to be. -/
structure Judges (locals : Locals) (expr : Expr) : Prop where
  declared : program.Typed
  bound : program.TypesLocals locals
  types : program.Types expr
  spares : program.SparesReceivers expr

variable {program}

section Expressions

variable {span : Span} {expr : Expr}

/-- The program's own way to make an expression gives it a type, here and below. -/
theorem types_refExpr {id : DeclId} (made : program.refExpr id span = .ok expr) :
    program.Types expr := by
  obtain ⟨decl, found, made⟩ := (check_bind _ _ _).mp made
  obtain rfl := (check_pure _ _).mp made
  exact .ref (decl_eq_ok.mp found) rfl

theorem Types.memberExpr {base : Expr} (typed : program.Types base) {id : DeclId}
    (made : program.memberExpr base id span = .ok expr) : program.Types expr := by
  obtain ⟨decl, found, made⟩ := (check_bind _ _ _).mp made
  obtain rfl := (check_pure _ _).mp made
  exact .member typed (decl_eq_ok.mp found) rfl

theorem Types.ofCall {callee : Expr} (typed : program.Types callee) {args : List Expr}
    (all : ∀ arg ∈ args, program.Types arg) : program.Types (.ofCall callee args span) := by
  refine .call typed all ?_
  cases callee.ty.asFunction? <;> rfl

theorem Types.ofAssign {target value : Expr} (left : program.Types target)
    (right : program.Types value) : program.Types (.ofAssign target value span) :=
  .assign left right rfl

theorem Types.ofAddress {operand : Expr} (typed : program.Types operand)
    (other : ∀ note inner, operand ≠ .addressOf note inner) :
    program.Types (.ofAddress operand span) :=
  .addressOf typed rfl other

end Expressions

theorem BorrowsOutermost.owned (borrows : program.BorrowsOutermost) {id : DeclId} {decl : Decl}
    (found : program.find? id = some decl) : decl.ty.base.isOwned = true :=
  (borrows (id, decl) (mem_entries found)).1

/-- The type of an expression is not borrowed, unless the expression takes an address. -/
theorem Types.owned (borrows : program.BorrowsOutermost) {expr : Expr}
    (typed : program.Types expr) (other : ∀ note operand, expr ≠ .addressOf note operand) :
    expr.ty.isOwned = true := by
  have given {note : Note} {ty : Ty} (same : note.ty = ty) (owned : ty.isOwned = true) :
      note.ty.isOwned = true := same ▸ owned
  induction typed with
  | bool ty | int ty | float ty | string ty | assign _ _ ty | error ty => exact given ty rfl
  | ref found ty | member _ found ty => exact given ty (borrows.owned found)
  | @call note callee args typed all ty callee_ih =>
    refine given ty ?_
    cases function : callee.ty.asFunction? with
    | none => rfl
    | some funType =>
      refine Ty.isOwned_result (callee_ih ?_) function
      rintro inner operand rfl
      cases typed with
      | addressOf _ same _ =>
        have impossible : inner.ty.asFunction? = some funType := function
        rw [same] at impossible
        cases impossible
  | addressOf _ _ => exact (other _ _ rfl).elim

/-- What is not borrowed is its own base. -/
theorem Types.base_eq (borrows : program.BorrowsOutermost) {expr : Expr}
    (typed : program.Types expr) (other : ∀ note operand, expr ≠ .addressOf note operand) :
    expr.ty.base = expr.ty :=
  Ty.base_of_isOwned (typed.owned borrows other)

/-- A stored variable that is no borrowed receiver is not borrowed. -/
theorem BorrowsOutermost.base_eq (borrows : program.BorrowsOutermost) {id : DeclId} {decl : Decl}
    (found : program.find? id = some decl) (stored : decl.kind.isStored = true)
    (other : ¬ program.IsBorrowed id) : decl.ty.base = decl.ty := by
  rcases (borrows (id, decl) (mem_entries found)).2 with same | parameter | receiver
  · exact same
  · cases kind : decl.kind <;> simp_all [Decl.isParameter, DeclKind.isStored]
  · by_contra apart
    exact other ⟨receiver, decl, found, apart⟩

/-- The type of a function is not borrowed. -/
theorem Signed.base_eq (signed : program.Signed) {id : DeclId} {decl : Decl} {routine : Routine}
    (found : program.find? id = some decl) (listed : decl.routine? = some routine) :
    decl.ty.base = decl.ty := by
  obtain ⟨params, result, typed, _⟩ := signed id decl routine found listed
  rw [typed]
  rfl

namespace TypesValue

variable {id : DeclId} {value : Value} {decl : Decl} (typed : program.TypesValue id value)
  (found : program.find? id = some decl)

include typed found

theorem ty_or_error : value.isError = true ∨ value.type.ty = decl.ty.base := by
  obtain ⟨other, again, typed⟩ := typed
  obtain rfl := Option.some.inj (again.symm.trans found)
  exact typed

/-- What can be loaded is the location of an object of the declaration's type. -/
theorem ty_of_location (place : (value.isAddress && !value.isError) = true) :
    value.type.ty = decl.ty.base := by
  obtain ⟨_, sound⟩ := Bool.and_eq_true_iff.mp place
  rcases typed.ty_or_error found with error | same
  · rw [error] at sound
    cases sound
  · exact same

/-- What cannot be loaded is such an object itself. -/
theorem has_object (object : (value.isAddress && !value.isError) = false) :
    value.Has (.object decl.ty.base) := by
  rcases typed.ty_or_error found with error | same
  · exact Or.inl error
  · by_cases error : value.isError = true
    · exact Or.inl error
    · have object : value.type.isAddress = false := by
        simpa [error, Value.isAddress] using object
      exact Or.inr (by rw [← same, OperandType.object, ← object])

end TypesValue

theorem TypesLocals.insert {locals : Locals} (bound : program.TypesLocals locals) {id : DeclId}
    {value : Value} (typed : program.TypesValue id value) :
    program.TypesLocals (locals.insert id value) := by
  intro other kept found
  by_cases same : other = id
  · subst same
    obtain rfl : value = kept := by simpa using found
    exact typed
  · rw [Table.get?_insert_of_ne _ _ _ _ same] at found
    exact bound other kept found

namespace Judges

variable {locals : Locals} {note : Note}

/-- What is judged of an expression is judged of what stands in it. -/
theorem of_walk {outer inner : Expr} (judged : program.Judges locals outer)
    (below : inner ∈ outer.walk) (types : program.Types inner) : program.Judges locals inner where
  declared := judged.declared
  bound := judged.bound
  types := types
  spares deeper inside := judged.spares deeper (Expr.mem_walk_trans outer below inside)

theorem spared {base : Expr} {id : DeclId} (judged : program.Judges locals (.member note base id)) :
    ¬ program.IsBorrowed id :=
  judged.spares _ (Expr.mem_walk_self _) id rfl

theorem operand {operand : Expr} (judged : program.Judges locals (.addressOf note operand)) :
    program.Judges locals operand := by
  refine judged.of_walk (List.mem_cons_of_mem _ operand.mem_walk_self) ?_
  cases judged.types with
  | addressOf typed => exact typed

end Judges

end Program

end Lowering
