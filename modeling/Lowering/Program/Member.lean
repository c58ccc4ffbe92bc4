import Lowering.Program.Scope

/-
This file answers questions about types and their members.
-/

namespace Lowering

namespace Program

variable (program : Program)

def declaredTypeFrom : Nat → DeclId → Answer Ty
  | 0, id => .error (.endless id)
  | steps + 1, id => do
    match (← program.decl id).kind with
    | .product .. => return .product (← program.nominal id)
    | .view _ => return .existential [← program.nominal id]
    | .genericParam | .abstractType => return .genericParam (← program.nominal id)
    | .alias aliased _ => return aliased
    | .typeExtension extended _ => declaredTypeFrom steps extended
    | _ => return .error

/-- The type of an instance; an extension declares the type that it extends. -/
def declaredType (id : DeclId) : Answer Ty := program.declaredTypeFrom program.walkLimit id

/-- The variables that the members of a type introduce and that hold a value, in order. -/
def storedVars (id : DeclId) : Answer (List DeclId) := do
  let names ← (← program.decl id).members.mapM fun member => do
    match (← program.decl member).kind with
    | .binding binding => return if binding.isMember then binding.pattern.names else []
    | _ => return []
  names.flatten.filterM fun var => return (← program.decl var).kind.isStored

/-- The type of a call to a function, without its receiver. -/
def appliedType (decl : Decl) : FunType := decl.ty.asFunction?.getD ⟨[], .error⟩

/-- The receiver's type; a member whose receiver is not declared has one of error type. -/
def receiverType (routine : Routine) : Answer Ty :=
  match routine.self with
  | some self => return (← program.decl self).ty
  | none => return .error

/--
The type of a function with its receiver made explicit. A constructor makes its receiver, so it
takes none.
-/
def unappliedType (id : DeclId) : Answer FunType := do
  let decl ← program.decl id
  let applied := appliedType decl
  match decl.routine? with
  | some routine =>
    if routine.isMember then
      return { applied with params := (← program.receiverType routine) :: applied.params }
    else return applied
  | none => return applied

/-- The declaration of the receiver of a function. -/
def selfDecl (id : DeclId) : Answer (Option DeclId) :=
  return (← program.routine? id).bind Routine.self

/-- A parameter of a function; anything else stands for its own parameter. -/
def param (id : DeclId) (index : Nat) : Answer DeclId := do
  match ← program.routine? id with
  | some routine =>
    match routine.params[index]? with
    | some param => return param
    | none => .error (.noParameter id index)
  | none => return id

end Program

end Lowering
