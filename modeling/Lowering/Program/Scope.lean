import Lowering.Program.Basic

/-
This file follows declarations outwards through the declaration spaces around them.
A walk visits each declaration at most once, so one step more than there are declarations
is enough for every walk that ends.
-/

namespace Lowering

namespace Program

variable (program : Program)

/-- A walk of this many steps has met some declaration twice. -/
def walkLimit : Nat := program.size + 1

/-- This is the function whose activation owns what is declared directly inside `scope`. -/
def ownerFrom : Nat → Option DeclId → Answer (Option DeclId)
  | _, none => .ok none
  | 0, some scope => .error (.endless scope)
  | steps + 1, some scope => do
    let decl ← program.decl scope
    match decl.kind with
    | .function _ => return some scope
    | .module _ | .product .. | .view _ | .typeExtension .. => return none
    | _ => ownerFrom steps decl.parent

/-- The nearest function around a declaration, unless a type or a module lies between. -/
def enclosingFunction (id : DeclId) : Answer (Option DeclId) := do
  program.ownerFrom program.walkLimit (← program.decl id).parent

def isAroundFrom (ancestor : DeclId) : Nat → Option DeclId → Answer Bool
  | _, none => .ok false
  | 0, some scope => .error (.endless scope)
  | steps + 1, some scope =>
    if scope = ancestor then .ok true
    else do isAroundFrom ancestor steps (← program.decl scope).parent

/-- An ancestor is a declaration space around the declaration, at any distance. -/
def isStrictAncestor (ancestor id : DeclId) : Answer Bool := do
  program.isAroundFrom ancestor program.walkLimit (← program.decl id).parent

/-- An extension goes by the name of what it extends, and every constructor has one name. -/
def segment (decl : Decl) : Answer String :=
  match decl.kind with
  | .typeExtension extended _ => return (← program.decl extended).name
  | .function routine => return if routine.isConstructor then "init" else decl.name
  | _ => return decl.name

def pathFrom : Nat → Option DeclId → Answer (List String)
  | _, none => .ok []
  | 0, some id => .error (.endless id)
  | steps + 1, some id => do
    let decl ← program.decl id
    match decl.kind with
    | .module _ => return []
    | _ =>
      let name ← program.segment decl
      return (← pathFrom steps decl.parent) ++ [name]

/-- The names from just below the module down to the declaration. -/
def qualifiedPath (id : DeclId) : Answer (List String) :=
  program.pathFrom program.walkLimit (some id)

/-- The path as one name. -/
def qualifiedName (id : DeclId) : Answer String :=
  return ".".intercalate (← program.qualifiedPath id)

theorem ownerFrom_none (steps : Nat) : program.ownerFrom steps none = .ok none := by
  cases steps <;> rfl

theorem isAroundFrom_none (ancestor : DeclId) (steps : Nat) :
    program.isAroundFrom ancestor steps none = .ok false := by
  cases steps <;> rfl

end Program

end Lowering
