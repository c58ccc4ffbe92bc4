import Lowering.Program.Scope

/-
This file finds what a function captures from the functions around it.
A nested function builds its closures from the activation of the function around it, so
the references of nested functions count as well.
-/

namespace Lowering

namespace Program

variable (program : Program)

/-- Only a value that an activation holds can be captured. -/
def isCapturable (decl : Decl) : Bool :=
  match decl.kind with
  | .variable _ | .parameter _ => true
  | .function routine => !routine.isBuiltin
  | _ => false

/-- A function captures what belongs to another function around it. -/
def isCapturedBy (root id : DeclId) : Answer Bool := do
  if id = root then return false
  if !isCapturable (← program.decl id) then return false
  match ← program.enclosingFunction id with
  | some owner => if owner = root then return false else program.isStrictAncestor owner root
  | none => return false

/-- A capture is listed where it is first referred to. -/
def captureRef (root : DeclId) (found : List DeclId) (id : DeclId) : Answer (List DeclId) := do
  if ← program.isCapturedBy root id then
    return if id ∈ found then found else found ++ [id]
  else return found

def captureExpr (root : DeclId) (found : List DeclId) (expr : Expr) : Answer (List DeclId) :=
  expr.references.foldlM (program.captureRef root) found

def captureOption (root : DeclId) (found : List DeclId) : Option Expr → Answer (List DeclId)
  | some expr => program.captureExpr root found expr
  | none => .ok found

section Statements

variable (nested : List DeclId → DeclId → Answer (List DeclId)) (root : DeclId)

mutual

/-- A nested function is scanned where it is declared. -/
def captureStmt (found : List DeclId) : Stmt → Answer (List DeclId)
  | .decl id => do
    match (← program.decl id).kind with
    | .binding binding => program.captureOption root found binding.initializer
    | .function _ => nested found id
    | _ => return found
  | .block stmts _ => captureStmts found stmts
  | .returned value _ => program.captureOption root found value
  | .expr expr => program.captureExpr root found expr

def captureStmts (found : List DeclId) : List Stmt → Answer (List DeclId)
  | [] => .ok found
  | stmt :: rest => do captureStmts (← captureStmt found stmt) rest

end

end Statements

def captureRoutine (root : DeclId) : Nat → List DeclId → DeclId → Answer (List DeclId)
  | 0, _, id => .error (.endless id)
  | steps + 1, found, id => do
    match (← program.routine? id).bind Routine.body with
    | some body => program.captureStmts (captureRoutine root steps) root found body.stmts
    | none => return found

/-- The captures of a function, in the order of their first reference. -/
def captures (id : DeclId) : Answer (List DeclId) :=
  program.captureRoutine id program.walkLimit [] id

end Program

end Lowering
