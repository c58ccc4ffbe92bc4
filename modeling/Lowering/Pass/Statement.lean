import Lowering.Pass.Expression

/-
This file lowers the statements of a function body.
A nested declaration is lowered by an action that the statements are given.
-/

namespace Lowering

open IR

/-- How control leaves a statement. -/
inductive Flow where
  | fallthrough
  | returned
  /-- The statement returned, and the code after it has been skipped. -/
  | unreachable
deriving DecidableEq, Inhabited, Repr

namespace Frame

variable (frame : Frame)

/-- A local variable has a stack location; one of error type has the error address instead. -/
def emitLocalVar (id : DeclId) : BodyM Value := do
  let decl ← frame.program.decl id
  if decl.ty.isError then
    let value := Value.error (.address .error)
    BodyM.bindLocal id value
    return value
  match decl.kind with
  | .variable true => pure ()
  | .variable false => abort (.computedLocal decl.name)
  | _ => abort (.notAVariable decl.name decl.kindText)
  let location ← BuildM.allocStack (← frame.contextualize decl.ty)
  BodyM.bindLocal id location
  return location

/-- Every name of the pattern gets a location before the initializer is lowered. -/
def emitBinding (binding : Binding) : BodyM Unit := do
  let locations ← binding.pattern.names.mapM frame.emitLocalVar
  match binding.initializer with
  | none => pure ()
  | some initializer =>
    match binding.pattern.single?, locations with
    | some _, location :: _ => frame.emitAssign initializer location
    | none, [] => discard <| frame.emitValue initializer
    | _, _ => abort .destructuringBinding

/-- A constructor evaluates what it returns, and its receiver is returned at its end. -/
def emitReturn (value : Option Expr) : BodyM Unit := do
  if (← frame.routine).isConstructor then
    match value with
    | some expr => discard <| frame.emitValue expr
    | none => pure ()
  else
    let result ← frame.returnType
    let returned ← match value with
      | none => pure Value.unit
      | some expr =>
        if ← frame.needsCoercion expr result then frame.emitCoerced expr result
        else frame.emitValue expr
    BuildM.ret returned

/-- The place of a statement; a declaration has its own. -/
def stmtSpan (program : Program) : Stmt → Answer Span
  | .decl id => return (← program.decl id).span
  | .block _ span => return span
  | .returned _ span => return span
  | .expr expr => return expr.span

/-- The first statement that is never executed is reported, if the options ask for it. -/
def warnUnreachable (stmt : Stmt) : BodyM Unit := do
  if frame.options.warnsUnreachable then
    PassM.report (.unreachable (← stmtSpan frame.program stmt))

/-- A nested function that captures something is bound to a closure in a location of its own. -/
def bindClosure (id : DeclId) : BodyM Unit := do
  let captures ← frame.program.captures id
  if !captures.isEmpty then
    let decl ← frame.program.decl id
    let args ← captures.mapM fun capture => frame.emitReference capture decl.span
    let function ← frame.declare id
    let ty ← frame.contextualize decl.ty
    let location ← BuildM.allocStack ty
    let closure ← BuildM.partialApply function args ty
    BuildM.store closure location
    BodyM.bindLocal id location

section Nested

variable (nested : DeclId → PassM Unit)

def emitLocalFunction (id : DeclId) : BodyM Unit := do
  nested id
  frame.bindClosure id

def emitLocalDecl (id : DeclId) : BodyM Unit := do
  let decl ← frame.program.decl id
  match decl.kind with
  | .binding binding => frame.emitBinding binding
  | .function routine => if !routine.isBuiltin then frame.emitLocalFunction nested id
  | .product .. | .view _ | .abstractType | .alias .. | .typeExtension .. => nested id
  | .module _ | .imported | .variable _ | .parameter _ | .genericParam =>
    abort (.misplacedInBody decl.kindText decl.name)

mutual

def emitStmt : Stmt → BodyM Flow
  | .decl id => do
    frame.emitLocalDecl nested id
    return .fallthrough
  | .block stmts _ => emitStmts stmts
  | .returned value _ => do
    frame.emitReturn value
    return .returned
  | .expr expr => do
    discard <| frame.emitValue expr
    return .fallthrough

/-- Nothing is lowered after a statement that returns. -/
def emitStmts : List Stmt → BodyM Flow
  | [] => return .fallthrough
  | stmt :: rest => do
    match ← emitStmt stmt with
    | .fallthrough => emitStmts rest
    | .unreachable => return .unreachable
    | .returned =>
      match rest with
      | [] => return .returned
      | next :: _ =>
        frame.warnUnreachable next
        return .unreachable

end

end Nested

end Frame

end Lowering
