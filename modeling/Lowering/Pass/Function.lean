import Lowering.Pass.Statement

/-
This file fills the functions of a module: arguments, body and end.
-/

namespace Lowering

open IR

namespace Frame

variable (frame : Frame)

/-- A constructor ends by returning its receiver. -/
def emitConstructorEnd (routine : Routine) : BodyM Unit := do
  match routine.self with
  | none => abort .constructorWithoutReceiver
  | some self =>
    match ← BodyM.local? self with
    | none => abort .unboundReceiver
    | some location => BuildM.ret (← BuildM.load location)

/-- What follows the statements of a body that does not end in a return. -/
def emitEnd (body : Body) : BodyM Unit := do
  let routine ← frame.routine
  if routine.isConstructor then emitConstructorEnd routine
  else if ← BodyM.isTerminated then pure ()
  else
    match ← frame.returnType with
    | .nothing => BuildM.halt
    | .unit => BuildM.ret Value.unit
    | _ => PassM.report (.missingReturn body.span.endPoint)

/-- Each stored member is initialized from the parameter at the same place. -/
def emitMemberStores (receiver : Value) : List (DeclId × DeclId) → BodyM Unit
  | [] => pure ()
  | (var, param) :: rest => do
    let member ← frame.program.decl var
    let ty ← frame.contextualize member.ty
    let address ← BuildM.recordMemberAddr receiver var member.name ty
    match ← BodyM.local? param with
    | none => abort (.unboundParameter (← frame.program.decl param).name)
    | some value => BuildM.store value address
    emitMemberStores receiver rest

/-- The only body that is synthesized is that of a memberwise constructor. -/
def emitSynthesized : BodyM Unit := do
  let decl ← frame.program.decl frame.owner
  let routine ← frame.routine
  if !(routine.isSynthesized && routine.isConstructor) then
    abort (.unexpectedSynthesis decl.kindText decl.name)
  match decl.parent with
  | none => abort (.memberwiseOutsideProduct decl.name)
  | some parent =>
    match (← frame.program.decl parent).kind with
    | .product .. =>
      let receiver ← match routine.self with
        | none => abort .unboundReceiver
        | some self =>
          match ← BodyM.local? self with
          | none => abort .unboundReceiver
          | some receiver => pure receiver
      let vars ← frame.program.storedVars parent
      frame.emitMemberStores receiver (vars.zip routine.params)
      BuildM.ret (← BuildM.load receiver)
    | _ => abort (.memberwiseOutsideProduct decl.name)

/-- Lowers the body that a function has, or the one that the compiler writes for it. -/
def emitBody (nested : DeclId → PassM Unit) (routine : Routine) : BodyM Unit := do
  match routine.body with
  | some body =>
    discard <| frame.emitStmts nested body.stmts
    frame.emitEnd body
  | none => frame.emitSynthesized

end Frame

namespace Job

variable (job : Job)

/-- A member finds its receiver in the first argument, and a constructor makes its own. -/
def bindReceiver (name : String) (routine : Routine) (args : List Value) :
    PassM (Locals × List Value) := do
  match routine.self with
  | none => return (Table.empty, args)
  | some self =>
    if routine.isMember then
      match args with
      | [] => abort (.noReceiverArgument name)
      | receiver :: rest => return (Table.empty.insert self receiver, rest)
    else if routine.isConstructor then
      let ty := (← job.program.decl self).ty.base.contextualized routine.env
      return (Table.empty.insert self (← BuildM.allocStack ty), args)
    else abort (.unexpectedReceiver name)

/-- Each declaration takes the next argument. -/
def bindArguments (name : String) (locals : Locals) : List DeclId → List Value → CheckM Locals
  | [], _ => return locals
  | bound :: _, [] => do abort (.missingArgument (← job.program.decl bound).name name)
  | bound :: rest, arg :: args => bindArguments name (locals.insert bound arg) rest args

/-- The arguments of a block are bound: a receiver comes first, then captures, then parameters. -/
def bindEntry (id : DeclId) (routine : Routine) (name : String) (args : List Value) :
    PassM Locals := do
  let (locals, args) ← job.bindReceiver name routine args
  let captures ← job.program.captures id
  job.bindArguments name locals (captures ++ routine.params) args

/-- Fills a function that is only declared so far. -/
def fill (nested : DeclId → PassM Unit) (id : DeclId) (routine : Routine) (name : String)
    (signature : Signature) : PassM Unit := do
  let (entry, args) ← BuildM.createBlock name signature.params
  BuildM.positionAtEnd name entry
  let locals ← job.bindEntry id routine name args
  let frame : Frame := { job with owner := id }
  PassM.activate locals (frame.emitBody nested routine)

/--
Lowers a function or a constructor. One that has no body and needs none is only declared, and the
insertion point is left where it was.
-/
def emitRoutine (nested : DeclId → PassM Unit) (id : DeclId) : PassM Unit := do
  let decl ← job.program.decl id
  match decl.routine? with
  | none => abort (.notAFunction decl.name)
  | some routine =>
    if routine.isBuiltin then return
    discard <| job.declare id
    let name ← NamesM.functionName job.program id
    if routine.body.isNone && !routine.isSynthesized then return
    match (← get).builder.module.function? name with
    | none => abort (.undeclared name)
    | some function =>
      if !function.isDeclaration then abort (.loweredTwice name)
      PassM.restoring (job.fill nested id routine name function.signature)

end Job

end Lowering
