import Lowering.Pass.Location

/-
This file lowers expressions to values.
What lowers an expression and its operands is passed to the steps around it, so that the
lowering itself follows the expression.
-/

namespace Lowering

open IR

namespace Frame

variable (frame : Frame)

/--
The value of an expression, given what lowers it. An expression of error type is not lowered, and
a failure is reported.
-/
def emitWith (expr : Expr) (lowered : Attempt Value) : BodyM Value := do
  if expr.ty.isError then return Value.error (.lower expr.ty)
  lowered.recover fun failure => do
    BodyM.report failure expr.span
    return Value.error (.lower expr.ty)

/-- An existential expression that denotes a location is copied from there. -/
def copyFrom? (expr : Expr) (location : Value) (ty : Ty) : BodyM Bool := do
  if !(location.type.isExistential && ty.isExistential) then return false
  match ← (frame.location expr).run with
  | .error _ => return false
  | .ok source =>
    if source.isError then return false
    let source ← if ty ≠ location.type.ty then BuildM.unsafeCastAddr source location.type.ty
      else pure source
    BuildM.copyAddr source location
    return true

/-- Stores an expression at a location, given what lowers its value. -/
def assignWith (expr : Expr) (value : BodyM Value) (location : Value) : BodyM Unit := do
  if location.isError then
    discard value
  else
    let ty ← frame.contextualize expr.ty
    if !(← frame.copyFrom? expr location ty) then
      let value ← value
      BuildM.assignValue value ty location

/-- The value of an expression as another type, through a temporary location. -/
def coerceWith (expr : Expr) (value : BodyM Value) (target : Ty) : BodyM Value := do
  let temporary ← BuildM.allocStack target
  frame.assignWith expr value temporary
  BuildM.load temporary

/-- Whether an expression takes on a type by being packed or copied into a container. -/
def needsCoercion (expr : Expr) (target : Ty) : CheckM Bool :=
  if target.isExistential && !expr.ty.isError then
    return (← frame.contextualize expr.ty) ≠ target
  else return false

/-- An inout parameter takes a location, and an existential one may take a coercion. -/
def argumentWith (param : Ty) (arg : Expr) (value : BodyM Value) : BodyM Value := do
  match param with
  | .inout _ => frame.emitLocation arg
  | _ => if ← frame.needsCoercion arg param then frame.coerceWith arg value param else value

/-- Stores a value in a temporary location. -/
def spill (expr : Expr) (value : BodyM Value) : BodyM Value := do
  let value ← value
  let temporary ← BuildM.allocStack (← frame.contextualize expr.ty)
  BuildM.store value temporary
  return temporary

/--
Reads a member through the location of its base. A base without one is first stored in a temporary
location.
-/
def readMember (base : Expr) (value : BodyM Value) (id : DeclId) (name : String) (ty : Ty) :
    Attempt Value := do
  let record ← (frame.location base).recover fun _ => frame.spill base value
  let address ← BuildM.recordMemberAddr record id name (← frame.contextualize ty)
  BuildM.load address

/-- The value of a stored member. -/
def memberWith (base : Expr) (value : BodyM Value) (id : DeclId) : Attempt Value := do
  let decl ← frame.program.decl id
  match decl.kind with
  | .function _ => fail (.unsupported s!"unapplied reference to method '{decl.name}'")
  | kind =>
    if !kind.isStored then
      fail (.unsupported s!"reference to member {decl.kindText} '{decl.name}'")
  if base.ty.isExistential then fail (.existentialDispatch decl.name base.ty)
  frame.readMember base value id decl.name decl.ty

/-- A call passes as many arguments as the callee takes. -/
def requireArity (params : List Ty) (args : List Expr) : CheckM Unit :=
  if params.length = args.length then pure ()
  else abort (.argumentCount args.length params.length)

/-- Lowers the arguments of a call and applies the function. A receiver comes before them. -/
def callWith (id : DeclId) (params : List Ty) (argCheck : List Ty → CheckM Unit)
    (argValues : List Ty → BodyM (List Value)) (result : OperandType) (receiver : List Value) :
    Attempt Value := do
  argCheck params
  let args ← argValues params
  let function ← frame.declare id
  BuildM.apply function (receiver ++ args) result

/-- A method takes its receiver first: by address if it is mutating, and by value otherwise. -/
def methodWith (base : Expr) (value : BodyM Value) (id : DeclId) (routine : Routine)
    (argCheck : List Ty → CheckM Unit) (argValues : List Ty → BodyM (List Value))
    (result : OperandType) : Attempt Value := do
  let decl ← frame.program.decl id
  if base.ty.isExistential then fail (.existentialDispatch decl.name base.ty)
  match (← frame.contextualize decl.ty).asFunction? with
  | none => fail (.notCallable decl.ty)
  | some funType =>
    let receiver ← if !routine.isMember then pure []
      else if routine.isMutating then pure [← frame.emitLocation base]
      else pure [← value]
    frame.callWith id funType.params argCheck argValues result receiver

/-- The arguments of a callee that failed to lower are not lowered. -/
def applyWith (callee : Expr) (value : BodyM Value) (argCheck : List Ty → CheckM Unit)
    (argValues : List Ty → BodyM (List Value)) (result : OperandType) : Attempt Value := do
  match (← frame.contextualize callee.ty).asFunction? with
  | none => fail (.notCallable callee.ty)
  | some funType =>
    let function ← value
    if function.isError then return Value.error result
    argCheck funType.params
    let args ← argValues funType.params
    BuildM.apply function args result

/-- The method that a callee names, if it is a member reference to one. -/
def method? (id : DeclId) : CheckM (Option Routine) := frame.program.routine? id

mutual

/-- The value of an expression. -/
def value : Expr → Attempt Value
  | .bool _ value => return Value.bool value
  | .int _ value => return Value.int value
  | .float _ value => return Value.float value
  | .string _ value => return Value.string value
  | .ref _ id => frame.reference id
  | .member _ base id => frame.memberWith base (emitWith base (value base)) id
  | .call note callee args => do
    let result := OperandType.object (← frame.contextualize note.ty)
    let argCheck (params : List Ty) := requireArity params args
    let argValues (params : List Ty) := arguments params args
    match callee with
    | .member calleeNote base id =>
      match ← frame.method? id with
      | some routine =>
        frame.methodWith base (emitWith base (value base)) id routine argCheck argValues result
      | none =>
        let callee := Expr.member calleeNote base id
        let member := frame.memberWith base (emitWith base (value base)) id
        frame.applyWith callee (emitWith callee member) argCheck argValues result
    | callee => frame.applyWith callee (emitWith callee (value callee)) argCheck argValues result
  | .assign _ target source => do
    let location ← frame.emitLocation target
    frame.assignWith source (emitWith source (value source)) location
    return Value.unit
  | .addressOf _ operand => frame.location operand
  | .error note => return Value.error (.lower note.ty)

/-- The values of the arguments, from left to right. -/
def arguments : List Ty → List Expr → BodyM (List Value)
  | param :: params, arg :: args => do
    let first ← frame.argumentWith param arg (emitWith arg (value arg))
    return first :: (← arguments params args)
  | _, _ => return []

end

/-- The value of an expression, with failures reported. -/
def emitValue (expr : Expr) : BodyM Value := emitWith expr (frame.value expr)

/-- Stores the value of an expression at a location. -/
def emitAssign (expr : Expr) (location : Value) : BodyM Unit :=
  frame.assignWith expr (frame.emitValue expr) location

/-- Stores the value of an expression at the location of another. -/
def emitAssignment (target source : Expr) : BodyM Unit := do
  frame.emitAssign source (← frame.emitLocation target)

/-- The value of an expression as another type. -/
def emitCoerced (expr : Expr) (target : Ty) : BodyM Value :=
  frame.coerceWith expr (frame.emitValue expr) target

/-- The value of a stored member of an expression. -/
def memberValue (base : Expr) (id : DeclId) : Attempt Value :=
  frame.memberWith base (frame.emitValue base) id

end Frame

end Lowering
