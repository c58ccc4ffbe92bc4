import Lowering.Pass.Signature

/-
This file lowers expressions to the locations that they denote, and references to values.
-/

namespace Lowering

open IR

namespace Frame

variable (frame : Frame)

def fail {A : Type} (failure : Unlowerable) : Attempt A := throw failure

/-- Only a variable or a parameter stands for a value that its activation must hold. -/
def isLocalKind : DeclKind → Bool
  | .variable _ | .parameter _ => true
  | _ => false

/-- The address of the storage that an expression denotes. Nothing is emitted when it fails. -/
def location (expr : Expr) : Attempt Value :=
  if expr.ty.isError then return Value.error (.address .error)
  else match expr with
    | .ref note id => do
      match ← BodyM.local? id with
      | some value =>
        if value.isAddress || value.isError then return value else fail (.notAddressable note.ty)
      | none =>
        let decl ← frame.program.decl id
        if isLocalKind decl.kind then fail (.unbound decl.name) else fail (.notAddressable note.ty)
    | .member note base id => do
      let decl ← frame.program.decl id
      if !decl.kind.isStored then fail (.notAddressable note.ty)
      if base.ty.isExistential then fail (.existentialDispatch decl.name base.ty)
      let record ← location base
      let ty ← frame.contextualize decl.ty
      BuildM.recordMemberAddr record id decl.name ty
    | .addressOf _ operand => location operand
    | other => fail (.notAddressable other.ty)

/-- A failure is reported, and the error address takes the place of the location. -/
def emitLocation (expr : Expr) : BodyM Value :=
  (frame.location expr).recover fun failure => do
    BodyM.report failure expr.span
    return Value.error (.address expr.ty.base)

/-- The values that a function referring to itself closes over. -/
def captureValues : List DeclId → Attempt (List Value)
  | [] => return []
  | capture :: rest => do
    match ← BodyM.local? capture with
    | some value => return value :: (← captureValues rest)
    | none => fail (.unbound (← frame.program.decl capture).name)

/-- A function that refers to itself is closed over what its captures are bound to. -/
def ownClosure (id : DeclId) (captures : List DeclId) (ty : Ty) : Attempt Value := do
  let args ← frame.captureValues captures
  let function ← frame.declare id
  let ty ← frame.contextualize ty
  BuildM.partialApply function args ty

/--
The value of a declaration. A location is loaded, and a function that is not bound is referred
to by its name.
-/
def reference (id : DeclId) : Attempt Value := do
  match ← BodyM.local? id with
  | some value => if value.isAddress && !value.isError then BuildM.load value else return value
  | none =>
    let decl ← frame.program.decl id
    match decl.kind with
    | .function routine =>
      if routine.isBuiltin then return Value.builtin decl.name decl.ty
      if routine.isMember then
        fail (.unsupported s!"reference to method '{decl.name}' without a receiver")
      let captures ← frame.program.captures id
      if captures.isEmpty then return ← frame.declare id
      if id ≠ frame.owner then
        fail (.unsupported s!"reference to local function '{decl.name}' before its declaration")
      frame.ownClosure id captures decl.ty
    | kind =>
      if isLocalKind kind then fail (.unbound decl.name)
      else fail (.unsupported s!"reference to {decl.kindText} '{decl.name}' as a value")

/-- A failure is reported at the given place, and the error value takes the place of the value. -/
def emitReference (id : DeclId) (span : Span) : BodyM Value :=
  (frame.reference id).recover fun failure => do
    BodyM.report failure span
    return Value.error (.lower (← frame.program.decl id).ty.base)

end Frame

end Lowering
