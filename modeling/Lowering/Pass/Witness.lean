import Lowering.Pass.Signature

/-
This file makes witness thunks. A thunk has the signature of a requirement and forwards to the
function that satisfies it for one type.
-/

namespace Lowering

open IR

namespace Job

variable (job : Job)

/-- The receiver of an implementation, out of the container that holds it. -/
def openReceiver (name : String) (requirement implementation : Routine) (container : Value) :
    PassM Value := do
  let ty ← match implementation.self with
    | none => abort (.implementationWithoutReceiver name)
    | some self => pure (← job.program.decl self).ty.base
  if requirement.isMutating then
    let opened ← BuildM.openExistentialAddr container ty
    if implementation.isMutating then return opened else BuildM.load opened
  else
    if implementation.isMutating then abort (.mutatingImplementation name)
    BuildM.openExistential container ty

/-- A constructor returns its receiver as it is, and the thunk packs it into a container. -/
def packResult (result : Value) (resultType required : OperandType) : PassM Value := do
  if resultType.ty ≠ required.ty && required.isExistential then
    let slot ← BuildM.allocStack required.ty
    BuildM.assignValue result resultType.ty slot
    BuildM.load slot
  else return result

/-- Applies an implementation, and returns what it yields as the requirement has it. -/
def relay (id : DeclId) (args : List Value) (required : OperandType) : PassM Unit := do
  let function ← job.declare id
  let resultType := (← job.signature id).result
  let result ← BuildM.apply function args resultType
  BuildM.ret (← packResult result resultType required)

/-- What a thunk does with its arguments: open the receiver and apply the implementation. -/
def forward (name : String) (signature : Signature) (requirement implementation : Routine)
    (id : DeclId) (args : List Value) : PassM Unit := do
  let args ←
    if requirement.isConstructor then pure args
    else
      match args with
      | [] => abort (.requirementWithoutReceiver name)
      | container :: rest =>
        pure ((← job.openReceiver name requirement implementation container) :: rest)
  job.relay id args signature.result

/-- Fills a thunk in a block of its own. -/
def fillThunk (name : String) (signature : Signature) (requirement implementation : Routine)
    (id : DeclId) : PassM Unit := do
  let (entry, args) ← BuildM.createBlock name signature.params
  BuildM.positionAtEnd name entry
  job.forward name signature requirement implementation id args

/-- Emits the thunk for an implementation of a requirement and returns its name. -/
def emitWitness (implementation requirement : DeclId) : PassM String := do
  let required ← job.program.decl requirement
  match required.routine? with
  | none => abort (.requirementNotAFunction required.name)
  | some requiredRoutine =>
    let implementing ← job.program.decl implementation
    match implementing.routine? with
    | none =>
      abort (.implementationNotAFunction required.name implementing.kindText implementing.name)
    | some routine =>
      let name ← NamesM.thunkName job.program implementation requirement
      let signature := Signature.lower (← job.program.unappliedType requirement)
      discard <| BuildM.getOrCreateFunction name signature
      PassM.restoring (job.fillThunk name signature requiredRoutine routine implementation)
      return name

end Job

end Lowering
