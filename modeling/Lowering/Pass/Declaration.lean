import Lowering.Pass.Function
import Lowering.Pass.Witness

/-
This file lowers declarations in source order.
A chain of nested declarations that never ends would come back to one of its declarations. A
function in it would then be lowered twice, which aborts the pass after at most as many steps
again, so the limit below is only reached by chains without a function.
-/

namespace Lowering

open IR

namespace Job

variable (job : Job)

def nestingLimit : Nat := 2 * job.program.size + 2

/-- A stored member is a field of its type, for which nothing is emitted. -/
def checkProperty (name : String) (binding : Binding) : CheckM Unit := do
  if !binding.isMember then abort (.localBindingAsMember name)
  binding.pattern.names.forM fun var => do
    let decl ← job.program.decl var
    if !decl.kind.isStored then abort (.computedProperty decl.name)
  if binding.initializer.isSome then abort (.initializedMember name)

/-- The entries for those requirements of a view that are functions, with their thunks. -/
def emitEntries : List ConformanceEntry → PassM (List WitnessEntry)
  | [] => return []
  | entry :: rest => do
    let requirement ← job.program.decl entry.requirement
    if requirement.routine?.isNone then emitEntries rest
    else
      let thunk ← job.emitWitness entry.implementation entry.requirement
      return ⟨entry.requirement, requirement.name, thunk⟩ :: (← emitEntries rest)

/-- A witness table is added once all of its thunks are there. -/
def emitConformance (ty : Ty) (conformance : Conformance) : PassM Unit := do
  let view ← job.program.nominal conformance.view
  let entries ← job.emitEntries conformance.entries
  BuildM.addWitnessTable ⟨ty, view, entries⟩

section Nested

variable (nested : DeclId → PassM Unit)

def emitMember (id : DeclId) : PassM Unit := do
  let decl ← job.program.decl id
  match decl.kind with
  | .binding binding => job.checkProperty decl.name binding
  | _ => nested id

/-- The witness tables of a type come before its members. -/
def emitProduct (id : DeclId) (members : List DeclId) (conformances : List Conformance) :
    PassM Unit := do
  let ty ← job.program.declaredType id
  conformances.forM (job.emitConformance ty)
  members.forM (job.emitMember nested)

/-- One level of declarations; those below are lowered by the given action. -/
def emitLevel (id : DeclId) : PassM Unit := do
  let decl ← job.program.decl id
  match decl.kind with
  | .module members => members.forM nested
  | .imported => abort (.importedDeclaration decl.name)
  | .binding _ => abort (.topLevelBinding decl.name)
  | .function _ => job.emitRoutine nested id
  | .product members conformances _ => job.emitProduct nested id members conformances
  | .typeExtension _ members => members.forM (job.emitMember nested)
  | .view _ | .abstractType => pure ()
  | .alias _ conformances => if !conformances.isEmpty then abort (.conformingAlias decl.name)
  | .variable _ | .parameter _ | .genericParam => abort (.misplaced decl.kindText decl.name)

end Nested

def emitWithin : Nat → DeclId → PassM Unit
  | 0, id => (throw (.query (.endless id)) : PassM Unit)
  | levels + 1, id => job.emitLevel (emitWithin levels) id

/-- Lowers a declaration of a module, or a type inside a function body. -/
def emitDecl (id : DeclId) : PassM Unit := job.emitWithin job.nestingLimit id

/-- Lowers a function or a constructor with everything inside it. -/
def emitFunction (id : DeclId) : PassM Unit := job.emitRoutine job.emitDecl id

/-- Lowers every member of a module, in source order. -/
def emitModule (id : DeclId) : PassM Unit := do
  let decl ← job.program.decl id
  match decl.kind with
  | .module members => members.forM job.emitDecl
  | _ => abort (.notAModule decl.name decl.kindText)

end Job

/-- What a pass leaves behind. -/
structure Lowered where
  module : Module
  report : Report
deriving DecidableEq, Inhabited, Repr

/-- The module is accepted unless an error was reported. -/
def Lowered.result (lowered : Lowered) : Except Report Module :=
  if lowered.report.containsError then .error lowered.report else .ok lowered.module

/-- Lowers a module declaration of a program. -/
def lower (program : Program) (id : DeclId) (options : Options) : Except Abort Lowered :=
  let job : Job := ⟨program, options⟩
  match job.emitModule id (Pass.start options) with
  | .ok _ pass => .ok ⟨pass.builder.module, pass.report⟩
  | .error abort _ => .error abort

end Lowering
