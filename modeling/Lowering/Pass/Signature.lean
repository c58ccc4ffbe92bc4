import Lowering.Pass.Basic
import Lowering.Program.Capture

/-
This file gives each function declaration its IR function.
-/

namespace Lowering

open IR

namespace Job

variable (job : Job)

/--
The receiver of a member comes first, then one object for each capture, and then the formal
parameters, all as the function's generic environment has them.
-/
def signature (id : DeclId) : CheckM Signature := do
  let decl ← job.program.decl id
  match decl.routine? with
  | none => abort (.notAFunction decl.name)
  | some routine =>
    let lowered (ty : Ty) := OperandType.lower (ty.contextualized routine.env)
    let unapplied ← job.program.unappliedType id
    let receivers := if routine.isMember then 1 else 0
    let captures ← job.program.captures id
    let captured ← captures.mapM fun capture => do
      let decl ← job.program.decl capture
      return OperandType.object (decl.ty.base.contextualized routine.env)
    return {
      params := (unapplied.params.take receivers).map lowered ++ captured ++
        (unapplied.params.drop receivers).map lowered
      result := lowered unapplied.result }

/-- Declares the function of a declaration, if need be, and returns a reference to it. -/
def declare (id : DeclId) : PassM Value := do
  let name ← NamesM.functionName job.program id
  let signature ← job.signature id
  BuildM.getOrCreateFunction name signature

end Job

end Lowering
