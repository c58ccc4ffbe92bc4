import Lowering.Pass.Failure
import Lowering.Pass.Naming
import Lowering.Pass.Options
import Lowering.Program.Member

/-
This file holds the state of a lowering pass and of the function body that it is working on.
A step that aborts keeps everything that was done before.
-/

namespace Lowering

open IR

/-- A job is a program to lower and the options for it. -/
structure Job where
  program : Program
  options : Options
deriving Inhabited

/-- A frame is a job with the function whose body is lowered. -/
structure Frame extends Job where
  owner : DeclId
deriving Inhabited

/-- The state of a pass: the module so far, the names given, and the findings. -/
structure Pass where
  builder : Builder
  names : Names
  report : Report
deriving Inhabited

namespace Pass

def start (options : Options) : Pass :=
  ⟨Builder.empty options.moduleName, Names.empty, Report.empty⟩

/-- The same pass at another insertion point. -/
def withCursor (cursor : Option Cursor) (pass : Pass) : Pass :=
  { pass with builder := { pass.builder with cursor := cursor } }

end Pass

/-- What a function body knows of the declarations: a location, an argument or a closure. -/
abbrev Locals := Table DeclId Value

/-- An activation is a pass inside a function body, with the values bound there. -/
structure Activation where
  pass : Pass
  locals : Locals
deriving Inhabited

/-- A check reads the program and may abort. -/
abbrev CheckM := Except Abort

abbrev PassM := EStateM Abort Pass

abbrev BodyM := EStateM Abort Activation

/-- An attempt to lower an expression may fail without an abort. -/
abbrev Attempt := ExceptT Unlowerable BodyM

instance : MonadLift (Except QueryError) CheckM where
  monadLift
    | .ok value => .ok value
    | .error error => .error (.query error)

instance : MonadLift CheckM PassM where
  monadLift
    | .ok value => pure value
    | .error abort => throw abort

/-- Misuse of the builder is a broken invariant. -/
instance : MonadLift BuildM PassM where
  monadLift step := fun pass =>
    match step pass.builder with
    | .ok value builder => .ok value { pass with builder := builder }
    | .error error builder => .error (.violation (.misuse error)) { pass with builder := builder }

instance : MonadLift NamesM PassM where
  monadLift step := fun pass =>
    match step pass.names with
    | .ok value names => .ok value { pass with names := names }
    | .error error names => .error (.query error) { pass with names := names }

instance : MonadLift PassM BodyM where
  monadLift step := fun activation =>
    match step activation.pass with
    | .ok value pass => .ok value { activation with pass := pass }
    | .error abort pass => .error abort { activation with pass := pass }

/-- A broken invariant aborts the pass. -/
def abort {A : Type} (violation : Violation) : CheckM A := .error (.violation violation)

namespace PassM

def report (finding : Finding) : PassM Unit :=
  modify fun pass => { pass with report := pass.report.add finding.diagnostic }

/-- The insertion point is afterwards what it was before, also after an abort. -/
def restoring {A : Type} (step : PassM A) : PassM A := fun pass =>
  match step pass with
  | .ok value after => .ok value (after.withCursor pass.builder.cursor)
  | .error abort after => .error abort (after.withCursor pass.builder.cursor)

/-- A body sees the values bound for it and no others. -/
def activate {A : Type} (locals : Locals) (body : BodyM A) : PassM A := fun pass =>
  match body ⟨pass, locals⟩ with
  | .ok value activation => .ok value activation.pass
  | .error abort activation => .error abort activation.pass

end PassM

namespace BodyM

def local? (id : DeclId) : BodyM (Option Value) := return (← get).locals.get? id

def bindLocal (id : DeclId) (value : Value) : BodyM Unit :=
  modify fun activation => { activation with locals := activation.locals.insert id value }

/-- Whether the block at the insertion point is terminated. -/
def isTerminated : BodyM Bool := return (← get).pass.builder.isTerminated

def report (failure : Unlowerable) (span : Span) : BodyM Unit :=
  PassM.report (.unlowered failure span)

end BodyM

/-- A failed attempt is made good by what follows it. -/
def Attempt.recover {A : Type} (attempt : Attempt A) (other : Unlowerable → BodyM A) : BodyM A := do
  match ← attempt.run with
  | .ok value => return value
  | .error failure => other failure

namespace Frame

/-- The function whose body is lowered. -/
def routine (frame : Frame) : CheckM Routine := do
  let decl ← frame.program.decl frame.owner
  match decl.routine? with
  | some routine => return routine
  | none => abort (.notAFunction decl.name)

/-- A type as it is seen inside the function. -/
def contextualize (frame : Frame) (ty : Ty) : CheckM Ty :=
  return ty.contextualized (← frame.routine).env

def returnType (frame : Frame) : CheckM Ty := do
  let unapplied ← frame.program.unappliedType frame.owner
  frame.contextualize unapplied.result

end Frame

end Lowering
