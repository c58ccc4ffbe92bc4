import Lowering.Pass.Location
import Lowering.Proofs.Program.Occurrence
import Mathlib.Data.List.Perm.Basic
import Mathlib.Data.Option.Basic

/-
This file compares two programs that differ only in the bodies of functions and in the order in
which modules list their members. Walks through the declarations, and questions about names and
types, have the same answer in both.
-/

namespace Lowering

open IR

/-- The same function, up to its body, which is there on both sides or on neither. -/
inductive Routine.Rebodies (routine : Routine) : Routine → Prop
  | intro (body : Option Body) (both : body.isNone = routine.body.isNone) :
    Rebodies routine { routine with body := body }

theorem Routine.Rebodies.refl (routine : Routine) : routine.Rebodies routine := .intro _ rfl

/-- The same declaration, up to the body of a function and the order of the members of a module. -/
inductive Decl.Akin : Decl → Decl → Prop
  | same (decl : Decl) : Akin decl decl
  | function {routine other : Routine} (alike : routine.Rebodies other) (name : String) (ty : Ty)
    (parent : Option DeclId) (span : Span) :
    Akin ⟨name, .function routine, ty, parent, span⟩ ⟨name, .function other, ty, parent, span⟩
  | module {members others : List DeclId} (order : members.Perm others) (name : String) (ty : Ty)
    (parent : Option DeclId) (span : Span) :
    Akin ⟨name, .module members, ty, parent, span⟩ ⟨name, .module others, ty, parent, span⟩

namespace Decl.Akin

variable {decl other : Decl} (akin : decl.Akin other)

include akin

theorem name : other.name = decl.name := by cases akin <;> rfl

theorem ty : other.ty = decl.ty := by cases akin <;> rfl

theorem parent : other.parent = decl.parent := by cases akin <;> rfl

theorem span : other.span = decl.span := by cases akin <;> rfl

theorem isStored : other.kind.isStored = decl.kind.isStored := by cases akin <;> rfl

theorem isLocalKind : Frame.isLocalKind other.kind = Frame.isLocalKind decl.kind := by
  cases akin <;> rfl

theorem kindText : other.kindText = decl.kindText := by
  cases akin with
  | function alike => cases alike; rfl
  | same | module => rfl

theorem isCapturable : Program.isCapturable other = Program.isCapturable decl := by
  cases akin with
  | function alike => cases alike; rfl
  | same | module => rfl

theorem routine? : Option.Rel Routine.Rebodies decl.routine? other.routine? := by
  cases akin with
  | same =>
    cases decl.routine? with
    | none => exact .none
    | some routine => exact .some (.refl routine)
  | function alike => exact .some alike
  | module => exact .none

end Decl.Akin

/-- A declaration is there on both sides or on neither. -/
theorem Program.decl_of_rel {kin : Decl → Decl → Prop} {program other : Program} {id : DeclId}
    (related : Option.Rel kin (program.find? id) (other.find? id)) :
    program.decl id = .error (.dangling id) ∧ other.decl id = .error (.dangling id) ∨
      ∃ decl peer, program.find? id = some decl ∧ other.find? id = some peer ∧
        program.decl id = .ok decl ∧ other.decl id = .ok peer ∧ kin decl peer := by
  unfold Program.decl
  generalize program.find? id = found at related ⊢
  generalize other.find? id = present at related ⊢
  cases related with
  | none => exact Or.inl ⟨rfl, rfl⟩
  | some same => exact Or.inr ⟨_, _, rfl, rfl, rfl, rfl, same⟩

/-- The same declarations, up to the bodies of functions and the order of the members of modules. -/
structure Program.Akin (program other : Program) : Prop where
  size : other.size = program.size
  decls : ∀ id, Option.Rel Decl.Akin (program.find? id) (other.find? id)

namespace Program.Akin

variable {program other : Program} (akin : program.Akin other)

include akin

section Binds

variable {A : Type} (id : DeclId)

/-- What is asked about a declaration is answered alike. -/
theorem ask {next again : Decl → Answer A}
    (rest : ∀ decl peer, decl.Akin peer → again peer = next decl) :
    (other.decl id >>= again) = (program.decl id >>= next) := by
  obtain ⟨lost, missing⟩ | ⟨decl, peer, _, _, found, present, kept⟩ := decl_of_rel (akin.decls id)
  · rw [lost, missing]
    rfl
  · rw [found, present]
    exact rest decl peer kept

theorem check {next again : Decl → CheckM A}
    (rest : ∀ decl peer, decl.Akin peer → again peer = next decl) :
    (liftM (other.decl id) >>= again : CheckM A) = liftM (program.decl id) >>= next := by
  obtain ⟨lost, missing⟩ | ⟨decl, peer, _, _, found, present, kept⟩ := decl_of_rel (akin.decls id)
  · rw [lost, missing]
    rfl
  · rw [found, present]
    exact rest decl peer kept

theorem pass {next again : Decl → PassM A}
    (rest : ∀ decl peer, decl.Akin peer → again peer = next decl) :
    (liftM (other.decl id) >>= again : PassM A) = liftM (program.decl id) >>= next := by
  obtain ⟨lost, missing⟩ | ⟨decl, peer, _, _, found, present, kept⟩ := decl_of_rel (akin.decls id)
  · rw [lost, missing]
    rfl
  · rw [found, present]
    exact rest decl peer kept

theorem body {next again : Decl → BodyM A}
    (rest : ∀ decl peer, decl.Akin peer → again peer = next decl) :
    (liftM (other.decl id) >>= again : BodyM A) = liftM (program.decl id) >>= next := by
  obtain ⟨lost, missing⟩ | ⟨decl, peer, _, _, found, present, kept⟩ := decl_of_rel (akin.decls id)
  · rw [lost, missing]
    rfl
  · rw [found, present]
    exact rest decl peer kept

theorem attempt {next again : Decl → Attempt A}
    (rest : ∀ decl peer, decl.Akin peer → again peer = next decl) :
    (liftM (other.decl id) >>= again : Attempt A) = liftM (program.decl id) >>= next := by
  obtain ⟨lost, missing⟩ | ⟨decl, peer, _, _, found, present, kept⟩ := decl_of_rel (akin.decls id)
  · rw [lost, missing]
    rfl
  · rw [found, present]
    exact rest decl peer kept

end Binds

theorem walkLimit : other.walkLimit = program.walkLimit := by
  rw [Program.walkLimit, Program.walkLimit, akin.size]

theorem nominal (id : DeclId) : other.nominal id = program.nominal id :=
  akin.ask id fun decl peer kept => by rw [kept.name]

theorem declaredTypeFrom (steps : Nat) (id : DeclId) :
    other.declaredTypeFrom steps id = program.declaredTypeFrom steps id := by
  induction steps generalizing id with
  | zero => rfl
  | succ steps steps_ih =>
    refine akin.ask id fun decl peer kept => ?_
    cases kept with
    | function | module => rfl
    | same => simp only [akin.nominal, steps_ih]

theorem declaredType (id : DeclId) : other.declaredType id = program.declaredType id := by
  rw [Program.declaredType, Program.declaredType, akin.walkLimit, akin.declaredTypeFrom]

theorem receiverType (routine : Routine) :
    other.receiverType routine = program.receiverType routine := by
  unfold Program.receiverType
  cases routine.self with
  | none => rfl
  | some self => exact akin.ask self fun decl peer kept => by rw [kept.ty]

theorem unappliedType (id : DeclId) : other.unappliedType id = program.unappliedType id := by
  refine akin.ask id fun decl peer kept => ?_
  cases kept with
  | same => simp only [akin.receiverType]
  | module => rfl
  | function alike =>
    obtain ⟨body, _⟩ := alike
    simp only [Decl.routine?, DeclKind.routine?, appliedType, akin.receiverType]
    rfl

theorem segment {decl peer : Decl} (kept : decl.Akin peer) :
    other.segment peer = program.segment decl := by
  cases kept with
  | module => rfl
  | function alike =>
    obtain ⟨body, _⟩ := alike
    rfl
  | same =>
    rw [Program.segment, Program.segment]
    cases decl.kind with
    | typeExtension extended members =>
      exact akin.ask extended fun decl peer kept => by rw [kept.name]
    | _ => rfl

theorem pathFrom (steps : Nat) (scope : Option DeclId) :
    other.pathFrom steps scope = program.pathFrom steps scope := by
  induction steps generalizing scope with
  | zero => cases scope <;> rfl
  | succ steps steps_ih =>
    cases scope with
    | none => rfl
    | some scope =>
      refine akin.ask scope fun decl peer kept => ?_
      cases kept with
      | module => rfl
      | function alike =>
        dsimp only
        rw [akin.segment (.function alike ..), steps_ih]
      | same => simp only [akin.segment (.same decl), steps_ih]

theorem qualifiedPath (id : DeclId) : other.qualifiedPath id = program.qualifiedPath id := by
  rw [Program.qualifiedPath, Program.qualifiedPath, akin.walkLimit, akin.pathFrom]

theorem qualifiedName (id : DeclId) : other.qualifiedName id = program.qualifiedName id := by
  rw [Program.qualifiedName, Program.qualifiedName, akin.qualifiedPath]

theorem functionName (id : DeclId) :
    NamesM.functionName other id = NamesM.functionName program id := by
  have qualified (id : DeclId) : NamesM.qualified other id = NamesM.qualified program id := by
    rw [NamesM.qualified, NamesM.qualified, akin.qualifiedName]
  unfold NamesM.functionName
  rw [qualified]

theorem thunkName (implementation requirement : DeclId) :
    NamesM.thunkName other implementation requirement =
      NamesM.thunkName program implementation requirement := by
  unfold NamesM.thunkName NamesM.qualified
  rw [akin.functionName, akin.qualifiedName]

/-- Only the members of a module may be listed in another order. -/
theorem storedVars {id : DeclId} {decl : Decl} (found : program.find? id = some decl)
    (again : other.find? id = some decl) : other.storedVars id = program.storedVars id := by
  have listed : other.decl id = program.decl id := by
    rw [Program.decl, Program.decl, found, again]
  unfold Program.storedVars
  rw [listed]
  refine bind_congr fun own => congr (congrArg Bind.bind ?_) (funext fun names => ?_)
  · refine congrArg (List.mapM · own.members) (funext fun member => ?_)
    exact akin.ask member fun decl peer kept => by cases kept <;> rfl
  · refine congrArg (List.filterM · names.flatten) (funext fun var => ?_)
    exact akin.ask var fun decl peer kept => by rw [kept.isStored]

theorem ownerFrom (steps : Nat) (scope : Option DeclId) :
    other.ownerFrom steps scope = program.ownerFrom steps scope := by
  induction steps generalizing scope with
  | zero => cases scope <;> rfl
  | succ steps steps_ih =>
    cases scope with
    | none => rfl
    | some scope =>
      refine akin.ask scope fun decl peer kept => ?_
      cases kept with
      | function | module => rfl
      | same => simp only [steps_ih]

theorem enclosingFunction (id : DeclId) :
    other.enclosingFunction id = program.enclosingFunction id :=
  akin.ask id fun decl peer kept => by rw [kept.parent, akin.walkLimit, akin.ownerFrom]

theorem isAroundFrom (ancestor : DeclId) (steps : Nat) (scope : Option DeclId) :
    other.isAroundFrom ancestor steps scope = program.isAroundFrom ancestor steps scope := by
  induction steps generalizing scope with
  | zero => cases scope <;> rfl
  | succ steps steps_ih =>
    cases scope with
    | none => rfl
    | some scope =>
      rw [Program.isAroundFrom, Program.isAroundFrom]
      split
      · rfl
      · exact akin.ask scope fun decl peer kept => by rw [kept.parent, steps_ih]

theorem isStrictAncestor (ancestor id : DeclId) :
    other.isStrictAncestor ancestor id = program.isStrictAncestor ancestor id :=
  akin.ask id fun decl peer kept => by rw [kept.parent, akin.walkLimit, akin.isAroundFrom]

theorem isCapturedBy (root id : DeclId) :
    other.isCapturedBy root id = program.isCapturedBy root id := by
  unfold Program.isCapturedBy
  simp only [akin.enclosingFunction, akin.isStrictAncestor]
  split
  · rfl
  · exact akin.ask id fun decl peer kept => by rw [kept.isCapturable]

theorem captureExpr (root : DeclId) (found : List DeclId) (expr : Expr) :
    other.captureExpr root found expr = program.captureExpr root found expr := by
  have one : other.captureRef root = program.captureRef root := by
    funext found id
    rw [Program.captureRef, Program.captureRef, akin.isCapturedBy]
  rw [Program.captureExpr, Program.captureExpr, one]

theorem captureOption (root : DeclId) (found : List DeclId) (expr : Option Expr) :
    other.captureOption root found expr = program.captureOption root found expr := by
  cases expr with
  | none => rfl
  | some expr => exact akin.captureExpr root found expr

omit akin

section Statements

variable (nested : List DeclId → DeclId → Answer (List DeclId)) (root : DeclId)

mutual

theorem captureStmt (akin : program.Akin other) (found : List DeclId) (stmt : Stmt) :
    other.captureStmt nested root found stmt = program.captureStmt nested root found stmt := by
  cases stmt with
  | decl id =>
    refine akin.ask id fun decl peer kept => ?_
    cases kept with
    | function | module => rfl
    | same => simp only [akin.captureOption]
  | block stmts span => exact captureStmts akin found stmts
  | returned value span => exact akin.captureOption root found value
  | expr expr => exact akin.captureExpr root found expr

theorem captureStmts (akin : program.Akin other) (found : List DeclId) (stmts : List Stmt) :
    other.captureStmts nested root found stmts = program.captureStmts nested root found stmts := by
  cases stmts with
  | nil => rfl
  | cons stmt rest =>
    rw [Program.captureStmts, Program.captureStmts, captureStmt akin found stmt]
    exact congrArg _ (funext fun found => captureStmts akin found rest)

end

end Statements

end Program.Akin

/-- Akin programs in which no function captures anything else. -/
structure Program.Kindred (program other : Program) : Prop extends program.Akin other where
  captures : ∀ id, other.captures id = program.captures id

theorem Program.Kindred.refl (program : Program) : program.Kindred program where
  size := rfl
  decls id := by
    cases program.find? id with
    | none => exact .none
    | some decl => exact .some (.same decl)
  captures _ := rfl

namespace Job

variable {left right : Job} (kindred : left.program.Kindred right.program)

include kindred

theorem signature_of_kindred (id : DeclId) : right.signature id = left.signature id := by
  have captured (routine : Routine) (id : DeclId) : (do
      let decl ← right.program.decl id
      return OperandType.object (decl.ty.base.contextualized routine.env) : CheckM OperandType) = do
      let decl ← left.program.decl id
      return OperandType.object (decl.ty.base.contextualized routine.env) :=
    kindred.check id fun decl peer kept => by rw [kept.ty]
  refine kindred.check id fun decl peer kept => ?_
  cases kept with
  | same => simp only [kindred.unappliedType, kindred.captures, captured]
  | module => rfl
  | function alike =>
    obtain ⟨body, _⟩ := alike
    simp only [Decl.routine?, DeclKind.routine?, kindred.unappliedType, kindred.captures, captured]

theorem declare_of_kindred (id : DeclId) : right.declare id = left.declare id := by
  unfold declare
  rw [kindred.functionName, signature_of_kindred kindred]

end Job

end Lowering
