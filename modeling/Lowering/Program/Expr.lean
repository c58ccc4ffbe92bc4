import Lowering.Binary64.Basic
import Lowering.Program.Ty
import Lowering.Span

/-
This file holds checked expressions.
-/

namespace Lowering

/-- Every expression has a type and a place in the source. -/
structure Note where
  ty : Ty
  span : Span
deriving DecidableEq, Repr, Inhabited

/-- A checked expression. -/
inductive Expr where
  | bool (note : Note) (value : Bool)
  | int (note : Note) (value : Int64)
  | float (note : Note) (value : Binary64)
  | string (note : Note) (value : String)
  /-- A reference to a declaration. -/
  | ref (note : Note) (decl : DeclId)
  /-- A reference to a member of a base. -/
  | member (note : Note) (base : Expr) (member : DeclId)
  | call (note : Note) (callee : Expr) (args : List Expr)
  | assign (note : Note) (target : Expr) (value : Expr)
  /-- The location of its operand, as an inout parameter takes it. -/
  | addressOf (note : Note) (operand : Expr)
  /-- A place holder for an expression that failed to check. -/
  | error (note : Note)
deriving Inhabited, Repr

namespace Expr

def note : Expr → Note
  | bool note _ | int note _ | float note _ | string note _ | ref note _ | member note _ _
  | call note _ _ | assign note _ _ | addressOf note _ | error note => note

def ty (expr : Expr) : Ty := expr.note.ty

def span (expr : Expr) : Span := expr.note.span

/-- The same expression with another type and place. -/
def withNote (note : Note) : Expr → Expr
  | bool _ value => bool note value
  | int _ value => int note value
  | float _ value => float note value
  | string _ value => string note value
  | ref _ decl => ref note decl
  | member _ base id => member note base id
  | call _ callee args => call note callee args
  | assign _ target value => assign note target value
  | addressOf _ operand => addressOf note operand
  | error _ => error note

mutual

/-- This lists an expression and all below it, parents first and in source order. -/
def walk : Expr → List Expr
  | expr@(.member _ base _) => expr :: walk base
  | expr@(.call _ callee args) => expr :: (walk callee ++ walkAll args)
  | expr@(.assign _ target value) => expr :: (walk target ++ walk value)
  | expr@(.addressOf _ operand) => expr :: walk operand
  | expr@(.bool ..) => [expr]
  | expr@(.int ..) => [expr]
  | expr@(.float ..) => [expr]
  | expr@(.string ..) => [expr]
  | expr@(.ref ..) => [expr]
  | expr@(.error ..) => [expr]

def walkAll : List Expr → List Expr
  | [] => []
  | expr :: rest => walk expr ++ walkAll rest

end

theorem walkAll_eq_flatMap (exprs : List Expr) : walkAll exprs = exprs.flatMap walk := by
  induction exprs with
  | nil => rfl
  | cons expr rest rest_ih => simp [walkAll, rest_ih]

/-- The declaration that an expression refers to, members apart. -/
def reference? : Expr → Option DeclId
  | .ref _ decl => some decl
  | _ => none

/-- The declarations that an expression refers to, in the order of the walk. -/
def references (expr : Expr) : List DeclId := expr.walk.filterMap reference?

end Expr

end Lowering
