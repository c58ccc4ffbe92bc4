import Lowering.Program.Expr

/-
This file holds statements and the patterns of bindings.
-/

namespace Lowering

/-- A statement of a function body. -/
inductive Stmt where
  /-- A local declaration. -/
  | decl (decl : DeclId)
  | block (stmts : List Stmt) (span : Span)
  | returned (value : Option Expr) (span : Span)
  | expr (expr : Expr)
deriving Inhabited, Repr

/-- The statements between two braces. -/
structure Body where
  stmts : List Stmt
  span : Span
deriving Inhabited, Repr

/-- The left side of a binding. -/
inductive Pattern where
  | named (decl : DeclId)
  | tuple (elements : List Pattern)
  | wildcard
deriving Inhabited, Repr

namespace Pattern

mutual

/-- The variables that a pattern introduces, in source order. -/
def names : Pattern → List DeclId
  | .named decl => [decl]
  | .tuple elements => namesAll elements
  | .wildcard => []

def namesAll : List Pattern → List DeclId
  | [] => []
  | element :: rest => names element ++ namesAll rest

end

/-- The variable that is bound to the whole value, through tuples of one element. -/
def single? : Pattern → Option DeclId
  | .named decl => some decl
  | .tuple [element] => single? element
  | .tuple _ => none
  | .wildcard => none

end Pattern

end Lowering
