import Lowering.Program.GenericEnv
import Lowering.Program.Stmt

/-
This file holds declarations.
-/

namespace Lowering

/-- A binding introduces the variables of its pattern, as locals or as stored members. -/
structure Binding where
  isMember : Bool
  isMutable : Bool
  pattern : Pattern
  initializer : Option Expr
deriving Inhabited, Repr

inductive RoutineKind where
  | regular
  | constructor
  /-- A function that the runtime provides. -/
  | builtin
deriving DecidableEq, Inhabited, Repr

/-- What a function declaration holds besides its name and type: a free function, a method or a constructor. -/
structure Routine where
  kind : RoutineKind
  params : List DeclId
  body : Option Body
  /-- The receiver of a member or a constructor. -/
  self : Option DeclId
  /-- A member takes its receiver as the first argument. -/
  isMember : Bool
  isMutating : Bool
  /-- The compiler writes the body. -/
  isSynthesized : Bool
  env : GenericEnv
deriving Inhabited, Repr

namespace Routine

def isConstructor (routine : Routine) : Bool := routine.kind == .constructor

def isBuiltin (routine : Routine) : Bool := routine.kind == .builtin

end Routine

/-- A requirement of a view and the declaration that satisfies it. -/
structure ConformanceEntry where
  requirement : DeclId
  implementation : DeclId
deriving DecidableEq, Inhabited, Repr

/-- A type conforms to a view through the declarations that satisfy its requirements. -/
structure Conformance where
  view : DeclId
  entries : List ConformanceEntry
  span : Span
deriving DecidableEq, Inhabited, Repr

/-- What a declaration of each kind holds. -/
inductive DeclKind where
  | module (members : List DeclId)
  | imported
  | binding (binding : Binding)
  | variable (hasStorage : Bool)
  | function (routine : Routine)
  | parameter (label : Option String)
  | product (members : List DeclId) (conformances : List Conformance) (env : GenericEnv)
  | view (members : List DeclId)
  | abstractType
  | alias (aliased : Ty) (conformances : List Conformance)
  | typeExtension (extended : DeclId) (members : List DeclId)
  | genericParam
deriving Inhabited, Repr

namespace DeclKind

/-- A short description, for messages. -/
def text : DeclKind → String
  | .module _ => "module"
  | .imported => "import"
  | .binding _ => "pattern binding"
  | .variable _ => "variable"
  | .function routine =>
    match routine.kind with
    | .constructor => "constructor"
    | .builtin => "builtin function"
    | .regular => "function"
  | .parameter _ => "parameter"
  | .product .. => "product type"
  | .view _ => "view"
  | .abstractType => "abstract type"
  | .alias .. => "type alias"
  | .typeExtension .. => "type extension"
  | .genericParam => "generic parameter"

/-- The members of a declaration space, in declaration order. -/
def members : DeclKind → List DeclId
  | .module members => members
  | .product members _ _ => members
  | .view members => members
  | .typeExtension _ members => members
  | _ => []

/-- Only a declaration space takes a member. -/
def addMember (member : DeclId) : DeclKind → DeclKind
  | .module members => .module (members ++ [member])
  | .product members conformances env => .product (members ++ [member]) conformances env
  | .view members => .view (members ++ [member])
  | .typeExtension extended members => .typeExtension extended (members ++ [member])
  | other => other

/-- Only a product type or an alias takes a conformance. -/
def addConformance (conformance : Conformance) : DeclKind → DeclKind
  | .product members conformances env => .product members (conformances ++ [conformance]) env
  | .alias aliased conformances => .alias aliased (conformances ++ [conformance])
  | other => other

def routine? : DeclKind → Option Routine
  | .function routine => some routine
  | _ => none

/-- A function is changed, and any other declaration is left as it is. -/
def mapRoutine (change : Routine → Routine) : DeclKind → DeclKind
  | .function routine => .function (change routine)
  | other => other

/-- A variable that holds its value, as opposed to a computed one. -/
def isStored : DeclKind → Bool
  | .variable hasStorage => hasStorage
  | _ => false

end DeclKind

/-- A declaration with its resolved type. -/
structure Decl where
  name : String
  kind : DeclKind
  /-- The type of what is declared; a function has the type of its calls, without the receiver. -/
  ty : Ty
  /-- The declaration space around it. -/
  parent : Option DeclId
  span : Span
deriving Inhabited, Repr

namespace Decl

/-- A declaration whose place is not known. -/
def unplaced (name : String) (kind : DeclKind) (ty : Ty) (parent : Option DeclId) : Decl :=
  ⟨name, kind, ty, parent, Span.unknown⟩

def routine? (decl : Decl) : Option Routine := decl.kind.routine?

def members (decl : Decl) : List DeclId := decl.kind.members

def kindText (decl : Decl) : String := decl.kind.text

def mapKind (change : DeclKind → DeclKind) (decl : Decl) : Decl :=
  { decl with kind := change decl.kind }

end Decl

end Lowering
