import Lowering.Program.Member

/-
This file assembles programs: each call declares something and enters it into the declaration
space around it.
-/

namespace Lowering

/-- An assembly step changes a program, or fails at a declaration that does not exist. -/
abbrev Assembly := StateT Program (Except QueryError)

/-- A formal parameter of a function to be declared. -/
structure Param where
  label : Option String
  name : String
  ty : Ty
deriving DecidableEq, Inhabited, Repr

namespace Assembly

/-- A question about the program as it stands. -/
def ask {A : Type} (question : Program → Answer A) : Assembly A := do
  question (← get)

/-- Declares something without entering it anywhere. -/
def push (decl : Decl) : Assembly DeclId := do
  let id := (← get).nextId
  modify (·.push decl)
  return id

/-- Changes a declaration, which must exist. -/
def update (id : DeclId) (change : Decl → Decl) : Assembly Unit := do
  discard <| ask (·.decl id)
  modify (·.modify id change)

/-- Declares something and enters it into the members of its parent, if those are listed. -/
def pushMember (decl : Decl) : Assembly DeclId := do
  let id ← push decl
  match decl.parent with
  | some parent => update parent (Decl.mapKind (DeclKind.addMember id))
  | none => pure ()
  return id

/-- Gives a declaration the type that it declares. -/
def typeByDeclaration (id : DeclId) : Assembly Unit := do
  let ty ← ask (·.declaredType id)
  update id fun decl => { decl with ty := ty }

def addModule (name : String) : Assembly DeclId :=
  push (Decl.unplaced name (.module []) .unit none)

def addImport (parent : DeclId) (name : String) : Assembly DeclId :=
  pushMember (Decl.unplaced name .imported .unit (some parent))

/-- Declares a type whose own type names it. -/
def addTyped (kind : DeclKind) (parent : DeclId) (name : String) : Assembly DeclId := do
  let id ← pushMember (Decl.unplaced name kind .error (some parent))
  typeByDeclaration id
  return id

def addProduct : (parent : DeclId) → (name : String) → Assembly DeclId :=
  addTyped (.product [] [] GenericEnv.empty)

def addView : (parent : DeclId) → (name : String) → Assembly DeclId := addTyped (.view [])

def addAbstractType : (parent : DeclId) → (name : String) → Assembly DeclId :=
  addTyped .abstractType

def addAlias (parent : DeclId) (name : String) (aliased : Ty) : Assembly DeclId :=
  pushMember (Decl.unplaced name (.alias aliased []) aliased (some parent))

/-- A generic parameter is no member of what it parametrizes. -/
def addGenericParam (parent : DeclId) (name : String) : Assembly DeclId := do
  let id ← push (Decl.unplaced name .genericParam .error (some parent))
  typeByDeclaration id
  return id

def addExtension (parent extended : DeclId) : Assembly DeclId := do
  let decl ← ask (·.decl extended)
  let ty ← ask (·.declaredType extended)
  pushMember (Decl.unplaced decl.name (.typeExtension extended []) ty (some parent))

/-- Declares a stored variable, of which no declaration space is told. -/
def addVariable (parent : DeclId) (name : String) (ty : Ty) : Assembly DeclId :=
  push (Decl.unplaced name (.variable true) ty (some parent))

/-- Declares a stored property; the member is its binding, and the variable is returned. -/
def addStoredProperty (parent : DeclId) (name : String) (ty : Ty) : Assembly DeclId := do
  let var ← addVariable parent name ty
  let binding : Binding := ⟨true, true, .named var, none⟩
  discard <| pushMember (Decl.unplaced name (.binding binding) ty (some parent))
  return var

/-- A routine before its parameters and its body are known. -/
def bareRoutine (kind : RoutineKind) (isMember isMutating : Bool) : Routine where
  kind := kind
  params := []
  body := none
  self := none
  isMember := isMember
  isMutating := isMutating
  isSynthesized := false
  env := GenericEnv.empty

/-- Declares a function, then its receiver, if any, and then its parameters. -/
def addRoutine (kind : RoutineKind) (parent : DeclId) (name : String) (params : List Param)
    (result : Ty) (selfType : Option Ty) : Assembly DeclId := do
  let ty := Ty.function (params.map Param.ty) result
  let isConstructor := kind == .constructor
  let borrowsSelf := match selfType with
    | some (.inout _) => true
    | _ => false
  let routine :=
    bareRoutine kind (selfType.isSome && !isConstructor) (borrowsSelf && !isConstructor)
  let id ← pushMember (Decl.unplaced name (.function routine) ty (some parent))
  let self ← selfType.mapM fun ty => push (Decl.unplaced "self" (.variable true) ty (some id))
  let paramIds ← params.mapM fun param =>
    push (Decl.unplaced param.name (.parameter param.label) param.ty (some id))
  update id <| Decl.mapKind <| DeclKind.mapRoutine fun routine =>
    { routine with self := self, params := paramIds }
  return id

/-- Declares a function of a module or inside another function. -/
def addFunction (parent : DeclId) (name : String) (params : List Param) (result : Ty) :
    Assembly DeclId :=
  addRoutine .regular parent name params result none

/-- Declares a function that the runtime provides, outside of any module. -/
def addBuiltin (name : String) (params : List Ty) (result : Ty) : Assembly DeclId :=
  push (Decl.unplaced name (.function (bareRoutine .builtin false false))
    (.function params result) none)

/-- Declares a method of a type, an extension or a view; a mutating one borrows its receiver. -/
def addMethod (parent : DeclId) (name : String) (params : List Param) (result : Ty)
    (isMutating : Bool) : Assembly DeclId := do
  let receiver ← ask (·.declaredType parent)
  addRoutine .regular parent name params result
    (some (if isMutating then .inout receiver else receiver))

/-- Declares a constructor, which returns its receiver. -/
def addConstructor (parent : DeclId) (params : List Param) : Assembly DeclId := do
  let receiver ← ask (·.declaredType parent)
  addRoutine .constructor parent "init" params receiver (some (.inout receiver))

/-- Declares the constructor that takes one parameter for each stored member. -/
def addMemberwiseConstructor (parent : DeclId) : Assembly DeclId := do
  let vars ← ask (·.storedVars parent)
  let params ← vars.mapM fun var => do
    let decl ← ask (·.decl var)
    return Param.mk (some decl.name) decl.name decl.ty
  let id ← addConstructor parent params
  update id <| Decl.mapKind <| DeclKind.mapRoutine fun routine =>
    { routine with isSynthesized := true }
  return id

def setBody (id : DeclId) (body : Body) : Assembly Unit :=
  update id <| Decl.mapKind <| DeclKind.mapRoutine fun routine => { routine with body := some body }

def setEnv (id : DeclId) (env : GenericEnv) : Assembly Unit :=
  update id <| Decl.mapKind <| DeclKind.mapRoutine fun routine => { routine with env := env }

/-- Declares a local binding, named after the first variable of its pattern. -/
def addLocalBinding (parent : DeclId) (pattern : Pattern) (ty : Ty) (initializer : Option Expr) :
    Assembly DeclId := do
  let name ← match pattern.names with
    | var :: _ => pure (← ask (·.decl var)).name
    | [] => pure "_"
  push (Decl.unplaced name (.binding ⟨false, true, pattern, initializer⟩) ty (some parent))

/-- Declares a local variable, and returns its binding and the variable. -/
def addLocalVar (parent : DeclId) (name : String) (ty : Ty) (initializer : Option Expr) :
    Assembly (DeclId × DeclId) := do
  let var ← addVariable parent name ty
  let binding ← addLocalBinding parent (.named var) ty initializer
  return (binding, var)

/-- Each entry pairs a requirement of the view with the declaration that satisfies it. -/
def addConformance (id view : DeclId) (entries : List ConformanceEntry) : Assembly Unit := do
  let decl ← ask (·.decl id)
  update id (Decl.mapKind (DeclKind.addConformance ⟨view, entries, decl.span⟩))

end Assembly

namespace Program

variable (program : Program)

/-- A reference to a declaration, of the type of the value that it denotes. -/
def refExpr (id : DeclId) (span : Span) : Answer Expr :=
  return .ref ⟨(← program.decl id).ty.base, span⟩ id

/-- A reference to a member, of the type of the member's value. -/
def memberExpr (base : Expr) (id : DeclId) (span : Span) : Answer Expr :=
  return .member ⟨(← program.decl id).ty.base, span⟩ base id

end Program

namespace Expr

/-- A call has the result type of its callee, and the error type if that is no function. -/
def ofCall (callee : Expr) (args : List Expr) (span : Span) : Expr :=
  let ty := match callee.ty.asFunction? with
    | some funType => funType.result
    | none => .error
  .call ⟨ty, span⟩ callee args

/-- An assignment yields no value. -/
def ofAssign (target value : Expr) (span : Span) : Expr := .assign ⟨.unit, span⟩ target value

def ofAddress (operand : Expr) (span : Span) : Expr :=
  .addressOf ⟨.inout operand.ty, span⟩ operand

end Expr

end Lowering
