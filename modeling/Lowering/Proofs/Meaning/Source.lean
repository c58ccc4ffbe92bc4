import Lowering.Pass.Location
import Lowering.Proofs.Meaning.Tree

/-
This file says what a call of a function means whose body makes no calls itself. An activation maps
each local to a tree, and statements are carried out one after another.
-/

namespace Lowering

/-- An activation maps the receiver, the parameters and the locals to their values. -/
abbrev Store := DeclId → Option Tree

namespace Store

def empty : Store := fun _ => none

def put (store : Store) (id : DeclId) (tree : Tree) : Store :=
  fun other => if other = id then some tree else store other

@[simp] theorem put_self (store : Store) (id : DeclId) (tree : Tree) :
    store.put id tree id = some tree := by
  simp [put]

@[simp] theorem put_of_ne (store : Store) (id other : DeclId) (tree : Tree)
    (differ : other ≠ id) : store.put id tree other = store other := by
  simp [put, differ]

/-- The parameters take the values of the arguments, from left to right. -/
def bind (store : Store) : List DeclId → List Tree → Option Store
  | [], _ => some store
  | _ :: _, [] => none
  | id :: ids, tree :: trees => bind (store.put id tree) ids trees

end Store

namespace Expr

/-- The variable and the stored members that an expression leads to. -/
def place : Expr → Option (DeclId × List DeclId)
  | .ref _ id => some (id, [])
  | .member _ base id => do
    let (var, path) ← place base
    return (var, path ++ [id])
  | _ => none

/-- The value of an expression, and the activation after it. -/
def eval (store : Store) : Expr → Option (Tree × Store)
  | .bool _ value => some (.bool value, store)
  | .int _ value => some (.int value, store)
  | .float _ value => some (.float value, store)
  | .string _ value => some (.string value, store)
  | .ref _ id => do return (← store id, store)
  | .member _ base id => do
    let (tree, after) ← eval store base
    return (tree.member id, after)
  | .assign _ target source => do
    let (var, path) ← target.place
    let (tree, after) ← eval store source
    return (.unit, after.put var (Tree.set tree path (← after var)))
  | .call .. | .addressOf .. | .error _ => none

/-- An expression that leads to a variable only reads it. -/
theorem eval_of_place {expr : Expr} {var : DeclId} {path : List DeclId} {store : Store}
    {tree : Tree} (leads : expr.place = some (var, path)) (found : store var = some tree) :
    expr.eval store = some (tree.get path, store) := by
  cases expr with
  | ref note id =>
    obtain ⟨rfl, rfl⟩ : id = var ∧ path = [] := by simpa [place, eq_comm] using leads
    simp [eval, found]
  | member note base id =>
    obtain ⟨⟨start, front⟩, base_leads, same⟩ := Option.bind_eq_some_iff.mp leads
    obtain ⟨rfl, rfl⟩ : start = var ∧ front ++ [id] = path := by simpa using same
    simp [eval, eval_of_place base_leads found, Tree.get_append]
  | bool | int | float | string | call | assign | addressOf | error => cases leads

end Expr

/-- How far statements came: the activation after them, and what they returned, if they did. -/
structure Progress where
  store : Store
  returned : Option Tree

/-- How a call ends. -/
inductive Outcome where
  | returned (tree : Tree)
  | halted

namespace Routine

variable (routine : Routine)

/-- A member is given its receiver, and that of a constructor is undefined at first. -/
def receive (args : List Tree) : Option (Store × List Tree) :=
  match routine.self with
  | none => some (Store.empty, args)
  | some self =>
    if routine.isMember then
      match args with
      | [] => none
      | receiver :: rest => some (Store.empty.put self receiver, rest)
    else if routine.isConstructor then some (Store.empty.put self .undefined, args)
    else none

/-- A constructor returns its receiver, whatever its body returns. -/
def conclude (result : Ty) (progress : Progress) : Option Outcome :=
  if routine.isConstructor then do return .returned (← progress.store (← routine.self))
  else
    match progress.returned, result with
    | some tree, _ => some (.returned tree)
    | none, .unit => some (.returned .unit)
    | none, .nothing => some .halted
    | none, _ => none

end Routine

namespace Program

variable (program : Program)

/-- The variable and the initializer of a local binding of a single name. -/
def binding? (id : DeclId) : Option (DeclId × Option Expr) := do
  match (← program.find? id).kind with
  | .binding binding => return (← binding.pattern.single?, binding.initializer)
  | _ => none

mutual

/-- A variable is undefined until its initializer was evaluated. -/
def exec (store : Store) : Stmt → Option Progress
  | .decl id => do
    match ← program.binding? id with
    | (var, none) => return ⟨store.put var .undefined, none⟩
    | (var, some initializer) =>
      let (tree, after) ← initializer.eval (store.put var .undefined)
      return ⟨after.put var tree, none⟩
  | .block stmts _ => execAll store stmts
  | .returned none _ => some ⟨store, some .unit⟩
  | .returned (some value) _ => do
    let (tree, after) ← value.eval store
    return ⟨after, some tree⟩
  | .expr value => do
    let (_, after) ← value.eval store
    return ⟨after, none⟩

/-- A return ends the body. -/
def execAll (store : Store) : List Stmt → Option Progress
  | [] => some ⟨store, none⟩
  | stmt :: rest => do
    let progress ← exec store stmt
    match progress.returned with
    | none => execAll progress.store rest
    | some _ => return progress

end

section Sequence

variable {program} {store : Store} {stmt : Stmt} {progress : Progress}

theorem execAll_of_none (rest : List Stmt) (means : program.exec store stmt = some progress)
    (open_ : progress.returned = none) :
    program.execAll store (stmt :: rest) = program.execAll progress.store rest := by
  simp [execAll, means, open_]

theorem execAll_of_some (rest : List Stmt) {tree : Tree}
    (means : program.exec store stmt = some progress) (ended : progress.returned = some tree) :
    program.execAll store (stmt :: rest) = some progress := by
  simp [execAll, means, ended]

end Sequence

/-- A call of a function with the receiver, if it takes one, before the other arguments. -/
def call (id : DeclId) (args : List Tree) : Option Outcome := do
  let decl ← program.find? id
  let routine ← decl.routine?
  let body ← routine.body
  let (store, rest) ← routine.receive args
  let progress ← program.execAll (← store.bind routine.params rest) body.stmts
  routine.conclude (appliedType decl).result progress

end Program

end Lowering
