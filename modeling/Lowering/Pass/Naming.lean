import Lowering.Program.Scope
import Lowering.Table

/-
This file names the functions of a module.
A function has the qualified name of its declaration. Functions that share one are numbered
in the order in which they are first named.
-/

namespace Lowering

/-- The names given so far, and how many of them each qualified name has had. -/
structure Names where
  assigned : Table DeclId String
  uses : Table String Nat
deriving Inhabited

def Names.empty : Names := ⟨Table.empty, Table.empty⟩

/-- A naming step keeps the names it has given when it fails. -/
abbrev NamesM := EStateM QueryError Names

namespace NamesM

/-- The first use of a qualified name is the name itself, and later uses are numbered. -/
def numbered (path : String) (uses : Nat) : String := if uses = 0 then path else s!"{path}.{uses}"

/-- Gives out a use of a qualified name. -/
def unique (path : String) : NamesM String := do
  let uses := ((← get).uses.get? path).getD 0
  modify fun names => { names with uses := names.uses.insert path (uses + 1) }
  return numbered path uses

/-- The qualified name of a declaration, which may lack one. -/
def qualified (program : Program) (id : DeclId) : NamesM String :=
  match program.qualifiedName id with
  | .ok name => return name
  | .error error => throw error

/-- A declaration keeps the name that it is first given. -/
def functionName (program : Program) (id : DeclId) : NamesM String := do
  match (← get).assigned.get? id with
  | some name => return name
  | none =>
    let name ← unique (← qualified program id)
    modify fun names => { names with assigned := names.assigned.insert id name }
    return name

/-- The name of the thunk through which an implementation satisfies a requirement. -/
def thunkName (program : Program) (implementation requirement : DeclId) : NamesM String := do
  let implementation ← functionName program implementation
  let requirement ← qualified program requirement
  return s!"{implementation}$witness${requirement}"

end NamesM

end Lowering
