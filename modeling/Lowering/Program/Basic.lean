import Lowering.Program.Decl

/-
This file holds a checked program: declarations that refer to one another by their place.
-/

namespace Lowering

/-- A program keeps every declaration it has ever been given. -/
structure Program where
  decls : Array Decl
deriving Inhabited, Repr

/-- Why a question about a program has no answer. -/
inductive QueryError where
  /-- There is no such declaration. -/
  | dangling (id : DeclId)
  /-- The function has no parameter at this place. -/
  | noParameter (function : DeclId) (index : Nat)
  /-- The declarations lead back to themselves. -/
  | endless (id : DeclId)
deriving DecidableEq, Inhabited, Repr

/-- The answer to a question about a program, or the reason why there is none. -/
abbrev Answer (A : Type) := Except QueryError A

namespace Program

def empty : Program := ⟨#[]⟩

def size (program : Program) : Nat := program.decls.size

def find? (program : Program) (id : DeclId) : Option Decl := program.decls[id.index]?

def decl (program : Program) (id : DeclId) : Answer Decl :=
  match program.find? id with
  | some decl => .ok decl
  | none => .error (.dangling id)

/-- The declarations with their identifiers, in order. -/
def entries (program : Program) : List (DeclId × Decl) :=
  program.decls.toList.zipIdx.map fun (decl, index) => (⟨index⟩, decl)

def routine? (program : Program) (id : DeclId) : Answer (Option Routine) :=
  return (← program.decl id).routine?

def nominal (program : Program) (id : DeclId) : Answer Nominal :=
  return ⟨id, (← program.decl id).name⟩

/-- The identifier of the next declaration. -/
def nextId (program : Program) : DeclId := ⟨program.size⟩

def push (program : Program) (decl : Decl) : Program := ⟨program.decls.push decl⟩

def modify (program : Program) (id : DeclId) (change : Decl → Decl) : Program :=
  ⟨program.decls.modify id.index change⟩

theorem find?_push_next (program : Program) (decl : Decl) :
    (program.push decl).find? program.nextId = some decl := by
  simp [push, find?, nextId, size]

theorem find?_push_of_lt (program : Program) (decl : Decl) (id : DeclId)
    (inside : id.index < program.size) : (program.push decl).find? id = program.find? id := by
  simp only [push, find?, size] at *
  rw [Array.getElem?_push_lt inside, Array.getElem?_eq_getElem inside]

theorem size_modify (program : Program) (id : DeclId) (change : Decl → Decl) :
    (program.modify id change).size = program.size := by
  simp [modify, size]

end Program

end Lowering
