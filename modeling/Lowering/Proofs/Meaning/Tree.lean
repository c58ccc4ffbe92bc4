import Lowering.Binary64.Basic
import Lowering.Program.Ty

/-
This file holds the values of variables, seen without their layout.
-/

namespace Lowering

/-- A record maps each member to a tree of its own. -/
inductive Tree where
  /-- Nothing was ever stored. -/
  | undefined
  | unit
  | bool (value : Bool)
  | int (value : Int64)
  | float (value : Binary64)
  | string (value : String)
  | record (fields : DeclId → Tree)

namespace Tree

/-- Only a record has members. -/
def member (id : DeclId) : Tree → Tree
  | record fields => fields id
  | _ => undefined

/-- What stands at the end of a path. -/
def get (tree : Tree) : List DeclId → Tree
  | [] => tree
  | id :: rest => (tree.member id).get rest

/-- A tree with another one at the end of a path. -/
def set (value : Tree) : List DeclId → Tree → Tree
  | [], _ => value
  | id :: rest, tree =>
    record fun other => if other = id then set value rest (tree.member id) else tree.member other

@[simp] theorem get_nil (tree : Tree) : tree.get [] = tree := rfl

@[simp] theorem get_cons (tree : Tree) (id : DeclId) (rest : List DeclId) :
    tree.get (id :: rest) = (tree.member id).get rest := rfl

theorem get_append (tree : Tree) (first rest : List DeclId) :
    tree.get (first ++ rest) = (tree.get first).get rest := by
  induction first generalizing tree with
  | nil => rfl
  | cons id first first_ih => exact first_ih (tree.member id)

/-- What is set can be read again. -/
@[simp] theorem get_set (value tree : Tree) (path : List DeclId) :
    (set value path tree).get path = value := by
  induction path generalizing tree with
  | nil => rfl
  | cons id rest rest_ih => simp [set, member, rest_ih]

/-- No other member is changed. -/
@[simp] theorem get_set_of_ne (value tree : Tree) (path rest : List DeclId) (id other : DeclId)
    (differ : other ≠ id) :
    (set value (path ++ [id]) tree).get (path ++ other :: rest) = tree.get (path ++ other :: rest) := by
  induction path generalizing tree with
  | nil => simp [set, member, differ]
  | cons first path path_ih => simp [set, member, path_ih]

end Tree

end Lowering
