import Lowering.Program.Basic

/-
This file lists the expressions that stand in a program: in bodies, in initializers, and inside
other expressions.
-/

namespace Lowering

namespace Expr

mutual

theorem mem_walk_trans (root : Expr) {middle inner : Expr} (below : middle ∈ root.walk)
    (deeper : inner ∈ middle.walk) : inner ∈ root.walk := by
  cases root with
  | member note base id =>
    rcases List.mem_cons.mp below with rfl | later
    · exact deeper
    · exact List.mem_cons_of_mem _ (mem_walk_trans base later deeper)
  | call note callee args =>
    rcases List.mem_cons.mp below with rfl | later
    · exact deeper
    · refine List.mem_cons_of_mem _ (List.mem_append.mpr ?_)
      rcases List.mem_append.mp later with first | rest
      · exact Or.inl (mem_walk_trans callee first deeper)
      · exact Or.inr (mem_walkAll_trans args rest deeper)
  | assign note target value =>
    rcases List.mem_cons.mp below with rfl | later
    · exact deeper
    · refine List.mem_cons_of_mem _ (List.mem_append.mpr ?_)
      rcases List.mem_append.mp later with first | rest
      · exact Or.inl (mem_walk_trans target first deeper)
      · exact Or.inr (mem_walk_trans value rest deeper)
  | addressOf note operand =>
    rcases List.mem_cons.mp below with rfl | later
    · exact deeper
    · exact List.mem_cons_of_mem _ (mem_walk_trans operand later deeper)
  | bool | int | float | string | ref | error =>
    rw [List.mem_singleton.mp below] at deeper
    exact deeper

theorem mem_walkAll_trans (roots : List Expr) {middle inner : Expr}
    (below : middle ∈ walkAll roots) (deeper : inner ∈ middle.walk) : inner ∈ walkAll roots := by
  cases roots with
  | nil => cases below
  | cons root rest =>
    refine List.mem_append.mpr ?_
    rcases List.mem_append.mp below with first | later
    · exact Or.inl (mem_walk_trans root first deeper)
    · exact Or.inr (mem_walkAll_trans rest later deeper)

end

theorem mem_walk_self (expr : Expr) : expr ∈ expr.walk := by
  cases expr <;> simp [walk]

end Expr

namespace Stmt

mutual

/-- The expressions of a statement, in source order and without those inside them. -/
def exprs : Stmt → List Expr
  | .decl _ => []
  | .block stmts _ => exprsAll stmts
  | .returned value _ => value.toList
  | .expr value => [value]

def exprsAll : List Stmt → List Expr
  | [] => []
  | stmt :: rest => exprs stmt ++ exprsAll rest

end

end Stmt

/-- The expressions of a body or of an initializer. -/
def Decl.exprs (decl : Decl) : List Expr :=
  match decl.kind with
  | .binding binding => binding.initializer.toList
  | .function routine =>
    match routine.body with
    | some body => Stmt.exprsAll body.stmts
    | none => []
  | _ => []

namespace Program

variable (program : Program)

/-- The expression stands somewhere in the program. -/
def Occurs (expr : Expr) : Prop :=
  ∃ id decl root, program.find? id = some decl ∧ root ∈ decl.exprs ∧ expr ∈ root.walk

/-- A declaration or an expression failed to check. -/
def Flawed : Prop :=
  (∃ id decl, program.find? id = some decl ∧ decl.ty.isError = true) ∨
    ∃ expr, program.Occurs expr ∧ (expr.ty.isError = true ∨ ∃ note, expr = .error note)

variable {program}

theorem decl_eq_ok {id : DeclId} {decl : Decl} :
    program.decl id = .ok decl ↔ program.find? id = some decl := by
  unfold Program.decl
  cases program.find? id <;> simp

theorem mem_decls {id : DeclId} {decl : Decl} (found : program.find? id = some decl) :
    decl ∈ program.decls.toList := by
  obtain ⟨_, rfl⟩ := Array.getElem?_eq_some_iff.mp found
  exact Array.getElem_mem_toList _

theorem exists_find?_of_mem {decl : Decl} (inside : decl ∈ program.decls.toList) :
    ∃ id, program.find? id = some decl := by
  obtain ⟨index, found⟩ := List.mem_iff_getElem?.mp inside
  exact ⟨⟨index⟩, by simpa [find?] using found⟩

theorem mem_entries {id : DeclId} {decl : Decl} (found : program.find? id = some decl) :
    (id, decl) ∈ program.entries := by
  refine List.mem_map.mpr ⟨(decl, id.index), ?_, rfl⟩
  rw [List.mk_mem_zipIdx_iff_getElem?]
  simpa [find?] using found

/-- Whether an expression failed to check. -/
def fails (expr : Expr) : Bool :=
  expr.ty.isError || match expr with
    | .error _ => true
    | _ => false

theorem fails_iff (expr : Expr) :
    fails expr = true ↔ expr.ty.isError = true ∨ ∃ note, expr = .error note := by
  cases expr <;> simp [fails]

theorem flawed_iff : program.Flawed ↔ ∃ decl ∈ program.decls.toList,
    decl.ty.isError = true ∨ ∃ root ∈ decl.exprs, ∃ expr ∈ root.walk, fails expr = true := by
  constructor
  · rintro (⟨id, decl, found, bad⟩ | ⟨expr, ⟨id, decl, root, found, listed, below⟩, bad⟩)
    · exact ⟨decl, mem_decls found, Or.inl bad⟩
    · exact ⟨decl, mem_decls found, Or.inr ⟨root, listed, expr, below, (fails_iff expr).mpr bad⟩⟩
  · rintro ⟨decl, inside, bad | ⟨root, listed, expr, below, bad⟩⟩
    · obtain ⟨id, found⟩ := exists_find?_of_mem inside
      exact Or.inl ⟨id, decl, found, bad⟩
    · obtain ⟨id, found⟩ := exists_find?_of_mem inside
      exact Or.inr ⟨expr, ⟨id, decl, root, found, listed, below⟩, (fails_iff expr).mp bad⟩

instance : Decidable program.Flawed := decidable_of_iff _ flawed_iff.symm

theorem Occurs.of_walk {outer inner : Expr} (occurs : program.Occurs outer)
    (below : inner ∈ outer.walk) : program.Occurs inner := by
  obtain ⟨id, decl, root, found, listed, reached⟩ := occurs
  exact ⟨id, decl, root, found, listed, Expr.mem_walk_trans root reached below⟩

theorem Occurs.base {note : Note} {base : Expr} {id : DeclId}
    (occurs : program.Occurs (.member note base id)) : program.Occurs base :=
  occurs.of_walk (List.mem_cons_of_mem _ base.mem_walk_self)

theorem Occurs.operand {note : Note} {operand : Expr}
    (occurs : program.Occurs (.addressOf note operand)) : program.Occurs operand :=
  occurs.of_walk (List.mem_cons_of_mem _ operand.mem_walk_self)

theorem Occurs.target {note : Note} {target value : Expr}
    (occurs : program.Occurs (.assign note target value)) : program.Occurs target :=
  occurs.of_walk
    (List.mem_cons_of_mem _ (List.mem_append.mpr (Or.inl target.mem_walk_self)))

theorem Occurs.source {note : Note} {target value : Expr}
    (occurs : program.Occurs (.assign note target value)) : program.Occurs value :=
  occurs.of_walk
    (List.mem_cons_of_mem _ (List.mem_append.mpr (Or.inr value.mem_walk_self)))

theorem Occurs.callee {note : Note} {callee : Expr} {args : List Expr}
    (occurs : program.Occurs (.call note callee args)) : program.Occurs callee :=
  occurs.of_walk
    (List.mem_cons_of_mem _ (List.mem_append.mpr (Or.inl callee.mem_walk_self)))

theorem Occurs.arg {note : Note} {callee : Expr} {args : List Expr}
    (occurs : program.Occurs (.call note callee args)) {arg : Expr} (listed : arg ∈ args) :
    program.Occurs arg := by
  refine occurs.of_walk (List.mem_cons_of_mem _ (List.mem_append.mpr (Or.inr ?_)))
  rw [Expr.walkAll_eq_flatMap]
  exact List.mem_flatMap.mpr ⟨arg, listed, arg.mem_walk_self⟩

theorem occurs_initializer {id : DeclId} {decl : Decl} {binding : Binding} {initializer : Expr}
    (found : program.decl id = .ok decl) (kind : decl.kind = .binding binding)
    (given : binding.initializer = some initializer) : program.Occurs initializer := by
  refine ⟨id, decl, initializer, decl_eq_ok.mp found, ?_, initializer.mem_walk_self⟩
  simp [Decl.exprs, kind, given]

theorem occurs_body {id : DeclId} {decl : Decl} {routine : Routine} {body : Body} {expr : Expr}
    (found : program.decl id = .ok decl) (kind : decl.routine? = some routine)
    (given : routine.body = some body) (listed : expr ∈ Stmt.exprsAll body.stmts) :
    program.Occurs expr := by
  refine ⟨id, decl, expr, decl_eq_ok.mp found, ?_, expr.mem_walk_self⟩
  cases declared : decl.kind <;>
    simp_all [Decl.exprs, Decl.routine?, DeclKind.routine?]

end Program

end Lowering
