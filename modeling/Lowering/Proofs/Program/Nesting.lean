import Lowering.Program.Assembly

/-
This file says which declarations are lowered along with another: the members of a module or a type,
and what a function body declares before it returns. It also gives the order of their lowering.
-/

namespace Lowering

namespace Stmt

mutual

/-- A statement that returns is the last one to be lowered. -/
def returns : Stmt → Bool
  | .returned .. => true
  | .block stmts _ => returnsAny stmts
  | .decl _ | .expr _ => false

def returnsAny : List Stmt → Bool
  | [] => false
  | stmt :: rest => returns stmt || returnsAny rest

end

mutual

/-- What is declared by a statement, as far as it is lowered. -/
def declared : Stmt → List DeclId
  | .decl id => [id]
  | .block stmts _ => declaredAll stmts
  | .returned .. | .expr _ => []

def declaredAll : List Stmt → List DeclId
  | [] => []
  | stmt :: rest => declared stmt ++ if returns stmt then [] else declaredAll rest

end

mutual

/-- What is declared by a statement, be it lowered or not. -/
def locals : Stmt → List DeclId
  | .decl id => [id]
  | .block stmts _ => localsAll stmts
  | .returned .. | .expr _ => []

def localsAll : List Stmt → List DeclId
  | [] => []
  | stmt :: rest => locals stmt ++ localsAll rest

end

end Stmt

namespace Program

variable (program : Program)

/-- The declarations that are lowered as a part of another. -/
def nested (id : DeclId) : List DeclId :=
  match (program.find? id).map Decl.kind with
  | some (.module members) => members
  | some (.product members _ _) => members
  | some (.typeExtension _ members) => members
  | some (.function routine) =>
    if routine.isBuiltin then []
    else (routine.body.map fun body => Stmt.declaredAll body.stmts).getD []
  | _ => []

/-- A statement in the body of the function declares the other declaration, lowered or not. -/
def DeclaredIn (owner id : DeclId) : Prop :=
  ∃ decl routine body, program.find? owner = some decl ∧ decl.routine? = some routine ∧
    routine.body = some body ∧ id ∈ Stmt.localsAll body.stmts

/-- Every declaration that a function body names is there. -/
def Sited : Prop :=
  ∀ decl ∈ program.decls.toList, ∀ routine ∈ decl.routine?, ∀ body ∈ routine.body,
    ∀ id ∈ Stmt.localsAll body.stmts, id.index < program.size

instance : Decidable program.Sited := by
  unfold Sited
  infer_instance

/-- A declaration is lowered with everything below it. -/
inductive Lowers : DeclId → DeclId → Prop
  | refl (id : DeclId) : Lowers id id
  | step {id child target : DeclId} (inside : child ∈ program.nested id)
      (rest : Lowers child target) : Lowers id target

/-- The order in which declarations are lowered: everything below one comes right after it. -/
inductive Tour : List DeclId → List DeclId → Prop
  | nil : Tour [] []
  | cons {id : DeclId} {rest below later : List DeclId} (inside : Tour (program.nested id) below)
      (others : Tour rest later) : Tour (id :: rest) (id :: (below ++ later))

namespace Tour

variable {program} {ids others trail later : List DeclId}

theorem append (first : program.Tour ids trail) (rest : program.Tour others later) :
    program.Tour (ids ++ others) (trail ++ later) := by
  induction first with
  | nil => exact rest
  | cons inside _ _ others_ih =>
    rw [List.cons_append, List.cons_append, List.append_assoc]
    exact .cons inside others_ih

theorem single {id : DeclId} (same : program.nested id = ids) (inside : program.Tour ids trail) :
    program.Tour [id] (id :: trail) := by
  have whole := Tour.cons (same ▸ inside) .nil
  rwa [List.append_nil] at whole

/-- There is one order. -/
theorem unique (first : program.Tour ids trail) (second : program.Tour ids later) :
    trail = later := by
  induction first generalizing later with
  | nil =>
    cases second
    rfl
  | cons _ _ inside_ih others_ih =>
    cases second with
    | cons inside others => rw [inside_ih inside, others_ih others]

/-- A tour comes to what is lowered along with its declarations, and to nothing else. -/
theorem mem_iff (tour : program.Tour ids trail) {target : DeclId} :
    target ∈ trail ↔ ∃ id ∈ ids, program.Lowers id target := by
  induction tour with
  | nil => simp
  | @cons id rest below later _ _ inside_ih others_ih =>
    rw [List.mem_cons, List.mem_append, inside_ih, others_ih]
    constructor
    · rintro (rfl | ⟨child, inside, lowers⟩ | ⟨other, listed, lowers⟩)
      · exact ⟨target, List.mem_cons_self .., .refl target⟩
      · exact ⟨id, List.mem_cons_self .., .step inside lowers⟩
      · exact ⟨other, List.mem_cons_of_mem _ listed, lowers⟩
    · rintro ⟨start, listed, lowers⟩
      rcases List.mem_cons.mp listed with rfl | later
      · cases lowers with
        | refl => exact Or.inl rfl
        | step inside lowers => exact Or.inr (Or.inl ⟨_, inside, lowers⟩)
      · exact Or.inr (Or.inr ⟨start, later, lowers⟩)

end Tour

end Program

end Lowering
