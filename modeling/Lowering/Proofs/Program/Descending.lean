import Lowering.Proofs.Program.Capturing
import Lowering.Proofs.Program.Gathering

/-
This file shows that every walk into the declarations of an assembled program comes to an end: what
is lowered or scanned next stands behind the declaration that it is a part of.
-/

namespace Lowering

namespace Program

/-- A walk goes on from a declaration to its members, and to what its body declares. -/
inductive Proceeds (program : Program) : DeclId → DeclId → Prop
  | member {id next : DeclId} {decl : Decl} (found : program.find? id = some decl)
    (listed : next ∈ decl.members) : Proceeds program id next
  | body {id next : DeclId} (declared : program.DeclaredIn id next) : Proceeds program id next

/-- What a walk goes on to is there, and comes later. -/
def Descends (program : Program) : Prop :=
  ∀ id next, program.Proceeds id next → id.index < next.index ∧ next.index < program.size

variable {program : Program}

theorem Assembled.descends (assembled : program.Assembled) (founded : program.Founded)
    (owning : program.OwnsLocals) : program.Descends := by
  have later {id next : DeclId} {own : Decl} (there : program.find? next = some own)
      (inside : own.parent = some id) : id.index < next.index ∧ next.index < program.size :=
    ⟨founded.parents (next, own) (mem_entries there) id inside, lt_of_find? there⟩
  intro id next proceeds
  cases proceeds with
  | member found listed =>
    obtain ⟨own, there, inside⟩ := assembled.gathers id _ found next (List.mem_append_left _ listed)
    exact later there inside
  | body declared =>
    obtain ⟨decl, routine, body, found, listed, given, inside⟩ := declared
    obtain ⟨own, there, parent⟩ := owning.parent found listed given inside
    exact later there parent

/-- No walk is longer than the program, since every step of it goes to a later declaration. -/
theorem Descends.length_le (descends : program.Descends) {path : List DeclId}
    (walks : path.IsChain program.Proceeds) (there : ∀ id ∈ path, id.index < program.size) :
    path.length ≤ program.size := by
  have bound : ∀ id rest, path = id :: rest → id.index + path.length ≤ program.size := by
    induction path with
    | nil => exact fun _ _ impossible => nomatch impossible
    | cons first path path_ih =>
      rintro id rest ⟨rfl, rfl⟩
      cases path with
      | nil => exact there first (List.mem_singleton_self _)
      | cons next path =>
        obtain ⟨step, walks⟩ := List.isChain_cons_cons.mp walks
        have below := path_ih walks (fun id inside => there id (List.mem_cons_of_mem _ inside))
          next path rfl
        have rises := (descends first next step).1
        simp only [List.length_cons] at below ⊢
        omega
  cases path with
  | nil => exact Nat.zero_le _
  | cons id rest => exact Nat.le_of_add_left_le (bound id rest rfl)

section Captures

variable {root : DeclId} {nested other : List DeclId → DeclId → Answer (List DeclId)}

mutual

/-- Only the functions that a statement declares are scanned along with it. -/
theorem captureStmt_congr (found : List DeclId) (stmt : Stmt)
    (same : ∀ inner ∈ stmt.locals, ∀ found, nested found inner = other found inner) :
    program.captureStmt nested root found stmt = program.captureStmt other root found stmt := by
  cases stmt with
  | decl id =>
    simp only [captureStmt]
    refine congrArg _ (funext fun decl => ?_)
    cases decl.kind with
    | function => exact same id (List.mem_singleton_self _) found
    | _ => rfl
  | block stmts span =>
    simp only [captureStmt]
    exact captureStmts_congr found stmts same
  | returned value span => simp only [captureStmt]
  | expr expr => simp only [captureStmt]

theorem captureStmts_congr (found : List DeclId) (stmts : List Stmt)
    (same : ∀ inner ∈ Stmt.localsAll stmts, ∀ found, nested found inner = other found inner) :
    program.captureStmts nested root found stmts = program.captureStmts other root found stmts := by
  cases stmts with
  | nil => simp only [captureStmts]
  | cons stmt rest =>
    simp only [captureStmts]
    rw [captureStmt_congr found stmt fun inner inside => same inner (List.mem_append_left _ inside)]
    refine congrArg _ (funext fun middle => ?_)
    exact captureStmts_congr middle rest fun inner inside =>
      same inner (List.mem_append_right _ inside)

end

/-- A scan with so many steps left does not see how many there are. -/
theorem Descends.captureRoutine_eq (descends : program.Descends) {id : DeclId} {steps more : Nat}
    (some_ : 0 < steps) (others : 0 < more) (enough : program.size ≤ id.index + steps)
    (further : program.size ≤ id.index + more) (found : List DeclId) :
    program.captureRoutine root steps found id = program.captureRoutine root more found id := by
  induction steps generalizing id more found with
  | zero => cases some_
  | succ steps steps_ih =>
    obtain ⟨more, rfl⟩ := Nat.exists_eq_add_one.mpr others
    unfold captureRoutine
    cases present : program.find? id with
    | none => simp only [routine?, decl, present, bind, Except.bind]
    | some own =>
      simp only [routine?, decl, present, bind, Except.bind, pure, Except.pure]
      cases held : own.routine?.bind Routine.body with
      | none => simp only
      | some body =>
        simp only
        refine captureStmts_congr found body.stmts fun inner inside found => ?_
        obtain ⟨routine, listed, given⟩ := Option.bind_eq_some_iff.mp held
        obtain ⟨rises, below⟩ :=
          descends id inner (.body ⟨own, routine, body, present, listed, given, inside⟩)
        exact steps_ih (by omega) (by omega) (by omega) (by omega) found

end Captures

end Program

end Lowering
