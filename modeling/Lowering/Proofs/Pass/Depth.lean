import Lowering.Pass.Declaration
import Lowering.Proofs.Program.Descending

/-
This file shows that a declaration is lowered by what lowers the declarations inside it and by no
other. Where those come later, the levels that a pass is given make no difference.
-/

namespace Lowering

open IR

variable {nested other : DeclId → PassM Unit}

namespace Frame

variable (frame : Frame)

theorem emitLocalDecl_congr {id : DeclId} (same : nested id = other id) :
    frame.emitLocalDecl nested id = frame.emitLocalDecl other id := by
  unfold emitLocalDecl emitLocalFunction
  rw [same]

mutual

/-- Only what a statement declares is lowered along with it. -/
theorem emitStmt_congr (stmt : Stmt) (same : ∀ inner ∈ stmt.locals, nested inner = other inner) :
    frame.emitStmt nested stmt = frame.emitStmt other stmt := by
  cases stmt with
  | decl id =>
    rw [emitStmt, emitStmt, frame.emitLocalDecl_congr (same id (List.mem_singleton_self _))]
  | block stmts span =>
    rw [emitStmt, emitStmt]
    exact emitStmts_congr stmts same
  | returned value span => rw [emitStmt, emitStmt]
  | expr expr => rw [emitStmt, emitStmt]

theorem emitStmts_congr (stmts : List Stmt)
    (same : ∀ inner ∈ Stmt.localsAll stmts, nested inner = other inner) :
    frame.emitStmts nested stmts = frame.emitStmts other stmts := by
  cases stmts with
  | nil => rw [emitStmts, emitStmts]
  | cons stmt rest =>
    have first := emitStmt_congr stmt fun inner inside => same inner (List.mem_append_left _ inside)
    have later := emitStmts_congr rest fun inner inside =>
      same inner (List.mem_append_right _ inside)
    rw [emitStmts.eq_def, emitStmts.eq_def frame other]
    dsimp only
    rw [first, later]

end

theorem emitBody_congr {routine : Routine} (same : ∀ body, routine.body = some body →
      ∀ inner ∈ Stmt.localsAll body.stmts, nested inner = other inner) :
    frame.emitBody nested routine = frame.emitBody other routine := by
  unfold emitBody
  cases given : routine.body with
  | none => rfl
  | some body =>
    dsimp only
    rw [frame.emitStmts_congr body.stmts (same body given)]

end Frame

namespace Job

variable (job : Job)

/-- What follows the look at a declaration may be known from the declaration. -/
theorem decl_bind_congr {A : Type} {id : DeclId} {next rest : Decl → PassM A}
    (same : ∀ decl, job.program.find? id = some decl → next decl = rest decl) :
    (liftM (job.program.decl id) >>= next) = (liftM (job.program.decl id) >>= rest) := by
  unfold Program.decl
  cases found : job.program.find? id with
  | none => rfl
  | some decl => exact same decl found

theorem emitRoutine_congr {id : DeclId}
    (same : ∀ inner, job.program.DeclaredIn id inner → nested inner = other inner) :
    job.emitRoutine nested id = job.emitRoutine other id := by
  refine job.decl_bind_congr fun decl found => ?_
  cases listed : decl.routine? with
  | none => rfl
  | some routine =>
    have filled (name : String) (signature : Signature) :
        job.fill nested id routine name signature = job.fill other id routine name signature := by
      have body := Frame.emitBody_congr ⟨job, id⟩ fun body given inner inside =>
        same inner ⟨decl, routine, body, found, listed, given, inside⟩
      unfold fill
      dsimp only
      rw [body]
    simp only [filled]

theorem forM_congr {each rest : DeclId → PassM Unit} {ids : List DeclId}
    (same : ∀ id ∈ ids, each id = rest id) : ids.forM each = ids.forM rest := by
  induction ids with
  | nil => rfl
  | cons id ids ids_ih =>
    show (each id >>= fun _ => ids.forM each) = (rest id >>= fun _ => ids.forM rest)
    rw [same id (List.mem_cons_self ..),
      ids_ih fun id inside => same id (List.mem_cons_of_mem _ inside)]

theorem emitMember_congr {id : DeclId} (same : nested id = other id) :
    job.emitMember nested id = job.emitMember other id := by
  unfold emitMember
  rw [same]

/-- Only what a walk goes on to is lowered along with a declaration. -/
theorem emitLevel_congr {id : DeclId}
    (same : ∀ next, job.program.Proceeds id next → nested next = other next) :
    job.emitLevel nested id = job.emitLevel other id := by
  refine job.decl_bind_congr fun decl found => ?_
  have member (next : DeclId) (listed : next ∈ decl.members) : nested next = other next :=
    same next (.member found listed)
  have members {ids : List DeclId} (listed : ∀ id ∈ ids, id ∈ decl.members) :
      ids.forM (job.emitMember nested) = ids.forM (job.emitMember other) :=
    forM_congr fun next inside => job.emitMember_congr (member next (listed next inside))
  obtain ⟨name, kind, ty, parent, span⟩ := decl
  cases kind with
  | module ids => exact forM_congr member
  | function => exact job.emitRoutine_congr fun next declared => same next (.body declared)
  | product ids conformances env =>
    have all : ids.forM (job.emitMember nested) = ids.forM (job.emitMember other) :=
      members fun _ inside => inside
    dsimp only
    unfold emitProduct
    rw [all]
  | typeExtension extended ids => exact members fun _ inside => inside
  | _ => rfl

/-- A pass with so many levels, below which anything may be done. -/
def emitFrom (bottom : DeclId → PassM Unit) : Nat → DeclId → PassM Unit
  | 0, id => bottom id
  | levels + 1, id => job.emitLevel (emitFrom bottom levels) id

theorem emitWithin_eq_emitFrom (levels : Nat) (id : DeclId) :
    job.emitWithin levels id =
      job.emitFrom (fun id => throw (.query (.endless id))) levels id := by
  induction levels generalizing id with
  | zero => rfl
  | succ levels levels_ih => exact job.emitLevel_congr fun next _ => levels_ih next

/-- With so many levels left, a pass does not see how many there are, or what is below them. -/
theorem emitFrom_eq (descends : job.program.Descends) {bottom below : DeclId → PassM Unit}
    {id : DeclId} {levels more : Nat} (some_ : 0 < levels) (others : 0 < more)
    (enough : job.program.size ≤ id.index + levels)
    (further : job.program.size ≤ id.index + more) :
    job.emitFrom bottom levels id = job.emitFrom below more id := by
  induction levels generalizing id more with
  | zero => cases some_
  | succ levels levels_ih =>
    obtain ⟨more, rfl⟩ := Nat.exists_eq_add_one.mpr others
    refine job.emitLevel_congr fun next proceeds => ?_
    obtain ⟨rises, there⟩ := descends id next proceeds
    exact levels_ih (by omega) (by omega) (by omega) (by omega)

end Job

end Lowering
