import Lowering.Proofs.Program.Descending
import Lowering.Proofs.Program.Rebodying

/-
This file removes what is never executed from the body of a function. This is whatever follows the
first return in source order, also where the return stands in a block.
-/

namespace Lowering

namespace Stmt

mutual

/-- A statement without what follows the first return in it. -/
def trimmed : Stmt → Stmt
  | .decl id => .decl id
  | .block stmts span => .block (trimmedAll stmts) span
  | .returned value span => .returned value span
  | .expr value => .expr value

/-- The statements up to the first one that returns. -/
def trimmedAll : List Stmt → List Stmt
  | [] => []
  | stmt :: rest => trimmed stmt :: if returns stmt then [] else trimmedAll rest

end

mutual

/-- Nothing is removed from a statement that does not return. -/
theorem trimmed_of_not_returns (stmt : Stmt) (falls : stmt.returns = false) :
    stmt.trimmed = stmt := by
  cases stmt with
  | block stmts span => exact congrArg (Stmt.block · span) (trimmedAll_of_not_returns stmts falls)
  | decl | returned | expr => rfl

theorem trimmedAll_of_not_returns (stmts : List Stmt) (fall : returnsAny stmts = false) :
    trimmedAll stmts = stmts := by
  cases stmts with
  | nil => rfl
  | cons stmt rest =>
    obtain ⟨first, later⟩ := Bool.or_eq_false_iff.mp fall
    rw [trimmedAll, first, trimmed_of_not_returns stmt first, if_neg Bool.false_ne_true,
      trimmedAll_of_not_returns rest later]

end

mutual

theorem locals_trimmed (stmt : Stmt) : stmt.trimmed.locals ⊆ stmt.locals := by
  cases stmt with
  | block stmts span => exact localsAll_trimmed stmts
  | decl | returned | expr => exact List.Subset.refl _

theorem localsAll_trimmed (stmts : List Stmt) : localsAll (trimmedAll stmts) ⊆ localsAll stmts := by
  cases stmts with
  | nil => exact List.Subset.refl _
  | cons stmt rest =>
    rw [trimmedAll, localsAll, localsAll]
    intro id listed
    refine List.mem_append.mpr
      ((List.mem_append.mp listed).imp (locals_trimmed stmt ·) fun later => ?_)
    split at later
    · cases later
    · exact localsAll_trimmed rest later

end

end Stmt

def Body.trimmed (body : Body) : Body := { body with stmts := Stmt.trimmedAll body.stmts }

def Routine.trimmed (routine : Routine) : Routine :=
  { routine with body := routine.body.map Body.trimmed }

def Decl.trimmed (decl : Decl) : Decl := decl.mapKind (.mapRoutine Routine.trimmed)

theorem Routine.rebodies_trimmed (routine : Routine) : routine.Rebodies routine.trimmed :=
  .intro _ Option.isNone_map

theorem Decl.body_trimmed (decl : Decl) :
    decl.trimmed.routine?.bind Routine.body =
      (decl.routine?.bind Routine.body).map Body.trimmed := by
  obtain ⟨name, kind, ty, parent, span⟩ := decl
  cases kind <;> rfl

theorem Decl.rebodies_trimmed (decl : Decl) : decl.Rebodies decl.trimmed := by
  obtain ⟨name, kind, ty, parent, span⟩ := decl
  cases kind with
  | function routine => exact .function routine.rebodies_trimmed name ty parent span
  | _ => exact .same _

theorem Decl.rebodies_of_kept {decl peer : Decl} (kept : peer = decl ∨ peer = decl.trimmed) :
    decl.Rebodies peer := by
  obtain rfl | rfl := kept
  · exact .same peer
  · exact decl.rebodies_trimmed

namespace Program

/-- The same program, without the code of one function that is never executed. -/
def trimmed (program : Program) (id : DeclId) : Program := program.modify id Decl.trimmed

variable {program : Program} {id : DeclId}

theorem find?_trimmed (other : DeclId) : (program.trimmed id).find? other =
    if other = id then (program.find? other).map Decl.trimmed else program.find? other := by
  unfold find? trimmed modify
  rw [Array.getElem?_modify]
  split
  next same => rw [if_pos (congrArg DeclId.mk same.symm)]
  next apart => rw [if_neg fun same => apart (congrArg DeclId.index same.symm)]

/-- What is asked about a declaration is answered alike, if trimming does not matter there. -/
theorem pass_trimmed {A : Type} (other : DeclId) {next again : Decl → PassM A}
    (rest : ∀ decl peer, peer = decl ∨ peer = decl.trimmed → again peer = next decl) :
    (liftM ((program.trimmed id).decl other) >>= again : PassM A) =
      liftM (program.decl other) >>= next := by
  unfold decl
  rw [find?_trimmed]
  by_cases same : other = id
  · rw [if_pos same]
    cases program.find? other with
    | none => rfl
    | some decl => exact rest decl decl.trimmed (Or.inr rfl)
  · rw [if_neg same]
    cases program.find? other with
    | none => rfl
    | some decl => exact rest decl decl (Or.inl rfl)

theorem resembles_trimmed (program : Program) (id : DeclId) :
    program.Resembles (program.trimmed id) where
  size := size_modify _ _ _
  decls other := by
    rw [find?_trimmed]
    cases program.find? other with
    | none => split <;> exact .none
    | some decl =>
      split
      · exact .some decl.rebodies_trimmed
      · exact .some (.same decl)

/-- No function captures anything else without the code of one that is never executed. -/
def Spares (program : Program) (id : DeclId) : Prop :=
  ∀ other, (program.trimmed id).captures other = program.captures other

/-- Where the captures are the same, nothing else is different. -/
theorem Spares.rebodies (spares : program.Spares id) : program.Rebodies (program.trimmed id) :=
  { program.resembles_trimmed id with captures := spares }

theorem captures_of_find?_eq_none {other : DeclId} (missing : program.find? other = none) :
    program.captures other = .error (.dangling other) := by
  have lost : program.decl other = .error (.dangling other) := by rw [decl, missing]
  rw [captures, walkLimit, captureRoutine, routine?, lost]
  rfl

/-- There is nothing to compare for a function that is not there. -/
theorem spares_iff : program.Spares id ↔ ∀ index < program.size,
    (program.trimmed id).captures ⟨index⟩ = program.captures ⟨index⟩ := by
  refine ⟨fun spares index _ => spares ⟨index⟩, fun spares other => ?_⟩
  by_cases inside : other.index < program.size
  · exact spares other.index inside
  have missing (program : Program) (outside : ¬other.index < program.size) :
      program.find? other = none := by
    rw [find?, Array.getElem?_eq_none_iff]
    exact Nat.le_of_not_lt outside
  rw [captures_of_find?_eq_none (missing program inside),
    captures_of_find?_eq_none (missing _ ((program.resembles_trimmed id).size ▸ inside))]

instance : Decidable (program.Spares id) := decidable_of_iff' _ spares_iff

section Captures

/-- The step adds captures after those that were found before. -/
def Appends (step : List DeclId → Answer (List DeclId)) : Prop :=
  ∀ found captures, step found = .ok captures → found <+: captures

theorem appends_captureExpr (root : DeclId) (expr : Expr) :
    Appends fun found => program.captureExpr root found expr := by
  intro found captures captured
  unfold captureExpr at captured
  generalize expr.references = ids at captured
  induction ids generalizing found with
  | nil => exact Except.ok.inj captured ▸ List.prefix_rfl
  | cons id ids ids_ih =>
    obtain ⟨between, first, rest⟩ := (check_bind _ _ _).mp captured
    refine List.IsPrefix.trans ?_ (ids_ih between rest)
    unfold captureRef at first
    obtain ⟨answer, _, first⟩ := (check_bind _ _ _).mp first
    split at first
    · obtain rfl := (check_pure _ _).mp first
      split
      · exact List.prefix_rfl
      · exact List.prefix_append _ _
    · exact (check_pure _ _).mp first ▸ List.prefix_rfl

theorem appends_captureOption (root : DeclId) (expr : Option Expr) :
    Appends fun found => program.captureOption root found expr := by
  cases expr with
  | none => exact fun found captures captured => Except.ok.inj captured ▸ List.prefix_rfl
  | some expr => exact appends_captureExpr root expr

section Statements

variable {nested : List DeclId → DeclId → Answer (List DeclId)} {root : DeclId}
  (grows : ∀ inner, Appends fun found => nested found inner)

include grows

theorem appends_captureDecl (inner : DeclId) :
    Appends fun found => program.captureStmt nested root found (.decl inner) := by
  intro found captures captured
  obtain ⟨decl, _, captured⟩ := (check_bind _ _ _).mp captured
  split at captured
  next binding => exact appends_captureOption root _ found captures captured
  next => exact grows inner found captures captured
  next => exact (check_pure _ _).mp captured ▸ List.prefix_rfl

omit grows

mutual

theorem appends_captureStmt (grows : ∀ inner, Appends fun found => nested found inner)
    (stmt : Stmt) : Appends fun found => program.captureStmt nested root found stmt := by
  cases stmt with
  | decl id => exact appends_captureDecl grows id
  | block stmts span =>
    exact fun found captures captured => appends_captureStmts grows stmts found captures captured
  | returned value span =>
    exact fun found captures captured => appends_captureOption root value found captures captured
  | expr value =>
    exact fun found captures captured => appends_captureExpr root value found captures captured

theorem appends_captureStmts (grows : ∀ inner, Appends fun found => nested found inner)
    (stmts : List Stmt) : Appends fun found => program.captureStmts nested root found stmts := by
  intro found captures captured
  cases stmts with
  | nil => exact Except.ok.inj captured ▸ List.prefix_rfl
  | cons stmt rest =>
    obtain ⟨between, first, later⟩ := (check_bind _ _ _).mp captured
    exact (appends_captureStmt grows stmt found between first).trans
      (appends_captureStmts grows rest between captures later)

end

mutual

/-- What is captured before the first return is captured first. -/
theorem captureStmt_trimmed (grows : ∀ inner, Appends fun found => nested found inner) (stmt : Stmt)
    {found captures : List DeclId}
    (captured : program.captureStmt nested root found stmt = .ok captures) :
    ∃ early, program.captureStmt nested root found stmt.trimmed = .ok early ∧
      early <+: captures := by
  cases stmt with
  | block stmts span => exact captureStmts_trimmed grows stmts captured
  | decl | returned | expr => exact ⟨captures, captured, List.prefix_rfl⟩

theorem captureStmts_trimmed (grows : ∀ inner, Appends fun found => nested found inner)
    (stmts : List Stmt) {found captures : List DeclId}
    (captured : program.captureStmts nested root found stmts = .ok captures) :
    ∃ early, program.captureStmts nested root found (Stmt.trimmedAll stmts) = .ok early ∧
      early <+: captures := by
  cases stmts with
  | nil => exact ⟨captures, captured, List.prefix_rfl⟩
  | cons stmt rest =>
    obtain ⟨between, first, later⟩ := (check_bind _ _ _).mp captured
    rw [Stmt.trimmedAll]
    cases falls : stmt.returns with
    | false =>
      obtain ⟨early, ends, before⟩ := captureStmts_trimmed grows rest later
      rw [Stmt.trimmed_of_not_returns stmt falls, if_neg Bool.false_ne_true]
      exact ⟨early, (check_bind _ _ _).mpr ⟨between, first, ends⟩, before⟩
    | true =>
      obtain ⟨early, ends, before⟩ := captureStmt_trimmed grows stmt first
      exact ⟨early, (check_bind _ _ _).mpr ⟨early, ends, rfl⟩,
        before.trans (appends_captureStmts grows rest between captures later)⟩

end

end Statements

theorem appends_captureRoutine (root : DeclId) (steps : Nat) (id : DeclId) :
    Appends fun found => program.captureRoutine root steps found id := by
  induction steps generalizing id with
  | zero => exact fun _ _ impossible => nomatch impossible
  | succ steps steps_ih =>
    intro found captures captured
    obtain ⟨routine, _, captured⟩ := (check_bind _ _ _).mp captured
    split at captured
    next body _ => exact appends_captureStmts steps_ih body.stmts found captures captured
    next => exact (check_pure _ _).mp captured ▸ List.prefix_rfl

section Apart

variable (apart : ∀ owner, ¬program.DeclaredIn owner id)

include apart

/-- The scan of another function does not come to a function that no body declares. -/
theorem captureRoutine_trimmed (root : DeclId) (steps : Nat) (found : List DeclId) {other : DeclId}
    (differs : other ≠ id) : (program.trimmed id).captureRoutine root steps found other =
      program.captureRoutine root steps found other := by
  induction steps generalizing found other with
  | zero => rfl
  | succ steps steps_ih =>
    have same : (program.trimmed id).decl other = program.decl other := by
      rw [decl, decl, find?_trimmed, if_neg differs]
    rw [captureRoutine, captureRoutine, routine?, routine?, same]
    cases present : program.decl other with
    | error => rfl
    | ok decl =>
      simp only [bind, Except.bind, pure, Except.pure]
      cases held : decl.routine?.bind Routine.body with
      | none => rfl
      | some body =>
        dsimp only
        rw [(program.resembles_trimmed id).akin.captureStmts]
        refine captureStmts_congr found body.stmts fun inner inside found => steps_ih found ?_
        obtain ⟨routine, listed, given⟩ := Option.bind_eq_some_iff.mp held
        rintro rfl
        exact apart other ⟨decl, routine, body, decl_eq_ok.mp present, listed, given, inside⟩

/-- Where a function captures nothing, its code is of no concern to the captures of others. -/
theorem spares_of_captures_eq_nil (nothing : program.captures id = .ok []) :
    program.Spares id := by
  intro other
  have limit := (program.resembles_trimmed id).akin.walkLimit
  by_cases differs : other = id
  · subst differs
    unfold captures at nothing ⊢
    rw [limit, nothing]
    unfold walkLimit captureRoutine at nothing ⊢
    obtain ⟨_, listed, captured⟩ := (check_bind _ _ _).mp nothing
    obtain ⟨decl, present, listed⟩ := (check_bind _ _ _).mp listed
    obtain rfl := (check_pure _ _).mp listed
    have found : (program.trimmed other).find? other = some decl.trimmed := by
      rw [find?_trimmed, if_pos rfl, decl_eq_ok.mp present, Option.map_some]
    refine (check_bind _ _ _).mpr ⟨decl.trimmed.routine?,
      (check_bind _ _ _).mpr ⟨_, decl_eq_ok.mpr found, rfl⟩, ?_⟩
    rw [decl.body_trimmed]
    cases held : decl.routine?.bind Routine.body with
    | none => rfl
    | some body =>
      rw [held] at captured
      obtain ⟨early, ends, before⟩ := captureStmts_trimmed (appends_captureRoutine _ _) _ captured
      obtain rfl := List.prefix_nil.mp before
      have scanned := (program.resembles_trimmed other).akin.captureStmts
        ((program.trimmed other).captureRoutine other program.size) other [] body.trimmed.stmts
      refine scanned.trans (.trans (captureStmts_congr [] _ fun inner inside found => ?_) ends)
      refine captureRoutine_trimmed apart _ _ _ ?_
      obtain ⟨routine, holds, given⟩ := Option.bind_eq_some_iff.mp held
      rintro rfl
      exact apart inner ⟨decl, routine, body, decl_eq_ok.mp present, holds, given,
        Stmt.localsAll_trimmed _ inside⟩
  · rw [captures, captures, limit, captureRoutine_trimmed apart _ _ _ differs]

end Apart

end Captures

end Program

end Lowering
