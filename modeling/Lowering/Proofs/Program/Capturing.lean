import Lowering.Program.Capture
import Lowering.Proofs.Program.Nesting
import Lowering.Proofs.Program.Occurrence
import Lowering.Proofs.Run

/-
This file says what a function captures: whatever is mentioned in it, or in a function declared in
it, and belongs to another function around it. A function has at hand what the functions declared in
it capture.
-/

namespace Lowering

/-- Types, views and extensions, which have methods and constructors. -/
def DeclKind.isTypeSpace : DeclKind → Bool
  | .product .. | .view _ | .typeExtension .. => true
  | _ => false

namespace Program

variable (program : Program)

/-- The function captures the declaration. -/
def Captured (root id : DeclId) : Prop := program.isCapturedBy root id = .ok true

/-- A declaration refers to another, or its body declares something that does. -/
inductive Mentions : DeclId → DeclId → Prop
  | own {id target : DeclId} {decl : Decl} {expr : Expr} (found : program.find? id = some decl)
      (inside : expr ∈ decl.exprs) (refers : target ∈ expr.references) : Mentions id target
  | inside {id inner target : DeclId} {decl : Decl} {routine : Routine} {body : Body}
      (found : program.find? id = some decl) (holds : decl.routine? = some routine)
      (given : routine.body = some body) (listed : inner ∈ Stmt.localsAll body.stmts)
      (mentions : Mentions inner target) : Mentions id target

/-- A statement refers to a declaration, or declares something that does. -/
def Within (exprs : List Expr) (locals : List DeclId) (target : DeclId) : Prop :=
  (∃ expr ∈ exprs, target ∈ expr.references) ∨ ∃ inner ∈ locals, program.Mentions inner target

/--
Declarations are made from others that are there already: the space around a declaration comes
before it, and so does nothing refer to a declaration that is not there.
-/
structure Founded : Prop where
  parents : ∀ entry ∈ program.entries, ∀ parent ∈ entry.2.parent, parent.index < entry.1.index
  references : ∀ decl ∈ program.decls.toList, ∀ expr ∈ decl.exprs, ∀ id ∈ expr.references,
    id.index < program.size

instance : Decidable program.Founded :=
  decidable_of_iff (_ ∧ _) ⟨fun ⟨parents, references⟩ => ⟨parents, references⟩,
    fun ⟨parents, references⟩ => ⟨parents, references⟩⟩

/-- What a function body declares has the function around it. -/
def OwnsLocals : Prop :=
  ∀ entry ∈ program.entries, ∀ routine ∈ entry.2.routine?, ∀ body ∈ routine.body,
    ∀ inner ∈ Stmt.localsAll body.stmts, (program.find? inner).map Decl.parent = some (some entry.1)

instance : Decidable program.OwnsLocals := by
  unfold OwnsLocals
  infer_instance

/-- Methods and constructors stand in types, views and extensions. -/
def HousesMembers : Prop :=
  ∀ decl ∈ program.decls.toList, ∀ routine ∈ decl.routine?,
    (routine.isMember || routine.isConstructor) = true →
      ∃ parent ∈ decl.parent, ∃ outer ∈ program.find? parent, outer.kind.isTypeSpace = true

instance : Decidable program.HousesMembers := by
  unfold HousesMembers
  infer_instance

section Collecting

variable {program} {root : DeclId}

/-- The step adds what is mentioned and captured to what was found before. -/
def Collects (program : Program) (root : DeclId) (mentioned : DeclId → Prop)
    (step : List DeclId → Answer (List DeclId)) : Prop :=
  ∀ found, ∃ result, step found = .ok result ∧
    ∀ target, target ∈ result ↔ target ∈ found ∨ mentioned target ∧ program.Captured root target

namespace Collects

variable {first second mentioned : DeclId → Prop} {step rest : List DeclId → Answer (List DeclId)}

theorem none (nothing : ∀ target, ¬mentioned target) :
    program.Collects root mentioned fun found => .ok found :=
  fun found => ⟨found, rfl, fun target => by simp [nothing target]⟩

theorem mono (collects : program.Collects root first step)
    (same : ∀ target, first target ↔ second target) : program.Collects root second step := by
  intro found
  obtain ⟨result, done, members⟩ := collects found
  exact ⟨result, done, fun target => by rw [members, same]⟩

theorem bind (early : program.Collects root first step) (late : program.Collects root second rest) :
    program.Collects root (fun target => first target ∨ second target)
      fun found => step found >>= rest := by
  intro found
  obtain ⟨middle, done, members⟩ := early found
  obtain ⟨result, ran, others⟩ := late middle
  refine ⟨result, (check_bind _ _ _).mpr ⟨middle, done, ran⟩, fun target => ?_⟩
  rw [others, members, or_and_right, or_assoc]

theorem captureRef {id : DeclId} (known : ∃ answer, program.isCapturedBy root id = .ok answer) :
    program.Collects root (· = id) fun found => program.captureRef root found id := by
  intro found
  obtain ⟨answer, given⟩ := known
  unfold Program.captureRef
  rw [given]
  cases answer with
  | false =>
    refine ⟨found, rfl, fun target => ?_⟩
    have free : ¬(target = id ∧ program.Captured root target) := by
      rintro ⟨rfl, captured⟩
      exact nomatch given.symm.trans captured
    simp [free]
  | true =>
    refine ⟨if id ∈ found then found else found ++ [id], rfl, fun target => ?_⟩
    · have captured : target = id ∧ program.Captured root target ↔ target = id :=
        ⟨And.left, fun same => ⟨same, same ▸ given⟩⟩
      rw [captured]
      split
      next old => exact ⟨Or.inl, fun either => either.elim (fun there => there) (· ▸ old)⟩
      next => simp

theorem captureExpr {expr : Expr}
    (known : ∀ id ∈ expr.references, ∃ answer, program.isCapturedBy root id = .ok answer) :
    program.Collects root (· ∈ expr.references) fun found =>
      program.captureExpr root found expr := by
  unfold Program.captureExpr
  generalize expr.references = ids at known
  induction ids with
  | nil => exact .none fun _ => List.not_mem_nil
  | cons id ids ids_ih =>
    have first := Collects.captureRef (known id (List.mem_cons_self ..))
    have rest := ids_ih fun other inside => known other (List.mem_cons_of_mem _ inside)
    exact (first.bind rest).mono fun target => List.mem_cons.symm

theorem captureOption {value : Option Expr} (known : ∀ expr ∈ value, ∀ id ∈ expr.references,
      ∃ answer, program.isCapturedBy root id = .ok answer) :
    program.Collects root (fun target => ∃ expr ∈ value.toList, target ∈ expr.references)
      fun found => program.captureOption root found value := by
  cases value with
  | none => exact .none fun target => by simp
  | some expr => exact (captureExpr (known expr rfl)).mono fun target => by simp

end Collects

/-- A declaration inside a body can be scanned, and a function there collects what it mentions. -/
structure Scans (program : Program) (root : DeclId)
    (nested : List DeclId → DeclId → Answer (List DeclId)) (inner : DeclId) : Prop where
  there : ∃ decl, program.find? inner = some decl
  known : ∀ decl, program.find? inner = some decl → ∀ expr ∈ decl.exprs, ∀ id ∈ expr.references,
    ∃ answer, program.isCapturedBy root id = .ok answer
  function : ∀ decl routine, program.find? inner = some decl → decl.routine? = some routine →
    program.Collects root (program.Mentions inner) fun found => nested found inner

/-- What is mentioned anywhere but in a function body is mentioned by the declaration itself. -/
theorem mentions_iff_own {id target : DeclId} {decl : Decl} (found : program.find? id = some decl)
    (plain : decl.routine? = none) :
    program.Mentions id target ↔ ∃ expr ∈ decl.exprs, target ∈ expr.references := by
  constructor
  · intro mentions
    cases mentions with
    | own present inside refers =>
      obtain rfl := Option.some.inj (found.symm.trans present)
      exact ⟨_, inside, refers⟩
    | inside present holds =>
      obtain rfl := Option.some.inj (found.symm.trans present)
      exact nomatch plain.symm.trans holds
  · rintro ⟨expr, inside, refers⟩
    exact .own found inside refers

section Statements

variable {nested : List DeclId → DeclId → Answer (List DeclId)}

theorem captureDecl_collects {inner : DeclId} (scans : program.Scans root nested inner) :
    program.Collects root (program.Mentions inner) fun found =>
      program.captureStmt nested root found (.decl inner) := by
  obtain ⟨⟨name, kind, ty, parent, span⟩, found⟩ := scans.there
  have known := scans.known _ found
  unfold captureStmt
  rw [decl_eq_ok.mpr found]
  cases kind with
  | binding binding =>
    refine Collects.mono (.captureOption fun expr given => known expr ?_)
      fun target => (mentions_iff_own found rfl).symm
    exact Option.mem_toList.mpr given
  | function routine => exact scans.function _ routine found rfl
  | _ =>
    refine Collects.none fun target mentions => ?_
    obtain ⟨expr, inside, _⟩ := (mentions_iff_own found rfl).mp mentions
    cases inside

mutual

theorem captureStmt_collects (stmt : Stmt) (known : ∀ expr ∈ stmt.exprs, ∀ id ∈ expr.references,
      ∃ answer, program.isCapturedBy root id = .ok answer)
    (scans : ∀ inner ∈ stmt.locals, program.Scans root nested inner) :
    program.Collects root (program.Within stmt.exprs stmt.locals) fun found =>
      program.captureStmt nested root found stmt := by
  cases stmt with
  | decl id =>
    refine (captureDecl_collects (scans id (List.mem_singleton_self _))).mono fun target => ?_
    simp [Within, Stmt.exprs, Stmt.locals]
  | block stmts span =>
    simp only [captureStmt]
    exact captureStmts_collects stmts known scans
  | returned value span =>
    simp only [captureStmt]
    refine Collects.mono (.captureOption fun expr given => known expr ?_) fun target => ?_
    · exact Option.mem_toList.mpr given
    · simp [Within, Stmt.exprs, Stmt.locals]
  | expr expr =>
    simp only [captureStmt]
    refine Collects.mono (.captureExpr (known expr (List.mem_singleton_self _))) fun target => ?_
    simp [Within, Stmt.exprs, Stmt.locals]

theorem captureStmts_collects (stmts : List Stmt)
    (known : ∀ expr ∈ Stmt.exprsAll stmts, ∀ id ∈ expr.references,
      ∃ answer, program.isCapturedBy root id = .ok answer)
    (scans : ∀ inner ∈ Stmt.localsAll stmts, program.Scans root nested inner) :
    program.Collects root (program.Within (Stmt.exprsAll stmts) (Stmt.localsAll stmts)) fun found =>
      program.captureStmts nested root found stmts := by
  cases stmts with
  | nil =>
    simp only [captureStmts]
    exact .none fun target => by simp [Within, Stmt.exprsAll, Stmt.localsAll]
  | cons stmt rest =>
    simp only [captureStmts]
    have first := captureStmt_collects stmt
      (fun expr inside => known expr (List.mem_append_left _ inside))
      (fun inner inside => scans inner (List.mem_append_left _ inside))
    have later := captureStmts_collects rest
      (fun expr inside => known expr (List.mem_append_right _ inside))
      (fun inner inside => scans inner (List.mem_append_right _ inside))
    refine (first.bind later).mono fun target => ?_
    simp only [Within, Stmt.exprsAll, Stmt.localsAll, List.mem_append, or_and_right, exists_or]
    exact or_or_or_comm

end

end Statements

end Collecting

section Finding

/-- The step finds nothing but what is captured, and nothing again. -/
def Finds (root : DeclId) (step : List DeclId → Answer (List DeclId)) : Prop :=
  ∀ found result, step found = .ok result →
    (∀ target ∈ result, target ∈ found ∨ program.Captured root target) ∧
      (found.Nodup → result.Nodup)

variable {program} {root : DeclId} {step rest : List DeclId → Answer (List DeclId)}

namespace Finds

theorem none : program.Finds root fun found => .ok found := by
  intro found result done
  obtain rfl := Except.ok.inj done
  exact ⟨fun _ inside => Or.inl inside, fun distinct => distinct⟩

theorem bind (first : program.Finds root step) (later : program.Finds root rest) :
    program.Finds root fun found => step found >>= rest := by
  intro found result done
  obtain ⟨middle, ran, done⟩ := (check_bind _ _ _).mp done
  obtain ⟨captured, distinct⟩ := first found middle ran
  obtain ⟨captured_later, distinct_later⟩ := later middle result done
  refine ⟨fun target inside => ?_, fun before => distinct_later (distinct before)⟩
  rcases captured_later target inside with old | new
  · exact captured target old
  · exact Or.inr new

theorem captureRef (id : DeclId) :
    program.Finds root fun found => program.captureRef root found id := by
  intro found result done
  obtain ⟨answer, given, done⟩ := (check_bind _ _ _).mp done
  cases answer with
  | false => exact none found result done
  | true =>
    obtain rfl := Except.ok.inj done
    split
    next => exact none found found rfl
    next new =>
      refine ⟨fun target inside => ?_, fun distinct => ?_⟩
      · rcases List.mem_append.mp inside with old | last
        · exact Or.inl old
        · exact Or.inr (List.mem_singleton.mp last ▸ given)
      · refine List.nodup_append.mpr ⟨distinct, List.pairwise_singleton .., ?_⟩
        intro target inside last listed same
        exact new (List.mem_singleton.mp listed ▸ same ▸ inside)

theorem captureExpr (expr : Expr) :
    program.Finds root fun found => program.captureExpr root found expr := by
  unfold Program.captureExpr
  induction expr.references with
  | nil => exact none
  | cons id ids ids_ih => exact (captureRef id).bind ids_ih

theorem captureOption (value : Option Expr) :
    program.Finds root fun found => program.captureOption root found value := by
  cases value with
  | none => exact none
  | some expr => exact captureExpr expr

section Statements

variable {nested : List DeclId → DeclId → Answer (List DeclId)}

mutual

theorem captureStmt (within : ∀ id, program.Finds root fun found => nested found id)
    (stmt : Stmt) : program.Finds root fun found => program.captureStmt nested root found stmt := by
  cases stmt with
  | decl id =>
    intro found result done
    simp only [Program.captureStmt] at done
    obtain ⟨decl, _, done⟩ := (check_bind _ _ _).mp done
    cases kind : decl.kind with
    | binding binding =>
      rw [kind] at done
      exact captureOption _ found result done
    | function routine =>
      rw [kind] at done
      exact within id found result done
    | _ =>
      rw [kind] at done
      exact none found result done
  | block stmts span =>
    simp only [Program.captureStmt]
    exact captureStmts within stmts
  | returned value span =>
    simp only [Program.captureStmt]
    exact captureOption value
  | expr expr =>
    simp only [Program.captureStmt]
    exact captureExpr expr

theorem captureStmts (within : ∀ id, program.Finds root fun found => nested found id)
    (stmts : List Stmt) :
    program.Finds root fun found => program.captureStmts nested root found stmts := by
  cases stmts with
  | nil =>
    simp only [Program.captureStmts]
    exact none
  | cons stmt rest =>
    simp only [Program.captureStmts]
    exact (captureStmt within stmt).bind (captureStmts within rest)

end

end Statements

theorem captureRoutine (steps : Nat) (id : DeclId) :
    program.Finds root fun found => program.captureRoutine root steps found id := by
  induction steps generalizing id with
  | zero => exact fun _ _ done => nomatch done
  | succ steps steps_ih =>
    intro found result done
    unfold Program.captureRoutine at done
    obtain ⟨routine, _, done⟩ := (check_bind _ _ _).mp done
    cases given : routine.bind Routine.body with
    | none =>
      rw [given] at done
      exact none found result done
    | some body =>
      rw [given] at done
      exact captureStmts steps_ih body.stmts found result done

end Finds

/-- Whatever a program is like, a function captures only what belongs to another around it. -/
theorem captured_of_mem {id target : DeclId} {captures : List DeclId}
    (given : program.captures id = .ok captures) (inside : target ∈ captures) :
    program.Captured id target :=
  ((Finds.captureRoutine program.walkLimit id [] captures given).1 target inside).resolve_left
    List.not_mem_nil

/-- No capture is listed twice. -/
theorem nodup_captures {id : DeclId} {captures : List DeclId}
    (given : program.captures id = .ok captures) : captures.Nodup :=
  (Finds.captureRoutine program.walkLimit id [] captures given).2 .nil

/-- A function without a body refers to nothing. -/
theorem captures_of_bodyless {id : DeclId} {decl : Decl} (found : program.find? id = some decl)
    (bare : decl.routine?.bind Routine.body = none) : program.captures id = .ok [] := by
  show (program.routine? id >>= _) = _
  rw [Program.routine?, decl_eq_ok.mpr found]
  simp only [bind, pure, Except.bind, Except.pure, bare]

end Finding

section Walks

variable {program}

theorem find?_of_lt {id : DeclId} (inside : id.index < program.size) :
    ∃ decl, program.find? id = some decl :=
  ⟨_, Array.getElem?_eq_getElem inside⟩

theorem lt_of_find? {id : DeclId} {decl : Decl} (found : program.find? id = some decl) :
    id.index < program.size :=
  (Array.getElem?_eq_some_iff.mp found).1

/-- A walk outwards that has so many steps left does not run out of them. -/
def Ends (program : Program) (steps : Nat) (scope : Option DeclId) : Prop :=
  ∀ id ∈ scope, id.index < program.size ∧ id.index < steps

theorem Founded.ends_parent (founded : program.Founded) {id : DeclId} {decl : Decl}
    (found : program.find? id = some decl) {steps : Nat} (below : id.index ≤ steps) :
    program.Ends steps decl.parent := by
  intro parent given
  have before := founded.parents (id, decl) (mem_entries found) parent given
  have inside := lt_of_find? found
  dsimp only at before
  exact ⟨by omega, by omega⟩

theorem Founded.ownerFrom (founded : program.Founded) {steps : Nat} {scope : Option DeclId}
    (ends : program.Ends steps scope) : ∃ owner, program.ownerFrom steps scope = .ok owner := by
  induction steps generalizing scope with
  | zero =>
    cases scope with
    | none => exact ⟨none, rfl⟩
    | some id => exact absurd (ends id rfl).2 (Nat.not_lt_zero _)
  | succ steps steps_ih =>
    cases scope with
    | none => exact ⟨none, rfl⟩
    | some id =>
      obtain ⟨inside, below⟩ := ends id rfl
      obtain ⟨⟨name, kind, ty, parent, span⟩, found⟩ := find?_of_lt inside
      have outer := steps_ih (founded.ends_parent found (Nat.le_of_lt_succ below))
      unfold Program.ownerFrom
      rw [decl_eq_ok.mpr found]
      cases kind with
      | function => exact ⟨some id, rfl⟩
      | module | product | view | typeExtension => exact ⟨none, rfl⟩
      | imported | binding | «variable» | parameter | abstractType | «alias» | genericParam =>
        exact outer

theorem Founded.isAroundFrom (founded : program.Founded) (ancestor : DeclId) {steps : Nat}
    {scope : Option DeclId} (ends : program.Ends steps scope) :
    ∃ answer, program.isAroundFrom ancestor steps scope = .ok answer := by
  induction steps generalizing scope with
  | zero =>
    cases scope with
    | none => exact ⟨false, rfl⟩
    | some id => exact absurd (ends id rfl).2 (Nat.not_lt_zero _)
  | succ steps steps_ih =>
    cases scope with
    | none => exact ⟨false, rfl⟩
    | some id =>
      obtain ⟨inside, below⟩ := ends id rfl
      obtain ⟨decl, found⟩ := find?_of_lt inside
      obtain ⟨answer, outer⟩ := steps_ih (founded.ends_parent found (Nat.le_of_lt_succ below))
      unfold Program.isAroundFrom
      split
      · exact ⟨true, rfl⟩
      · exact ⟨answer, (check_bind _ _ _).mpr ⟨decl, decl_eq_ok.mpr found, outer⟩⟩

/-- Whether a declaration is captured is known if both are there. -/
theorem Founded.isCapturedBy (founded : program.Founded) {root id : DeclId}
    (inside : root.index < program.size) (there : id.index < program.size) :
    ∃ answer, program.isCapturedBy root id = .ok answer := by
  obtain ⟨decl, found⟩ := find?_of_lt there
  obtain ⟨own, found_own⟩ := find?_of_lt inside
  have walked := founded.ends_parent found (Nat.le_succ_of_le (Nat.le_of_lt there))
  have around := founded.ends_parent found_own (Nat.le_succ_of_le (Nat.le_of_lt inside))
  obtain ⟨owner, owned⟩ := founded.ownerFrom walked
  have encloses : program.enclosingFunction id = .ok owner :=
    (check_bind _ _ _).mpr ⟨decl, decl_eq_ok.mpr found, owned⟩
  have ancestor (scope : DeclId) : ∃ answer, program.isStrictAncestor scope root = .ok answer := by
    obtain ⟨answer, walks⟩ := founded.isAroundFrom scope around
    exact ⟨answer, (check_bind _ _ _).mpr ⟨own, decl_eq_ok.mpr found_own, walks⟩⟩
  unfold Program.isCapturedBy
  rw [decl_eq_ok.mpr found, encloses]
  dsimp only [bind, Except.bind]
  split
  · exact ⟨false, rfl⟩
  split
  · exact ⟨false, rfl⟩
  split
  next owner =>
    split
    · exact ⟨false, rfl⟩
    · exact ancestor owner
  next => exact ⟨false, rfl⟩

/-- What is captured belongs to another function around. -/
theorem captured_iff {root id : DeclId} : program.Captured root id ↔ id ≠ root ∧
    ∃ decl owner, program.find? id = some decl ∧ isCapturable decl = true ∧
      program.enclosingFunction id = .ok (some owner) ∧ owner ≠ root ∧
      program.isStrictAncestor owner root = .ok true := by
  unfold Captured isCapturedBy
  by_cases same : id = root
  · rw [if_pos same]
    exact ⟨fun impossible => (nomatch impossible), fun ⟨apart, _⟩ => (apart same).elim⟩
  rw [if_neg same]
  constructor
  · intro captured
    obtain ⟨decl, found, captured⟩ := (check_bind _ _ _).mp captured
    split at captured
    · cases captured
    next holds =>
      obtain ⟨owner, owned, captured⟩ := (check_bind _ _ _).mp captured
      split at captured
      next owner =>
        split at captured
        · cases captured
        next apart =>
          exact ⟨same, decl, owner, decl_eq_ok.mp found, by simpa using holds, owned, apart,
            captured⟩
      next => cases captured
  · rintro ⟨_, decl, owner, found, holds, owned, apart, around⟩
    refine (check_bind _ _ _).mpr ⟨decl, decl_eq_ok.mpr found, ?_⟩
    rw [if_neg (by simp [holds])]
    refine (check_bind _ _ _).mpr ⟨some owner, owned, ?_⟩
    dsimp only
    rw [if_neg apart]
    exact around

/-- What stands right inside a function belongs to it, and no function owns what a type has. -/
theorem enclosingFunction_of_parent {id parent : DeclId} {decl outer : Decl}
    (found : program.find? id = some decl) (inside : decl.parent = some parent)
    (there : program.find? parent = some outer) :
    (outer.routine?.isSome → program.enclosingFunction id = .ok (some parent)) ∧
      (outer.kind.isTypeSpace = true → program.enclosingFunction id = .ok none) := by
  obtain ⟨name, kind, ty, around, span⟩ := outer
  unfold enclosingFunction walkLimit
  rw [decl_eq_ok.mpr found]
  simp only [bind, Except.bind, inside, ownerFrom, decl_eq_ok.mpr there]
  cases kind <;> simp [Decl.routine?, DeclKind.routine?, DeclKind.isTypeSpace, pure, Except.pure]

/-- A method belongs to no function, since a type lies between. -/
theorem HousesMembers.unowned (housed : program.HousesMembers) {id owner : DeclId} {decl : Decl}
    {routine : Routine} (found : program.find? id = some decl)
    (holds : decl.routine? = some routine)
    (owned : program.enclosingFunction id = .ok (some owner)) : routine.isMember = false := by
  refine Bool.eq_false_iff.mpr fun member => ?_
  obtain ⟨parent, inside, outer, present, isType⟩ :=
    housed decl (mem_decls found) routine holds (Bool.or_eq_true_iff.mpr (Or.inl member))
  have known := (enclosingFunction_of_parent found inside present).2 isType
  cases known.symm.trans owned

theorem OwnsLocals.parent (owning : program.OwnsLocals) {id inner : DeclId} {decl : Decl}
    {routine : Routine} {body : Body} (found : program.find? id = some decl)
    (listed : decl.routine? = some routine) (given : routine.body = some body)
    (inside : inner ∈ Stmt.localsAll body.stmts) :
    ∃ local_, program.find? inner = some local_ ∧ local_.parent = some id :=
  Option.map_eq_some_iff.mp
    (owning (id, decl) (mem_entries found) routine listed body given inner inside)

theorem exprs_of_routine {decl : Decl} {routine : Routine} (listed : decl.routine? = some routine) :
    decl.exprs = (routine.body.map fun body => Stmt.exprsAll body.stmts).getD [] := by
  obtain ⟨name, kind, ty, parent, span⟩ := decl
  cases kind with
  | function own =>
    obtain rfl := Option.some.inj listed
    cases given : own.body <;> simp [Decl.exprs, given]
  | _ => cases listed

/-- What a function mentions stands in its body, or in what its body declares. -/
theorem mentions_iff_body {id target : DeclId} {decl : Decl} {routine : Routine}
    (found : program.find? id = some decl) (listed : decl.routine? = some routine) :
    program.Mentions id target ↔ ∃ body, routine.body = some body ∧
      program.Within (Stmt.exprsAll body.stmts) (Stmt.localsAll body.stmts) target := by
  have exprs := exprs_of_routine listed
  constructor
  · intro mentions
    cases mentions with
    | own present inside refers =>
      obtain rfl := Option.some.inj (found.symm.trans present)
      rw [exprs] at inside
      cases given : routine.body with
      | none => simp [given] at inside
      | some body => exact ⟨body, rfl, Or.inl ⟨_, by simpa [given] using inside, refers⟩⟩
    | inside present holds given inner mentions =>
      obtain rfl := Option.some.inj (found.symm.trans present)
      obtain rfl := Option.some.inj (listed.symm.trans holds)
      exact ⟨_, given, Or.inr ⟨_, inner, mentions⟩⟩
  · rintro ⟨body, given, ⟨expr, inside, refers⟩ | ⟨inner, inside, mentions⟩⟩
    · exact .own found (by simpa [exprs, given] using inside) refers
    · exact .inside found listed given inside mentions

/-- What a body declares is there, and ranks below the function. -/
structure Ranks (program : Program) (rank : DeclId → Nat) : Prop where
  there : ∀ id inner, program.DeclaredIn id inner → ∃ decl, program.find? inner = some decl
  drops : ∀ id inner, program.DeclaredIn id inner → rank inner < rank id

/-- Whatever a function declares comes after it. -/
theorem OwnsLocals.ranks (owning : program.OwnsLocals) (founded : program.Founded) :
    program.Ranks fun id => program.size - id.index where
  there := by
    rintro id inner ⟨decl, routine, body, found, listed, given, inside⟩
    obtain ⟨own, present, _⟩ := owning.parent found listed given inside
    exact ⟨own, present⟩
  drops := by
    rintro id inner ⟨decl, routine, body, found, listed, given, inside⟩
    obtain ⟨own, present, outer⟩ := owning.parent found listed given inside
    have later := founded.parents (inner, own) (mem_entries present) id outer
    have below := lt_of_find? present
    dsimp only at later ⊢
    omega

/-- By induction on the steps, of which there are more left than the rank of the function. -/
theorem captureRoutine_collects (founded : program.Founded) {rank : DeclId → Nat}
    (ranks : program.Ranks rank) {root : DeclId} (there : root.index < program.size) {steps : Nat}
    {id : DeclId} {decl : Decl} {routine : Routine} (found : program.find? id = some decl)
    (listed : decl.routine? = some routine) (enough : rank id < steps) :
    program.Collects root (program.Mentions id) fun found =>
      program.captureRoutine root steps found id := by
  have known {decl : Decl} {id : DeclId} (found : program.find? id = some decl) :
      ∀ expr ∈ decl.exprs, ∀ target ∈ expr.references,
        ∃ answer, program.isCapturedBy root target = .ok answer := fun expr inside target refers =>
    founded.isCapturedBy there (founded.references decl (mem_decls found) expr inside target refers)
  induction steps generalizing id decl routine with
  | zero => exact absurd enough (Nat.not_lt_zero _)
  | succ steps steps_ih =>
    have answered : program.routine? id = .ok (some routine) :=
      (check_bind _ _ _).mpr ⟨decl, decl_eq_ok.mpr found, congrArg _ listed⟩
    unfold captureRoutine
    rw [answered]
    cases given : routine.body with
    | none =>
      simp only [bind, Except.bind, Option.bind, given]
      refine Collects.none fun target mentions => ?_
      obtain ⟨_, same, _⟩ := (mentions_iff_body found listed).mp mentions
      exact nomatch given.symm.trans same
    | some body =>
      simp only [bind, Except.bind, Option.bind, given]
      refine Collects.mono (captureStmts_collects body.stmts (fun expr inside => ?_)
        fun inner inside => ?_) fun target => ?_
      · exact known found expr (by simpa [exprs_of_routine listed, given] using inside)
      · have declared : program.DeclaredIn id inner :=
          ⟨decl, routine, body, found, listed, given, inside⟩
        have below := ranks.drops id inner declared
        exact ⟨ranks.there id inner declared, fun decl again => known again,
          fun decl routine again holds => steps_ih again holds (by omega)⟩
      · rw [mentions_iff_body found listed]
        exact ⟨fun within => ⟨body, given, within⟩,
          fun ⟨_, same, within⟩ => Option.some.inj (given.symm.trans same) ▸ within⟩

/--
A function captures what it mentions, if that belongs to another function around it. It is enough
that no rank is higher than the program is long.
-/
theorem Ranks.captures_eq_ok {rank : DeclId → Nat} (ranks : program.Ranks rank)
    (founded : program.Founded) {id : DeclId} (bounded : rank id ≤ program.size) {decl : Decl}
    {routine : Routine} (found : program.find? id = some decl)
    (listed : decl.routine? = some routine) :
    ∃ captures, program.captures id = .ok captures ∧
      ∀ target, target ∈ captures ↔ program.Mentions id target ∧ program.Captured id target := by
  obtain ⟨captures, given, members⟩ := captureRoutine_collects founded ranks (lt_of_find? found)
    found listed (Nat.lt_succ_of_le bounded) []
  exact ⟨captures, given, fun target => by simp [members]⟩

theorem captures_eq_ok (founded : program.Founded) (owning : program.OwnsLocals) {id : DeclId}
    {decl : Decl} {routine : Routine} (found : program.find? id = some decl)
    (listed : decl.routine? = some routine) :
    ∃ captures, program.captures id = .ok captures ∧
      ∀ target, target ∈ captures ↔ program.Mentions id target ∧ program.Captured id target :=
  (owning.ranks founded).captures_eq_ok founded (Nat.sub_le _ _) found listed

/-- One more step changes nothing once a walk has ended. -/
theorem isAroundFrom_succ {ancestor : DeclId} {steps : Nat} {scope : Option DeclId} {answer : Bool}
    (ended : program.isAroundFrom ancestor steps scope = .ok answer) :
    program.isAroundFrom ancestor (steps + 1) scope = .ok answer := by
  induction steps generalizing scope with
  | zero =>
    cases scope with
    | none => exact ended
    | some id => cases ended
  | succ steps steps_ih =>
    cases scope with
    | none => exact ended
    | some id =>
      unfold Program.isAroundFrom at ended ⊢
      split at ended
      next here =>
        rw [if_pos here]
        exact ended
      next apart =>
        rw [if_neg apart]
        obtain ⟨decl, found, outer⟩ := (check_bind _ _ _).mp ended
        exact (check_bind _ _ _).mpr ⟨decl, found, steps_ih outer⟩

/-- What is around a function is around the function outside, unless it is that. -/
theorem isStrictAncestor_parent {ancestor id outer : DeclId} {decl : Decl}
    (found : program.find? id = some decl) (parent : decl.parent = some outer)
    (apart : ancestor ≠ outer) (around : program.isStrictAncestor ancestor id = .ok true) :
    program.isStrictAncestor ancestor outer = .ok true := by
  obtain ⟨again, present, around⟩ := (check_bind _ _ _).mp around
  obtain rfl := Option.some.inj (found.symm.trans (decl_eq_ok.mp present))
  rw [parent] at around
  unfold walkLimit Program.isAroundFrom at around
  rw [if_neg (Ne.symm apart)] at around
  obtain ⟨own, listed, around⟩ := (check_bind _ _ _).mp around
  exact (check_bind _ _ _).mpr ⟨own, listed, isAroundFrom_succ around⟩

/-- A function does not capture what is declared in it. -/
theorem Captured.not_inside {owner id : DeclId} {decl own : Decl} {routine : Routine}
    (captured : program.Captured owner id) (present : program.find? id = some own)
    (found : program.find? owner = some decl) (listed : decl.routine? = some routine) :
    own.parent ≠ some owner := by
  intro inside
  obtain ⟨_, _, around, _, _, owned, apart, _⟩ := captured_iff.mp captured
  have known := (enclosingFunction_of_parent present inside found).1 (by rw [listed]; rfl)
  obtain rfl := Option.some.inj (Except.ok.inj (known.symm.trans owned))
  exact apart rfl

/-- A function that is declared in another captures what the other has at hand. -/
theorem captures_nested (founded : program.Founded) (owning : program.OwnsLocals)
    {id inner : DeclId} {decl own : Decl} {routine held : Routine} {body : Body}
    (found : program.find? id = some decl) (listed : decl.routine? = some routine)
    (given : routine.body = some body) (inside : inner ∈ Stmt.localsAll body.stmts)
    (present : program.find? inner = some own) (holds : own.routine? = some held) :
    ∃ captures outer, program.captures inner = .ok captures ∧ program.captures id = .ok outer ∧
      ∀ capture ∈ captures, capture = id ∨
        program.enclosingFunction capture = .ok (some id) ∨ capture ∈ outer := by
  obtain ⟨captures, captured, members⟩ := captures_eq_ok founded owning present holds
  obtain ⟨outer, around, others⟩ := captures_eq_ok founded owning found listed
  refine ⟨captures, outer, captured, around, fun capture listed_capture => ?_⟩
  obtain ⟨mentions, taken⟩ := (members capture).mp listed_capture
  obtain ⟨_, target, owner, there, capturable, owned, _, ancestor⟩ := captured_iff.mp taken
  obtain ⟨_, again, parent⟩ := owning.parent found listed given inside
  obtain rfl := Option.some.inj (present.symm.trans again)
  by_cases same : capture = id
  · exact Or.inl same
  by_cases here : owner = id
  · exact Or.inr (Or.inl (here ▸ owned))
  · refine Or.inr (Or.inr ((others capture).mpr ⟨.inside found listed given inside mentions, ?_⟩))
    exact captured_iff.mpr ⟨same, target, owner, there, capturable, owned, here,
      isStrictAncestor_parent present parent here ancestor⟩

end Walks

end Program

end Lowering
