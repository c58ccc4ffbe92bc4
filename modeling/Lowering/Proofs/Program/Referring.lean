import Lowering.Proofs.Program.Assembled
import Lowering.Proofs.Program.Grounding

/-
This file lays out what the body of a function refers to as one sequence, in which a nested function
stands where it is declared, and shows that its captures are the first of each in that sequence that
belongs to a function around.
-/

namespace Lowering

/-- A function without a body has no statements. -/
def Routine.stmts (routine : Routine) : List Stmt := routine.body.elim [] Body.stmts

theorem Routine.stmts_of_body {routine : Routine} {body : Body} (given : routine.body = some body) :
    routine.stmts = body.stmts := by
  rw [stmts, given]
  rfl

theorem Routine.body_of_mem_stmts (routine : Routine) {id : DeclId}
    (inside : id ∈ Stmt.localsAll routine.stmts) :
    ∃ body, routine.body = some body ∧ id ∈ Stmt.localsAll body.stmts := by
  cases given : routine.body with
  | none =>
    rw [stmts, given] at inside
    cases inside
  | some body => exact ⟨body, rfl, stmts_of_body given ▸ inside⟩

namespace Program

variable (program : Program)

/--
The references of statements, in order: those of an initializer where its binding stands, and those
of a block or a nested function in its place.
-/
inductive Refers : List Stmt → List DeclId → Prop
  | nil : Refers [] []
  | binding {id : DeclId} {decl : Decl} {binding : Binding} {rest : List Stmt} {later : List DeclId}
      (found : program.find? id = some decl) (kind : decl.kind = .binding binding)
      (others : Refers rest later) :
      Refers (.decl id :: rest) (binding.initializer.elim [] Expr.references ++ later)
  | function {id : DeclId} {decl : Decl} {routine : Routine} {rest : List Stmt}
      {below later : List DeclId} (found : program.find? id = some decl)
      (kind : decl.kind = .function routine) (inside : Refers routine.stmts below)
      (others : Refers rest later) : Refers (.decl id :: rest) (below ++ later)
  | other {id : DeclId} {decl : Decl} {rest : List Stmt} {later : List DeclId}
      (found : program.find? id = some decl) (unbound : ∀ binding, decl.kind ≠ .binding binding)
      (plain : ∀ routine, decl.kind ≠ .function routine) (others : Refers rest later) :
      Refers (.decl id :: rest) later
  | block {stmts rest : List Stmt} {span : Span} {below later : List DeclId}
      (inside : Refers stmts below) (others : Refers rest later) :
      Refers (.block stmts span :: rest) (below ++ later)
  | returned {value : Option Expr} {span : Span} {rest : List Stmt} {later : List DeclId}
      (others : Refers rest later) :
      Refers (.returned value span :: rest) (value.elim [] Expr.references ++ later)
  | expr {value : Expr} {rest : List Stmt} {later : List DeclId} (others : Refers rest later) :
      Refers (.expr value :: rest) (value.references ++ later)

/-- What belongs to another function around the root, and can be captured. -/
def IsOuter (root id : DeclId) : Prop :=
  id ≠ root ∧ ∃ decl owner, program.find? id = some decl ∧ isCapturable decl = true ∧
    program.enclosingFunction id = .ok (some owner) ∧ owner ≠ root ∧
    program.isStrictAncestor owner root = .ok true

instance (root id : DeclId) : Decidable (program.IsOuter root id) :=
  decidable_of_iff (program.isCapturedBy root id = .ok true) captured_iff

/-- The first of each reference to something outer. -/
def outerRefs (root : DeclId) (refs : List DeclId) : List DeclId :=
  (refs.filter (program.IsOuter root ·)).eraseDups

variable {program} {root : DeclId} {stmts : List Stmt} {refs : List DeclId}

namespace Refers

/-- There is one sequence. -/
theorem unique {others : List DeclId} (first : program.Refers stmts refs)
    (second : program.Refers stmts others) : refs = others := by
  induction first generalizing others with
  | nil =>
    cases second
    rfl
  | binding found kind _ others_ih =>
    cases second with
    | binding again same others =>
      obtain rfl := Option.some.inj (found.symm.trans again)
      obtain rfl := DeclKind.binding.inj (kind.symm.trans same)
      rw [others_ih others]
    | function again same =>
      obtain rfl := Option.some.inj (found.symm.trans again)
      cases kind.symm.trans same
    | other again unbound =>
      obtain rfl := Option.some.inj (found.symm.trans again)
      exact absurd kind (unbound _)
  | function found kind _ _ inside_ih others_ih =>
    cases second with
    | binding again same =>
      obtain rfl := Option.some.inj (found.symm.trans again)
      cases kind.symm.trans same
    | function again same inside others =>
      obtain rfl := Option.some.inj (found.symm.trans again)
      obtain rfl := DeclKind.function.inj (kind.symm.trans same)
      rw [inside_ih inside, others_ih others]
    | other again _ plain =>
      obtain rfl := Option.some.inj (found.symm.trans again)
      exact absurd kind (plain _)
  | other found unbound plain _ others_ih =>
    cases second with
    | binding again same =>
      obtain rfl := Option.some.inj (found.symm.trans again)
      exact absurd same (unbound _)
    | function again same =>
      obtain rfl := Option.some.inj (found.symm.trans again)
      exact absurd same (plain _)
    | other _ _ _ others => exact others_ih others
  | block _ _ inside_ih others_ih =>
    cases second with
    | block inside others => rw [inside_ih inside, others_ih others]
  | returned _ others_ih =>
    cases second with
    | returned others => rw [others_ih others]
  | expr _ others_ih =>
    cases second with
    | expr others => rw [others_ih others]

end Refers

section Scanning

variable {nested : List DeclId → DeclId → Answer (List DeclId)} {found result : List DeclId}
  {id : DeclId} {decl : Decl} {routine : Routine}

theorem captureOption_eq (value : Option Expr) : program.captureOption root found value =
    (value.elim [] Expr.references).foldlM (program.captureRef root) found := by
  cases value <;> rfl

theorem captureRoutine_eq (there : program.find? id = some decl)
    (listed : decl.routine? = some routine) (steps : Nat) :
    program.captureRoutine root (steps + 1) found id =
      program.captureStmts (program.captureRoutine root steps) root found routine.stmts := by
  rw [captureRoutine, routine?, decl_eq_ok.mpr there]
  simp only [bind, Except.bind, pure, Except.pure, listed, Option.bind]
  cases given : routine.body with
  | none =>
    rw [Routine.stmts, given]
    simp only [Option.elim, captureStmts]
  | some body => rw [Routine.stmts_of_body given]

/-- A scan of references goes on where another one has ended. -/
theorem captureStmts_cons {stmt : Stmt} {rest : List Stmt} {later : List DeclId}
    (first : program.captureStmt nested root found stmt =
      refs.foldlM (program.captureRef root) found)
    (others : ∀ middle, program.captureStmts nested root middle rest =
      later.foldlM (program.captureRef root) middle) :
    program.captureStmts nested root found (stmt :: rest) =
      (refs ++ later).foldlM (program.captureRef root) found := by
  rw [captureStmts, first, List.foldlM_append]
  exact congrArg _ (funext others)

/--
A scan of statements is one of their references, by induction on how these were laid out: a nested
function that is there has less inside than what is around it, so the steps do not run out.
-/
theorem Refers.captureStmts_eq (grounded : program.Grounded) (refers : program.Refers stmts refs)
    {steps : Nat} (enough : ∀ inner ∈ Stmt.localsAll stmts, inner.index < program.size →
      program.weight inner < steps) (found : List DeclId) :
    program.captureStmts (program.captureRoutine root steps) root found stmts =
      refs.foldlM (program.captureRef root) found := by
  induction refers generalizing steps found with
  | nil =>
    rw [captureStmts]
    rfl
  | binding there kind _ others_ih =>
    refine captureStmts_cons ?_ (others_ih fun inner inside =>
      enough inner (List.mem_cons_of_mem _ inside))
    rw [captureStmt, decl_eq_ok.mpr there]
    simp only [bind, Except.bind, kind]
    exact captureOption_eq _
  | @function id decl routine rest below later there kind _ _ inside_ih others_ih =>
    refine captureStmts_cons ?_ (others_ih fun inner inside =>
      enough inner (List.mem_cons_of_mem _ inside))
    have fits := enough id List.mem_cons_self (lt_of_find? there)
    have listed : decl.routine? = some routine := by rw [Decl.routine?, kind]; rfl
    obtain ⟨fewer, rfl⟩ := Nat.exists_eq_add_one_of_ne_zero (Nat.ne_zero_of_lt fits)
    rw [captureStmt, decl_eq_ok.mpr there]
    simp only [bind, Except.bind, kind]
    rw [captureRoutine_eq there listed]
    refine inside_ih (fun inner inside present => ?_) found
    obtain ⟨body, given, inside⟩ := routine.body_of_mem_stmts inside
    have drops := grounded.weight_lt ⟨decl, routine, body, there, listed, given, inside⟩ present
    omega
  | @other id decl rest later there unbound plain _ others_ih =>
    rw [← List.nil_append later]
    refine captureStmts_cons ?_ (others_ih fun inner inside =>
      enough inner (List.mem_cons_of_mem _ inside))
    rw [captureStmt, decl_eq_ok.mpr there]
    simp only [bind, Except.bind]
    cases kind : decl.kind with
    | binding binding => exact absurd kind (unbound binding)
    | function routine => exact absurd kind (plain routine)
    | _ => rfl
  | block _ _ inside_ih others_ih =>
    refine captureStmts_cons ?_ (others_ih fun inner inside =>
      enough inner (List.mem_append_right _ inside))
    rw [captureStmt]
    exact inside_ih (fun inner inside => enough inner (List.mem_append_left _ inside)) found
  | returned _ others_ih =>
    refine captureStmts_cons ?_ (others_ih enough)
    rw [captureStmt]
    exact captureOption_eq _
  | expr _ others_ih =>
    refine captureStmts_cons ?_ (others_ih enough)
    rw [captureStmt]
    rfl

/-- Where a scan of some statement ends, its references have been laid out. -/
def Lays (program : Program) (root : DeclId) (found result : List DeclId)
    (lays : List DeclId → Prop) : Prop :=
  ∃ refs, lays refs ∧ refs.foldlM (program.captureRef root) found = .ok result

mutual

theorem lays_captureStmt
    (scans : ∀ found result id decl routine, program.find? id = some decl →
      decl.routine? = some routine → nested found id = .ok result →
      program.Lays root found result (program.Refers routine.stmts))
    (stmt : Stmt) {found result : List DeclId}
    (done : program.captureStmt nested root found stmt = .ok result) :
    program.Lays root found result fun refs => ∀ rest later, program.Refers rest later →
      program.Refers (stmt :: rest) (refs ++ later) := by
  cases stmt with
  | decl id =>
    rw [captureStmt] at done
    obtain ⟨decl, looked, done⟩ := (check_bind _ _ _).mp done
    have there := decl_eq_ok.mp looked
    cases kind : decl.kind with
    | binding binding =>
      rw [kind] at done
      dsimp only at done
      rw [captureOption_eq] at done
      exact ⟨_, fun _ _ others => .binding there kind others, done⟩
    | function routine =>
      rw [kind] at done
      have listed : decl.routine? = some routine := by rw [Decl.routine?, kind]; rfl
      obtain ⟨refs, inside, ends⟩ := scans found result id decl routine there listed done
      exact ⟨refs, fun _ _ others => .function there kind inside others, ends⟩
    | _ =>
      rw [kind] at done
      refine ⟨[], fun _ _ others => .other there ?_ ?_ others, done⟩
      · exact fun _ same => nomatch kind.symm.trans same
      · exact fun _ same => nomatch kind.symm.trans same
  | block stmts span =>
    rw [captureStmt] at done
    obtain ⟨refs, inside, ends⟩ := lays_captureStmts scans stmts done
    exact ⟨refs, fun _ _ others => .block inside others, ends⟩
  | returned value span =>
    rw [captureStmt, captureOption_eq] at done
    exact ⟨_, fun _ _ others => .returned others, done⟩
  | expr value =>
    rw [captureStmt] at done
    exact ⟨_, fun _ _ others => .expr others, done⟩

theorem lays_captureStmts
    (scans : ∀ found result id decl routine, program.find? id = some decl →
      decl.routine? = some routine → nested found id = .ok result →
      program.Lays root found result (program.Refers routine.stmts))
    (stmts : List Stmt) {found result : List DeclId}
    (done : program.captureStmts nested root found stmts = .ok result) :
    program.Lays root found result (program.Refers stmts) := by
  cases stmts with
  | nil =>
    rw [captureStmts] at done
    exact ⟨[], .nil, done⟩
  | cons stmt rest =>
    rw [captureStmts] at done
    obtain ⟨middle, early, done⟩ := (check_bind _ _ _).mp done
    obtain ⟨refs, lays, ends⟩ := lays_captureStmt scans stmt early
    obtain ⟨later, others, last⟩ := lays_captureStmts scans rest done
    refine ⟨refs ++ later, lays rest later others, ?_⟩
    rw [List.foldlM_append]
    exact (check_bind _ _ _).mpr ⟨middle, ends, last⟩

end

theorem lays_captureRoutine {steps : Nat} (there : program.find? id = some decl)
    (listed : decl.routine? = some routine)
    (done : program.captureRoutine root steps found id = .ok result) :
    program.Lays root found result (program.Refers routine.stmts) := by
  induction steps generalizing found result id decl routine with
  | zero => cases done
  | succ steps steps_ih =>
    rw [captureRoutine_eq there listed] at done
    refine lays_captureStmts (fun found result id decl routine there listed done => ?_) _ done
    exact steps_ih there listed done

end Scanning

section Firsts

/-- A declaration that comes after others is new, or has been there. -/
theorem eraseDups_concat (ids : List DeclId) (id : DeclId) :
    (ids ++ [id]).eraseDups = if id ∈ ids then ids.eraseDups else ids.eraseDups ++ [id] := by
  rw [List.eraseDups_append]
  split
  next old => simp [List.removeAll, old]
  next new => simp [List.removeAll, new, List.eraseDups_cons]

/-- One more reference is added if it is the first one to something outer. -/
theorem captureRef_outerRefs {seen result : List DeclId} {id : DeclId} :
    program.captureRef root (program.outerRefs root seen) id = .ok result ↔
      (∃ answer, program.isCapturedBy root id = .ok answer) ∧
        result = program.outerRefs root (seen ++ [id]) := by
  have outer : program.isCapturedBy root id = .ok true ↔ program.IsOuter root id := captured_iff
  unfold captureRef outerRefs
  rw [List.filter_append]
  cases known : program.isCapturedBy root id with
  | error reason => exact iff_of_false nofun fun ⟨⟨_, impossible⟩, _⟩ => nomatch impossible
  | ok answer =>
    refine Iff.trans ?_ (and_iff_right ⟨answer, rfl⟩).symm
    cases answer with
    | false =>
      have inner : ¬program.IsOuter root id := fun holds => nomatch known.symm.trans (outer.mpr holds)
      rw [List.filter_singleton, decide_eq_false inner]
      simp [bind, Except.bind, pure, Except.pure, eq_comm]
    | true =>
      have holds := outer.mp known
      rw [List.filter_singleton, decide_eq_true holds]
      simp only [cond_true, eraseDups_concat, List.mem_eraseDups, bind, Except.bind, pure,
        Except.pure, if_true]
      exact ⟨fun same => (Except.ok.inj same).symm, fun same => congrArg _ same.symm⟩

/-- A scan finds the first of each, if it is known of each whether it is outer. -/
theorem foldlM_captureRef {result : List DeclId} (seen refs : List DeclId) :
    refs.foldlM (program.captureRef root) (program.outerRefs root seen) = .ok result ↔
      (∀ ref ∈ refs, ∃ answer, program.isCapturedBy root ref = .ok answer) ∧
        result = program.outerRefs root (seen ++ refs) := by
  induction refs generalizing seen with
  | nil => simp [pure, Except.pure, eq_comm]
  | cons ref rest rest_ih =>
    rw [List.foldlM_cons, check_bind]
    constructor
    · rintro ⟨middle, first, others⟩
      obtain ⟨answered, rfl⟩ := captureRef_outerRefs.mp first
      obtain ⟨all, rfl⟩ := (rest_ih _).mp others
      exact ⟨List.forall_mem_cons.mpr ⟨answered, all⟩, by rw [List.append_assoc]; rfl⟩
    · rintro ⟨all, rfl⟩
      obtain ⟨answered, all⟩ := List.forall_mem_cons.mp all
      refine ⟨_, captureRef_outerRefs.mpr ⟨answered, rfl⟩, (rest_ih _).mpr ⟨all, ?_⟩⟩
      rw [List.append_assoc]
      rfl

end Firsts

/--
In a program where no function is declared inside itself, the captures of a function are the first
of each of its references, in order, that is a variable, a parameter or a function of the program
and belongs to another function around it. They are found if this is known of every reference, and
it is known if spaces and references are there before what stands in them and refers to them.
-/
theorem captures_in_order (grounded : program.Grounded) {id : DeclId} {decl : Decl}
    {routine : Routine} (found : program.find? id = some decl)
    (listed : decl.routine? = some routine) :
    (∀ refs others, program.Refers routine.stmts refs → program.Refers routine.stmts others →
      refs = others) ∧
    (∀ captures, program.captures id = .ok captures ↔
      ∃ refs, program.Refers routine.stmts refs ∧
        (∀ ref ∈ refs, ∃ answer, program.isCapturedBy id ref = .ok answer) ∧
        captures = (refs.filter (program.IsOuter id ·)).eraseDups) ∧
    (program.Sited → program.Founded → ∃ refs, program.Refers routine.stmts refs ∧
      program.captures id = .ok (refs.filter (program.IsOuter id ·)).eraseDups) := by
  have ordered (captures : List DeclId) : program.captures id = .ok captures ↔
      ∃ refs, program.Refers routine.stmts refs ∧
        (∀ ref ∈ refs, ∃ answer, program.isCapturedBy id ref = .ok answer) ∧
        captures = program.outerRefs id refs := by
    constructor
    · intro given
      obtain ⟨refs, refers, ends⟩ := lays_captureRoutine found listed given
      exact ⟨refs, refers, (foldlM_captureRef [] refs).mp ends⟩
    · rintro ⟨refs, refers, answered, same⟩
      have ends := (foldlM_captureRef [] refs).mpr ⟨answered, same⟩
      unfold Program.captures walkLimit
      rw [captureRoutine_eq found listed, refers.captureStmts_eq grounded ?_ []]
      · exact ends
      · intro inner inside there
        obtain ⟨body, given, inside⟩ := routine.body_of_mem_stmts inside
        exact (grounded.weight_lt ⟨decl, routine, body, found, listed, given, inside⟩ there).trans_le
          (program.weight_le id)
  refine ⟨fun refs others => Refers.unique, ordered, fun sited founded => ?_⟩
  obtain ⟨captures, given, _⟩ := grounded.captures sited founded found listed
  obtain ⟨refs, refers, _, rfl⟩ := (ordered captures).mp given
  exact ⟨refs, refers, given⟩

end Program

def refersTo (id : DeclId) : Expr := .ref ⟨.int, Span.unknown⟩ id

open Assembly in
/--
A function with a parameter and a local, and in it one that refers to its own local, to what is
declared in the function around, and, in a function of its own, to its parameter and to itself.
-/
def citing : Assembly Unit := do
  let main ← addModule "main"
  let outer ← addFunction main "outer" [⟨none, "n", .int⟩] .unit
  let (early, x) ← addLocalVar outer "x" .int none
  let inner ← addFunction outer "inner" [⟨none, "y", .int⟩] .int
  let deep ← addFunction inner "deep" [] .unit
  let (late, z) ← addLocalVar inner "z" .int (some (refersTo x))
  setBody deep ⟨[.expr (refersTo ⟨outer.index + 1⟩), .expr (refersTo ⟨inner.index + 1⟩),
    .expr (refersTo inner), .expr (refersTo outer)], Span.unknown⟩
  setBody inner ⟨[.decl late, .block [.decl deep] Span.unknown, .expr (refersTo z),
    .returned (some (refersTo x)) Span.unknown], Span.unknown⟩
  setBody outer ⟨[.decl early, .decl inner], Span.unknown⟩

theorem Program.captures_in_order_referring : ∃ decl routine,
    citing.built.find? ⟨5⟩ = some decl ∧ decl.routine? = some routine ∧
    citing.built.Refers routine.stmts [⟨3⟩, ⟨2⟩, ⟨6⟩, ⟨5⟩, ⟨1⟩, ⟨8⟩, ⟨3⟩] ∧
    citing.built.captures ⟨5⟩ = .ok [⟨3⟩, ⟨2⟩] := by
  have founded : citing.built.Founded := by decide +kernel
  have owning : citing.built.OwnsLocals := by decide +kernel
  have sited : citing.built.Sited := by decide +kernel
  obtain ⟨decl, routine, found, listed, inner⟩ : ∃ decl routine,
      citing.built.find? ⟨5⟩ = some decl ∧ decl.routine? = some routine ∧
      routine.stmts = [.decl ⟨9⟩, .block [.decl ⟨7⟩] Span.unknown, .expr (refersTo ⟨8⟩),
        .returned (some (refersTo ⟨3⟩)) Span.unknown] := ⟨_, _, rfl, rfl, rfl⟩
  obtain ⟨late, binding, there, bound, initial⟩ : ∃ late binding,
      citing.built.find? ⟨9⟩ = some late ∧ late.kind = .binding binding ∧
      binding.initializer = some (refersTo ⟨3⟩) := ⟨_, _, rfl, rfl, rfl⟩
  obtain ⟨deep, held, present, holds, within⟩ : ∃ deep held,
      citing.built.find? ⟨7⟩ = some deep ∧ deep.kind = .function held ∧
      held.stmts = [.expr (refersTo ⟨2⟩), .expr (refersTo ⟨6⟩), .expr (refersTo ⟨5⟩),
        .expr (refersTo ⟨1⟩)] := ⟨_, _, rfl, rfl, rfl⟩
  have below : citing.built.Refers held.stmts [⟨2⟩, ⟨6⟩, ⟨5⟩, ⟨1⟩] :=
    within ▸ .expr (.expr (.expr (.expr .nil)))
  have refers : citing.built.Refers routine.stmts [⟨3⟩, ⟨2⟩, ⟨6⟩, ⟨5⟩, ⟨1⟩, ⟨8⟩, ⟨3⟩] := by
    have ends : citing.built.Refers [.expr (refersTo ⟨8⟩),
        .returned (some (refersTo ⟨3⟩)) Span.unknown] [⟨8⟩, ⟨3⟩] := .expr (.returned .nil)
    have nested : citing.built.Refers (.block [.decl ⟨7⟩] Span.unknown :: _) _ :=
      .block (.function present holds below .nil) ends
    have whole := Refers.binding there bound nested
    rw [initial] at whole
    exact inner ▸ whole
  have grounded := (owning.ranks founded).grounded
  obtain ⟨unique, _, known⟩ := captures_in_order grounded found listed
  obtain ⟨refs, same, captured⟩ := known sited founded
  obtain rfl := unique _ _ refers same
  exact ⟨decl, routine, found, listed, refers, captured.trans (by decide +kernel)⟩

end Lowering
