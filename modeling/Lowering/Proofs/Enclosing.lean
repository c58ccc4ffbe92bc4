import Mathlib.Logic.Relation
import Lowering.Proofs.Formation
import Lowering.Proofs.Program.Capturing

/-
This file orders the declaration spaces of an assembled program: every walk outwards and along
extensions ends, to be an ancestor is a strict order, and the function that owns a declaration is
the innermost one of the functions around it.
-/

namespace Lowering

namespace Program

/-- From so many steps on, a walk has the same answer. -/
def Arrives {A : Type} (walk : Nat → Answer A) (least : Nat) (answer : A) : Prop :=
  ∀ steps, least ≤ steps → walk steps = .ok answer

theorem Arrives.after {A : Type} {walk next : Nat → Answer A} {least later : Nat} {answer : A}
    (arrives : Arrives next least answer) (goes : ∀ steps, walk (steps + 1) = next steps)
    (before : least < later) : Arrives walk later answer := by
  intro steps enough
  obtain ⟨fewer, rfl⟩ : ∃ fewer, steps = fewer + 1 := ⟨steps - 1, by omega⟩
  rw [goes]
  exact arrives fewer (by omega)

/-- The declaration stands right inside the scope. -/
def Houses (program : Program) (scope id : DeclId) : Prop :=
  ∃ decl, program.find? id = some decl ∧ decl.parent = some scope

/-- The declaration stands inside the scope, at whatever depth. -/
def Surrounds (program : Program) : (scope id : DeclId) → Prop := Relation.TransGen program.Houses

def IsFunction (program : Program) (id : DeclId) : Prop :=
  ∃ decl routine, program.find? id = some decl ∧ decl.routine? = some routine

/-- Of the functions around a declaration, this is the one that all the others are around. -/
structure Innermost (program : Program) (owner id : DeclId) : Prop where
  function : program.IsFunction owner
  surrounds : program.Surrounds owner id
  least : ∀ other, program.IsFunction other → other ≠ owner → program.Surrounds other id →
    program.Surrounds other owner

variable {program : Program} {id scope ancestor : DeclId} {decl outer : Decl}

theorem not_surrounds (found : program.find? id = some decl) (outermost : decl.parent = none) :
    ¬program.Surrounds ancestor id := by
  intro surrounds
  obtain ⟨_, _, own, listed, inside⟩ := Relation.TransGen.tail'_iff.mp surrounds
  obtain rfl := Option.some.inj (found.symm.trans listed)
  cases outermost.symm.trans inside

/-- What is around a declaration is the space that it is declared in, or is around that. -/
theorem surrounds_iff (found : program.find? id = some decl) (parent : decl.parent = some scope) :
    program.Surrounds ancestor id ↔ ancestor = scope ∨ program.Surrounds ancestor scope := by
  refine Relation.TransGen.tail'_iff.trans ⟨?_, ?_⟩
  · rintro ⟨middle, outside, own, listed, inside⟩
    obtain rfl := Option.some.inj (found.symm.trans listed)
    obtain rfl := Option.some.inj (parent.symm.trans inside)
    exact (Relation.reflTransGen_iff_eq_or_transGen.mp outside).imp_left Eq.symm
  · intro either
    refine ⟨scope, ?_, decl, found, parent⟩
    exact Relation.reflTransGen_iff_eq_or_transGen.mpr (either.imp_left Eq.symm)

namespace Formed

variable (formed : program.Formed)

include formed

theorem find?_parent (found : program.find? id = some decl) (parent : decl.parent = some scope) :
    scope.index < id.index ∧ ∃ outer, program.find? scope = some outer := by
  have before := (formed id decl found).parent scope parent
  exact ⟨before, find?_of_lt (Nat.lt_trans before (lt_of_find? found))⟩

/-- Every declaration is reached from the outermost ones, since each comes after its space. -/
theorem outwards {motive : DeclId → Decl → Prop}
    (outermost : ∀ id decl, program.find? id = some decl → decl.parent = none → motive id decl)
    (inside : ∀ id decl scope outer, program.find? id = some decl → decl.parent = some scope →
      program.find? scope = some outer → scope.index < id.index → motive scope outer →
      motive id decl) (found : program.find? id = some decl) : motive id decl := by
  induction place : id.index using Nat.strongRecOn generalizing id decl with
  | _ index earlier =>
    subst place
    cases parent : decl.parent with
    | none => exact outermost id decl found parent
    | some scope =>
      obtain ⟨before, outer, there⟩ := formed.find?_parent found parent
      exact inside id decl scope outer found parent there before
        (earlier scope.index before there rfl)

theorem lt_of_surrounds (surrounds : program.Surrounds scope id) : scope.index < id.index := by
  induction surrounds with
  | single housed =>
    obtain ⟨decl, found, parent⟩ := housed
    exact (formed.find?_parent found parent).1
  | tail _ housed before =>
    obtain ⟨decl, found, parent⟩ := housed
    exact Nat.lt_trans before (formed.find?_parent found parent).1

/-- The walk for an ancestor finds it if it is one. -/
theorem arrives_isAroundFrom (ancestor : DeclId) (found : program.find? id = some decl) :
    ∃ answer, Arrives (program.isAroundFrom ancestor · decl.parent) id.index answer ∧
      (answer = true ↔ program.Surrounds ancestor id) := by
  refine formed.outwards (motive := fun id decl => ∃ answer,
    Arrives (program.isAroundFrom ancestor · decl.parent) id.index answer ∧
      (answer = true ↔ program.Surrounds ancestor id)) ?_ ?_ found
  · intro id decl found outermost
    refine ⟨false, fun steps _ => ?_, nofun, fun surrounds => ?_⟩
    · rw [outermost]
      exact program.isAroundFrom_none ancestor steps
    · exact absurd surrounds (not_surrounds found outermost)
  · rintro id decl scope outer found parent there before ⟨answer, walked, agrees⟩
    rw [parent]
    by_cases here : scope = ancestor
    · refine ⟨true, .after (fun _ _ => rfl) (fun steps => if_pos here) before, ?_⟩
      exact iff_of_true rfl ((surrounds_iff found parent).mpr (Or.inl here.symm))
    · refine ⟨answer, walked.after (fun steps => ?_) before, agrees.trans ?_⟩
      · rw [isAroundFrom, if_neg here, decl_eq_ok.mpr there]
        rfl
      · rw [surrounds_iff found parent]
        exact ⟨Or.inr, fun either => either.resolve_left (Ne.symm here)⟩

/-- The walk for the owner finds none but the innermost of the functions around. -/
theorem arrives_ownerFrom (found : program.find? id = some decl) :
    ∃ owner, Arrives (program.ownerFrom · decl.parent) id.index owner ∧
      ∀ own ∈ owner, program.Innermost own id := by
  refine formed.outwards (motive := fun id decl => ∃ owner,
    Arrives (program.ownerFrom · decl.parent) id.index owner ∧
      ∀ own ∈ owner, program.Innermost own id) ?_ ?_ found
  · intro id decl found outermost
    refine ⟨none, fun steps _ => ?_, nofun⟩
    rw [outermost]
    exact program.ownerFrom_none steps
  · rintro id decl scope ⟨name, kind, ty, around, span⟩ found parent there before
      ⟨owner, walked, innermost⟩
    have looks := decl_eq_ok.mpr there
    have inside (ancestor : DeclId) : program.Surrounds ancestor id ↔
        ancestor = scope ∨ program.Surrounds ancestor scope := surrounds_iff found parent
    rw [parent]
    cases kind with
    | function routine =>
      refine ⟨some scope, .after (fun _ _ => rfl) (fun steps => ?_) before, ?_⟩
      · rw [ownerFrom, looks]
        rfl
      · rintro _ ⟨⟩
        refine ⟨⟨_, routine, there, rfl⟩, (inside scope).mpr (Or.inl rfl), ?_⟩
        exact fun other _ apart surrounds => ((inside other).mp surrounds).resolve_left apart
    | module | product | view | typeExtension =>
      refine ⟨none, .after (fun _ _ => rfl) (fun steps => ?_) before, nofun⟩
      rw [ownerFrom, looks]
      rfl
    | imported | binding | «variable» | parameter | abstractType | «alias» | genericParam =>
      refine ⟨owner, walked.after (fun steps => ?_) before, fun own given => ?_⟩
      · rw [ownerFrom, looks]
        rfl
      · have known := innermost own given
        refine ⟨known.function, (inside own).mpr (Or.inr known.surrounds), ?_⟩
        intro other isFunction apart surrounds
        rcases (inside other).mp surrounds with rfl | further
        · obtain ⟨own, routine, again, impossible⟩ := isFunction
          obtain rfl := Option.some.inj (there.symm.trans again)
          cases impossible
        · exact known.least other isFunction apart further

theorem segment (found : program.find? id = some decl) :
    ∃ name, program.segment decl = .ok name := by
  have extended := (formed id decl found).extended
  obtain ⟨name, kind, ty, parent, span⟩ := decl
  cases kind with
  | typeExtension extends_ members =>
    obtain ⟨own, there⟩ := find?_of_lt (Nat.lt_trans (extended extends_ rfl) (lt_of_find? found))
    exact ⟨own.name, (check_bind _ _ _).mpr ⟨own, decl_eq_ok.mpr there, rfl⟩⟩
  | _ => exact ⟨_, rfl⟩

theorem arrives_pathFrom (found : program.find? id = some decl) :
    ∃ path, Arrives (program.pathFrom · (some id)) (id.index + 1) path := by
  have below (id : DeclId) (decl : Decl) (found : program.find? id = some decl)
      (outside : ∃ path, Arrives (program.pathFrom · decl.parent) id.index path) :
      ∃ path, Arrives (program.pathFrom · (some id)) (id.index + 1) path := by
    obtain ⟨path, walked⟩ := outside
    obtain ⟨name, called⟩ := formed.segment found
    have looks := decl_eq_ok.mpr found
    obtain ⟨given, kind, ty, parent, span⟩ := decl
    cases kind with
    | module members =>
      refine ⟨[], .after (fun _ _ => rfl) (fun steps => ?_) (Nat.lt_succ_self _)⟩
      rw [pathFrom, looks]
      rfl
    | _ =>
      refine ⟨path ++ [name], fun steps enough => ?_⟩
      obtain ⟨fewer, rfl⟩ : ∃ fewer, steps = fewer + 1 := ⟨steps - 1, by omega⟩
      have outside : program.pathFrom fewer parent = .ok path :=
        walked fewer (Nat.le_of_succ_le_succ enough)
      show program.pathFrom (fewer + 1) (some id) = _
      rw [pathFrom, looks]
      simp only [bind, Except.bind, called, outside]
      rfl
  refine formed.outwards (motive := fun id decl =>
    ∃ path, Arrives (program.pathFrom · (some id)) (id.index + 1) path) ?_ ?_ found
  · intro id decl found outermost
    refine below id decl found ⟨[], fun steps _ => ?_⟩
    rw [outermost]
    cases steps <;> rfl
  · rintro id decl scope outer found parent there before ⟨path, walked⟩
    refine below id decl found ⟨path, fun steps enough => ?_⟩
    rw [parent]
    exact walked steps (Nat.le_trans before enough)

/-- What an extension extends was there before, so a chain of extensions ends. -/
theorem arrives_declaredTypeFrom (found : program.find? id = some decl) :
    ∃ ty, Arrives (program.declaredTypeFrom · id) (id.index + 1) ty := by
  induction place : id.index using Nat.strongRecOn generalizing id decl with
  | _ index earlier =>
    subst place
    have looks := decl_eq_ok.mpr found
    have extended := (formed id decl found).extended
    obtain ⟨name, kind, ty, parent, span⟩ := decl
    cases kind with
    | typeExtension extends_ members =>
      have before := extended extends_ rfl
      obtain ⟨own, there⟩ := find?_of_lt (Nat.lt_trans before (lt_of_find? found))
      obtain ⟨ty, walked⟩ := earlier extends_.index before there rfl
      refine ⟨ty, walked.after (fun steps => ?_) (Nat.succ_lt_succ before)⟩
      rw [declaredTypeFrom, looks]
      rfl
    | _ =>
      suffices known : ∃ ty, ∀ steps, program.declaredTypeFrom (steps + 1) id = .ok ty by
        obtain ⟨ty, known⟩ := known
        exact ⟨ty, .after (fun _ _ => rfl) known (Nat.lt_succ_self _)⟩
      simp only [declaredTypeFrom, nominal, looks, bind, Except.bind]
      exact ⟨_, fun _ => rfl⟩

/-- The limit leaves a walk that starts at the space around a declaration enough steps. -/
theorem isStrictAncestor_iff (found : program.find? id = some decl) :
    program.isStrictAncestor ancestor id = .ok true ↔ program.Surrounds ancestor id := by
  obtain ⟨answer, walked, agrees⟩ := formed.arrives_isAroundFrom ancestor found
  have enough := Nat.le_succ_of_le (Nat.le_of_lt (lt_of_find? found))
  have known : program.isStrictAncestor ancestor id = .ok answer :=
    (check_bind _ _ _).mpr ⟨decl, decl_eq_ok.mpr found, walked _ enough⟩
  rw [known, ← agrees]
  exact ⟨Except.ok.inj, congrArg _⟩

theorem innermost (owned : program.enclosingFunction id = .ok (some scope)) :
    program.Innermost scope id := by
  obtain ⟨decl, there, walks⟩ := (check_bind _ _ _).mp owned
  have found := decl_eq_ok.mp there
  obtain ⟨owner, walked, innermost⟩ := formed.arrives_ownerFrom found
  have same := walked _ (Nat.le_succ_of_le (Nat.le_of_lt (lt_of_find? found)))
  exact innermost scope (Except.ok.inj (same.symm.trans walks))

end Formed

/--
Every walk from a declaration has an answer: it takes no more steps than there are declarations up
to this one, so it has the same answer however many more it may take.
-/
structure WalksEnd (program : Program) (id : DeclId) (decl : Decl) : Prop where
  owner : ∃ owner, program.enclosingFunction id = .ok owner ∧
    Arrives (program.ownerFrom · decl.parent) id.index owner
  around : ∀ ancestor, ∃ answer, program.isStrictAncestor ancestor id = .ok answer ∧
    Arrives (program.isAroundFrom ancestor · decl.parent) id.index answer
  path : ∃ path, program.qualifiedPath id = .ok path ∧
    Arrives (program.pathFrom · (some id)) (id.index + 1) path
  declared : ∃ ty, program.declaredType id = .ok ty ∧
    Arrives (program.declaredTypeFrom · id) (id.index + 1) ty

theorem Formed.walksEnd (formed : program.Formed) (found : program.find? id = some decl) :
    program.WalksEnd id decl := by
  have asks {A : Type} {question : Decl → Answer A} {answer : A} (known : question decl = .ok answer) :
      (program.decl id >>= question) = .ok answer :=
    (check_bind _ _ _).mpr ⟨decl, decl_eq_ok.mpr found, known⟩
  have enough : id.index + 1 ≤ program.walkLimit := Nat.succ_le_succ (Nat.le_of_lt (lt_of_find? found))
  have below := Nat.le_of_succ_le enough
  refine ⟨?_, fun ancestor => ?_, ?_, ?_⟩
  · obtain ⟨owner, walked, _⟩ := formed.arrives_ownerFrom found
    exact ⟨owner, asks (walked _ below), walked⟩
  · obtain ⟨answer, walked, _⟩ := formed.arrives_isAroundFrom ancestor found
    exact ⟨answer, asks (walked _ below), walked⟩
  · obtain ⟨path, walked⟩ := formed.arrives_pathFrom found
    exact ⟨path, walked _ enough, walked⟩
  · obtain ⟨ty, walked⟩ := formed.arrives_declaredTypeFrom found
    exact ⟨ty, walked _ enough, walked⟩

end Program

/--
Whatever calls are made, every walk from a declaration of the program ends. No declaration is its
own ancestor, and an ancestor of an ancestor is one. The function that owns a declaration is an
ancestor of it, and every other function that is one is an ancestor of that function.
-/
theorem Assembly.scopes_ordered (calls : List Call) (program : Program)
    (made : Call.makeAll calls Program.empty = some program) :
    (∀ id decl, program.find? id = some decl → program.WalksEnd id decl) ∧
    (∀ id decl, program.find? id = some decl → program.isStrictAncestor id id = .ok false) ∧
    (∀ first second third, program.isStrictAncestor first second = .ok true →
      program.isStrictAncestor second third = .ok true →
      program.isStrictAncestor first third = .ok true) ∧
    ∀ id owner, program.enclosingFunction id = .ok (some owner) →
      program.IsFunction owner ∧ program.isStrictAncestor owner id = .ok true ∧
      ∀ other, program.IsFunction other → other ≠ owner →
        program.isStrictAncestor other id = .ok true →
        program.isStrictAncestor other owner = .ok true := by
  have formed := Call.makeAll_formed calls Program.formed_empty made
  have there {ancestor id : DeclId} (around : program.isStrictAncestor ancestor id = .ok true) :
      program.Surrounds ancestor id := by
    obtain ⟨decl, found, _⟩ := (check_bind _ _ _).mp around
    exact (formed.isStrictAncestor_iff (Program.decl_eq_ok.mp found)).mp around
  refine ⟨fun id decl => formed.walksEnd, fun id decl found => ?_, ?_, fun id owner owned => ?_⟩
  · obtain ⟨answer, known, _⟩ := (formed.walksEnd found).around id
    cases answer with
    | false => exact known
    | true => exact absurd (formed.lt_of_surrounds (there known)) (Nat.lt_irrefl _)
  · intro first second third before after
    obtain ⟨decl, found, _⟩ := (check_bind _ _ _).mp after
    exact (formed.isStrictAncestor_iff (Program.decl_eq_ok.mp found)).mpr
      ((there before).trans (there after))
  · obtain ⟨decl, found, _⟩ := (check_bind _ _ _).mp owned
    have innermost := formed.innermost owned
    obtain ⟨own, routine, present, holds⟩ := innermost.function
    refine ⟨innermost.function, ?_, fun other isFunction apart around => ?_⟩
    · exact (formed.isStrictAncestor_iff (Program.decl_eq_ok.mp found)).mpr innermost.surrounds
    · exact (formed.isStrictAncestor_iff present).mpr
        (innermost.least other isFunction apart (there around))

/--
An extension of an extension, and a function in a method of a type in a function, with a local
binding.
-/
def enclosingCalls : List Assembly.Call := [
  .addModule "main", .addProduct ⟨0⟩ "Point", .addExtension ⟨0⟩ ⟨1⟩, .addExtension ⟨0⟩ ⟨2⟩,
  .addFunction ⟨0⟩ "outer" [] .unit, .addProduct ⟨4⟩ "Local", .addMethod ⟨5⟩ "get" [] .int false,
  .addFunction ⟨6⟩ "inner" [] .unit, .addLocalVar ⟨8⟩ "x" .int none]

theorem Assembly.scopes_ordered_enclosing : ∃ program,
    Call.makeAll enclosingCalls Program.empty = some program ∧ program.size = 11 ∧
    (∃ ty, program.declaredType ⟨3⟩ = .ok ty ∧ ∀ steps, 4 ≤ steps →
      program.declaredTypeFrom steps ⟨3⟩ = .ok ty) ∧
    program.isStrictAncestor ⟨4⟩ ⟨4⟩ = .ok false ∧
    program.isStrictAncestor ⟨4⟩ ⟨9⟩ = .ok true ∧
    program.enclosingFunction ⟨9⟩ = .ok (some ⟨8⟩) ∧ program.isStrictAncestor ⟨6⟩ ⟨8⟩ = .ok true := by
  have counted : (Call.makeAll enclosingCalls Program.empty).map Program.size = some 11 := by
    decide +kernel
  obtain ⟨program, made, size⟩ := Option.map_eq_some_iff.mp counted
  obtain rfl : Call.made enclosingCalls = program := by rw [Call.made, made]; rfl
  have there (index : Nat) (below : index < 11) :
      ∃ decl, (Call.made enclosingCalls).find? ⟨index⟩ = some decl :=
    Program.find?_of_lt (size.symm ▸ below)
  obtain ⟨walks, irreflexive, transitive, innermost⟩ :=
    scopes_ordered enclosingCalls (Call.made enclosingCalls) made
  obtain ⟨extension, found⟩ := there 3 (by decide)
  obtain ⟨outer, found_outer⟩ := there 4 (by decide)
  have owned : (Call.made enclosingCalls).enclosingFunction ⟨9⟩ = .ok (some ⟨8⟩) := by decide +kernel
  have method : (Call.made enclosingCalls).IsFunction ⟨6⟩ := by
    have listed : (((Call.made enclosingCalls).find? ⟨6⟩).bind Decl.routine?).isSome = true := by
      decide +kernel
    obtain ⟨routine, routed⟩ := Option.isSome_iff_exists.mp listed
    obtain ⟨own, present, holds⟩ := Option.bind_eq_some_iff.mp routed
    exact ⟨own, routine, present, holds⟩
  refine ⟨_, made, size, (walks ⟨3⟩ extension found).declared, irreflexive ⟨4⟩ outer found_outer,
    transitive ⟨4⟩ ⟨6⟩ ⟨9⟩ (by decide +kernel) (by decide +kernel), owned, ?_⟩
  exact (innermost ⟨9⟩ ⟨8⟩ owned).2.2 ⟨6⟩ method (by decide) (by decide +kernel)

end Lowering
