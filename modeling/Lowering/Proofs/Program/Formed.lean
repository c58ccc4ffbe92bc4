import Lowering.Proofs.Program.Gathering

/-
This file says when a program is well-formed: declarations stand behind the spaces around them, a
space lists what is declared in it in the order of its declaration, and a function declares its
receiver and its parameters as its type says. A program is built one declaration at a time, so one
declaration at most is ever unfinished.
-/

namespace Lowering

/-- What an extension extends. -/
def Decl.extended? (decl : Decl) : Option DeclId :=
  match decl.kind with
  | .typeExtension extended _ => some extended
  | _ => none

/-- A variable or a parameter, the type of which a function may rely on. -/
def Decl.isLocal (decl : Decl) : Bool :=
  match decl.kind with
  | .variable _ | .parameter _ => true
  | _ => false

namespace Program

/-- A variable or a parameter of this type is declared inside the owner. -/
def HoldsLocal (program : Program) (owner id : DeclId) (ty : Ty) : Prop :=
  ∃ decl, program.find? id = some decl ∧ decl.isLocal = true ∧ decl.parent = some owner ∧
    decl.ty = ty

theorem HoldsLocal.unique {program : Program} {owner id : DeclId} {ty other : Ty}
    (held : program.HoldsLocal owner id ty) (again : program.HoldsLocal owner id other) :
    ty = other := by
  obtain ⟨decl, found, _, _, typed⟩ := held
  obtain ⟨same, found_again, _, _, typed_again⟩ := again
  obtain rfl := Option.some.inj (found.symm.trans found_again)
  exact typed.symm.trans typed_again

/-- What a function that is written in the program lists and says of itself. -/
structure FormsRoutine (program : Program) (id : DeclId) (ty : Ty) (routine : Routine) : Prop where
  typed : ∃ types result, ty = .function types result ∧
    List.Forall₂ (program.HoldsLocal id) routine.params types
  received : routine.self.isSome = (routine.isMember || routine.isConstructor)
  housed : ∀ self ∈ routine.self, ∃ ty, program.HoldsLocal id self ty
  mutating : routine.isMutating = true ↔
    routine.isMember = true ∧ ∃ self ∈ routine.self, ∃ base, program.HoldsLocal id self (.inout base)
  synthesized : routine.isSynthesized = true → routine.isConstructor = true

/-- What every declaration of a well-formed program is like. -/
structure Forms (program : Program) (id : DeclId) (decl : Decl) : Prop where
  parent : ∀ parent ∈ decl.parent, parent.index < id.index
  extended : ∀ extended ∈ decl.extended?, extended.index < id.index
  ascending : decl.members.Pairwise fun member later => member.index < later.index
  members : ∀ member ∈ decl.members, ∃ own, program.find? member = some own ∧ own.parent = some id
  routine : ∀ routine ∈ decl.routine?, routine.isBuiltin = false →
    program.FormsRoutine id decl.ty routine

/-- Every declaration is finished, with the exception of at most one. -/
def FormsBut (program : Program) (unfinished : Option DeclId) : Prop :=
  ∀ id decl, program.find? id = some decl → unfinished ≠ some id → program.Forms id decl

def Formed (program : Program) : Prop :=
  ∀ id decl, program.find? id = some decl → program.Forms id decl

end Program

/-- A change leaves a declaration where it is, and the type of a variable or a parameter. -/
structure Decl.Abides (later old : Decl) : Prop where
  parent : later.parent = old.parent
  typed : old.isLocal = true → later.isLocal = true ∧ later.ty = old.ty

namespace Decl.Abides

theorem refl (decl : Decl) : decl.Abides decl := ⟨rfl, fun isLocal => ⟨isLocal, rfl⟩⟩

theorem trans {first second third : Decl} (later : third.Abides second)
    (sooner : second.Abides first) : third.Abides first := by
  refine ⟨later.parent.trans sooner.parent, fun isLocal => ?_⟩
  obtain ⟨still, same⟩ := sooner.typed isLocal
  obtain ⟨last, again⟩ := later.typed still
  exact ⟨last, again.trans same⟩

theorem addMember (member : DeclId) (decl : Decl) :
    (decl.mapKind (DeclKind.addMember member)).Abides decl := by
  obtain ⟨name, kind, ty, parent, span⟩ := decl
  cases kind <;> exact ⟨rfl, fun isLocal => ⟨isLocal, rfl⟩⟩

theorem addConformance (conformance : Conformance) (decl : Decl) :
    (decl.mapKind (DeclKind.addConformance conformance)).Abides decl := by
  obtain ⟨name, kind, ty, parent, span⟩ := decl
  cases kind <;> exact ⟨rfl, fun isLocal => ⟨isLocal, rfl⟩⟩

theorem mapRoutine (change : Routine → Routine) (decl : Decl) :
    (decl.mapKind (DeclKind.mapRoutine change)).Abides decl := by
  obtain ⟨name, kind, ty, parent, span⟩ := decl
  cases kind <;> exact ⟨rfl, fun isLocal => ⟨isLocal, rfl⟩⟩

/-- Only the type of a variable or a parameter matters to other declarations. -/
theorem retyped {decl : Decl} (other : decl.isLocal = false) (ty : Ty) :
    Decl.Abides { decl with ty := ty } decl :=
  ⟨rfl, fun isLocal => nomatch other.symm.trans isLocal⟩

end Decl.Abides

namespace Program

variable {program before after : Program} {id : DeclId} {decl : Decl}

/-- Every declaration is still there, and another one may rely on it as before. -/
def Abides (before after : Program) : Prop :=
  ∀ id decl, before.find? id = some decl →
    ∃ later, after.find? id = some later ∧ later.Abides decl

/-- Every declaration is still there as it was. -/
def PriorTo (before after : Program) : Prop :=
  ∀ id decl, before.find? id = some decl → after.find? id = some decl

theorem PriorTo.abides (prior : before.PriorTo after) : before.Abides after :=
  fun id decl found => ⟨decl, prior id decl found, .refl decl⟩

theorem priorTo_push (program : Program) (decl : Decl) : program.PriorTo (program.push decl) :=
  fun _ _ found => find?_push_of_some found decl

theorem abides_modify {change : Decl → Decl}
    (abides : ∀ decl, program.find? id = some decl → (change decl).Abides decl) :
    program.Abides (program.modify id change) := by
  intro other decl found
  by_cases same : other = id
  · subst same
    exact ⟨change decl, by rw [find?_modify, if_pos rfl, found]; rfl, abides decl found⟩
  · exact ⟨decl, by rw [find?_modify, if_neg same, found], .refl decl⟩

theorem Abides.trans {between : Program} (first : before.Abides between)
    (second : between.Abides after) : before.Abides after := by
  intro id decl found
  obtain ⟨middle, found, abides⟩ := first id decl found
  obtain ⟨later, found, again⟩ := second id middle found
  exact ⟨later, found, again.trans abides⟩

namespace Abides

variable (abides : before.Abides after) {owner : DeclId} {ty : Ty}

include abides

theorem holdsLocal (held : before.HoldsLocal owner id ty) : after.HoldsLocal owner id ty := by
  obtain ⟨decl, found, isLocal, inside, typed⟩ := held
  obtain ⟨later, still, same⟩ := abides id decl found
  obtain ⟨again, unchanged⟩ := same.typed isLocal
  exact ⟨later, still, again, same.parent.trans inside, unchanged.trans typed⟩

/-- A local of the later program that was there before had its type all along. -/
theorem holdsLocal_iff (held : before.HoldsLocal owner id ty) {other : Ty} :
    after.HoldsLocal owner id other ↔ before.HoldsLocal owner id other := by
  refine ⟨fun later => ?_, abides.holdsLocal⟩
  obtain rfl := (abides.holdsLocal held).unique later
  exact held

theorem formsRoutine {routine : Routine} (formed : before.FormsRoutine id ty routine) :
    after.FormsRoutine id ty routine where
  typed := by
    obtain ⟨types, result, typed, held⟩ := formed.typed
    exact ⟨types, result, typed, held.imp fun _ _ => abides.holdsLocal⟩
  received := formed.received
  housed := fun self listed => (formed.housed self listed).imp fun _ => abides.holdsLocal
  mutating := by
    refine formed.mutating.trans (and_congr_right fun _ => ?_)
    refine exists_congr fun self => and_congr_right fun listed => exists_congr fun base => ?_
    obtain ⟨ty, held⟩ := formed.housed self listed
    exact (abides.holdsLocal_iff held).symm
  synthesized := formed.synthesized

theorem forms (formed : before.Forms id decl) : after.Forms id decl where
  parent := formed.parent
  extended := formed.extended
  ascending := formed.ascending
  members := by
    intro member listed
    obtain ⟨own, found, inside⟩ := formed.members member listed
    obtain ⟨later, still, same⟩ := abides member own found
    exact ⟨later, still, same.parent.trans inside⟩
  routine := fun routine listed written => abides.formsRoutine (formed.routine routine listed written)

end Abides

theorem formed_empty : empty.Formed := by
  intro id decl found
  simp [find?, empty] at found

theorem Formed.but (formed : program.Formed) (unfinished : Option DeclId) :
    program.FormsBut unfinished :=
  fun id decl found _ => formed id decl found

/-- The last declaration is finished. -/
theorem FormsBut.finish (formed : program.FormsBut (some id))
    (last : ∀ decl, program.find? id = some decl → program.Forms id decl) : program.Formed := by
  intro other decl found
  by_cases same : id = other
  · subst same
    exact last decl found
  · exact formed other decl found fun unfinished => same (Option.some.inj unfinished)

/-- Something is declared while another declaration is unfinished. -/
theorem FormsBut.push {unfinished : Option DeclId} (formed : program.FormsBut unfinished)
    (new : unfinished ≠ some program.nextId → (program.push decl).Forms program.nextId decl) :
    (program.push decl).FormsBut unfinished := by
  intro other own found finished
  rw [find?_push] at found
  split at found
  next last =>
    subst last
    obtain rfl := Option.some.inj found
    exact new finished
  next => exact (program.priorTo_push decl).abides.forms (formed other own found finished)

/-- A declaration is changed and left unfinished. -/
theorem FormsBut.modify (formed : program.FormsBut (some id)) {change : Decl → Decl}
    (abides : ∀ decl, program.find? id = some decl → (change decl).Abides decl) :
    (program.modify id change).FormsBut (some id) := by
  intro other decl found finished
  have apart : other ≠ id := fun same => finished (congrArg some same.symm)
  rw [find?_modify, if_neg apart] at found
  exact (abides_modify abides).forms (formed other decl found finished)

/-- A declaration is changed at once. -/
theorem Formed.modify (formed : program.Formed) {change : Decl → Decl}
    (abides : ∀ decl, program.find? id = some decl → (change decl).Abides decl)
    (forms : ∀ decl, program.find? id = some decl → program.Forms id decl →
      (program.modify id change).Forms id (change decl)) : (program.modify id change).Formed := by
  refine ((formed.but (some id)).modify abides).finish fun later found => ?_
  rw [find?_modify, if_pos rfl] at found
  obtain ⟨decl, was, rfl⟩ := Option.map_eq_some_iff.mp found
  exact forms decl was (formed id decl was)

/-- What is neither a space nor a function is formed where it stands. -/
theorem Forms.bare (parent : ∀ parent ∈ decl.parent, parent.index < id.index)
    (extended : ∀ extended ∈ decl.extended?, extended.index < id.index) (members : decl.members = [])
    (routine : ∀ routine ∈ decl.routine?, routine.isBuiltin = true) : program.Forms id decl where
  parent := parent
  extended := extended
  ascending := by rw [members]; exact .nil
  members := by rw [members]; exact fun _ listed => nomatch listed
  routine := fun own listed written => by rw [routine own listed] at written; cases written

theorem Forms.lt_size (formed : program.Forms id decl) {member : DeclId}
    (listed : member ∈ decl.members) : member.index < program.size := by
  obtain ⟨own, found, _⟩ := formed.members member listed
  exact (Array.getElem?_eq_some_iff.mp found).1

/-- What a declaration space is like once it lists what is declared in it last. -/
theorem Forms.addMember (formed : program.Forms id decl) {own : Decl}
    (inside : own.parent = some id) (abides : program.Abides after)
    (found : after.find? program.nextId = some own) :
    after.Forms id (decl.mapKind (DeclKind.addMember program.nextId)) := by
  have kept := abides.forms formed
  have entered : ∃ later, after.find? program.nextId = some later ∧ later.parent = some id :=
    ⟨own, found, inside⟩
  obtain ⟨name, kind, ty, parent, span⟩ := decl
  cases kind with
  | module members | view members | product members | typeExtension _ members =>
    refine ⟨kept.parent, kept.extended, ?_, ?_, kept.routine⟩
    · show (members ++ [program.nextId]).Pairwise _
      refine List.pairwise_append.mpr ⟨kept.ascending, List.pairwise_singleton .., ?_⟩
      intro member listed last same
      obtain rfl := List.mem_singleton.mp same
      exact formed.lt_size listed
    · intro member listed
      rcases List.mem_append.mp listed with old | new
      · exact kept.members member old
      · exact List.mem_singleton.mp new ▸ entered
  | _ => exact kept

/-- What is entered into the space around it is left to be finished. -/
theorem Formed.enter (formed : program.Formed) {own : Decl} {space : DeclId}
    (inside : own.parent = some space) (there : space.index < program.size) :
    ((program.push own).modify space (Decl.mapKind (DeclKind.addMember program.nextId))).FormsBut
        (some program.nextId) ∧
      ((program.push own).modify space
        (Decl.mapKind (DeclKind.addMember program.nextId))).find? program.nextId = some own := by
  have apart : program.nextId ≠ space := fun same => Nat.lt_irrefl _ (same ▸ there)
  have found : ((program.push own).modify space
      (Decl.mapKind (DeclKind.addMember program.nextId))).find? program.nextId = some own := by
    rw [find?_modify, if_neg apart, program.find?_push_next]
  have abides : program.Abides
      ((program.push own).modify space (Decl.mapKind (DeclKind.addMember program.nextId))) :=
    (program.priorTo_push own).abides.trans (abides_modify fun decl _ => .addMember _ decl)
  refine ⟨fun other decl listed finished => ?_, found⟩
  have old : other ≠ program.nextId := fun same => finished (congrArg some same.symm)
  rw [find?_modify, find?_push, if_neg old] at listed
  split at listed
  next here =>
    obtain ⟨was, held, rfl⟩ := Option.map_eq_some_iff.mp listed
    exact (formed other was held).addMember (here ▸ inside) abides found
  next => exact abides.forms (formed other decl listed)

end Program

end Lowering
