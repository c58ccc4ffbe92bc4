import Lowering.Proofs.Program.Succession
import Lowering.Proofs.Typing.Signature

/-
This file counts the stored members of a type, and shows that a memberwise constructor has one
parameter for each of them that was declared before it, whatever is declared later.
-/

namespace Lowering

/-- A member that introduces a stored variable. -/
def Decl.bindsMember (decl : Decl) : Bool :=
  match decl.kind with
  | .binding binding => binding.isMember
  | _ => false

namespace Program

def bindsMember (program : Program) (member : DeclId) : Bool :=
  (program.find? member).any Decl.bindsMember

/-- The stored members of a type that were declared before the bound. -/
def storing (program : Program) (type : DeclId) (bound : Nat) : List DeclId :=
  ((program.find? type).elim [] Decl.members).filter fun member =>
    member.index < bound && program.bindsMember member

/-- What is added to a program concerns no function and no stored member that was there before. -/
structure Widens (before after : Program) : Prop where
  size : before.size ≤ after.size
  storing : ∀ type bound, bound ≤ before.size → after.storing type bound = before.storing type bound
  old : ∀ id later, after.find? id = some later → id.index < before.size →
    ∃ decl, before.find? id = some decl ∧ later.parent = decl.parent ∧
      ∀ routine, later.routine? = some routine → ∃ own, decl.routine? = some own ∧
        routine.params = own.params ∧ routine.isSynthesized = own.isSynthesized
  new : ∀ id later routine, after.find? id = some later → later.routine? = some routine →
    before.size ≤ id.index → routine.isSynthesized = false

theorem Widens.refl (program : Program) : program.Widens program where
  size := Nat.le_refl _
  storing := fun _ _ _ => rfl
  old := fun _ later found _ =>
    ⟨later, found, rfl, fun routine listed => ⟨routine, listed, rfl, rfl⟩⟩
  new := fun _ _ _ found _ behind =>
    absurd (Array.getElem?_eq_some_iff.mp found).1 (Nat.not_lt.mpr behind)

variable {start program : Program} {id : DeclId} {decl : Decl}

theorem storing_push (program : Program) {decl : Decl} (bare : decl.members = []) (type : DeclId)
    {bound : Nat} (inside : bound ≤ program.size) :
    (program.push decl).storing type bound = program.storing type bound := by
  have members : ((program.push decl).find? type).elim [] Decl.members =
      (program.find? type).elim [] Decl.members := by
    rw [find?_push]
    split
    next last => rw [last, find?_nextId]; exact bare
    next => rfl
  unfold storing
  rw [members]
  refine List.filter_congr fun member _ => ?_
  by_cases below : member.index < bound
  · rw [bindsMember, find?_push_of_lt _ _ _ (Nat.lt_of_lt_of_le below inside), bindsMember]
  · simp [below]

/-- A declaration space may list other members, as long as they are not below the bound. -/
theorem storing_modify {change : Decl → Decl} {bound : Nat}
    (stored : ∀ decl, (change decl).bindsMember = decl.bindsMember)
    (members : ∀ decl, ∃ extra, (change decl).members = decl.members ++ extra ∧
      ∀ member ∈ extra, bound ≤ member.index) (type : DeclId) :
    (program.modify id change).storing type bound = program.storing type bound := by
  have same (member : DeclId) : (program.modify id change).bindsMember member =
      program.bindsMember member := by
    rw [bindsMember, bindsMember, find?_modify]
    split
    · cases program.find? member with
      | none => rfl
      | some decl => exact stored decl
    · rfl
  unfold storing
  simp only [same]
  rw [find?_modify]
  split
  next =>
    cases program.find? type with
    | none => rfl
    | some decl =>
      obtain ⟨extra, listed, behind⟩ := members decl
      have nothing : extra.filter (fun member =>
          member.index < bound && program.bindsMember member) = [] := by
        refine List.filter_eq_nil_iff.mpr fun member inside => ?_
        simp [Nat.not_lt.mpr (behind member inside)]
      simp only [Option.map_some, Option.elim_some, listed, List.filter_append, nothing,
        List.append_nil]
  next => rfl

theorem Widens.push (widens : start.Widens program) (bare : decl.members = [])
    (written : decl.routine?.any Routine.isSynthesized = false) :
    start.Widens (program.push decl) where
  size := Nat.le_trans widens.size (by simp [Program.size, Program.push])
  storing := fun type bound inside =>
    (program.storing_push bare type (Nat.le_trans inside widens.size)).trans
      (widens.storing type bound inside)
  old := by
    intro other later found inside
    rw [find?_push_of_lt _ _ _ (Nat.lt_of_lt_of_le inside widens.size)] at found
    exact widens.old other later found inside
  new := by
    intro other later routine found listed behind
    rw [find?_push] at found
    split at found
    · obtain rfl := Option.some.inj found
      rwa [listed] at written
    · exact widens.new other later routine found listed behind

/-- Only a function that is new may get other parameters. -/
theorem Widens.modify (widens : start.Widens program) {change : Decl → Decl}
    (parent : ∀ decl, (change decl).parent = decl.parent)
    (stored : ∀ decl, (change decl).bindsMember = decl.bindsMember)
    (members : ∀ decl, ∃ extra, (change decl).members = decl.members ++ extra ∧
      ∀ member ∈ extra, start.size ≤ member.index)
    (routine : ∀ decl routine, (change decl).routine? = some routine →
      ∃ own, decl.routine? = some own ∧ routine.isSynthesized = own.isSynthesized ∧
        (id.index < start.size → routine.params = own.params)) :
    start.Widens (program.modify id change) where
  size := Nat.le_trans widens.size (by simp [Program.size, Program.modify])
  storing := by
    intro type bound inside
    refine (storing_modify stored (fun decl => ?_) type).trans (widens.storing type bound inside)
    obtain ⟨extra, listed, behind⟩ := members decl
    exact ⟨extra, listed, fun member given => Nat.le_trans inside (behind member given)⟩
  old := by
    intro other later found inside
    rw [find?_modify] at found
    split at found
    next same =>
      subst same
      obtain ⟨decl, was, rfl⟩ := Option.map_eq_some_iff.mp found
      obtain ⟨first, was_first, outer, functions⟩ := widens.old other decl was inside
      refine ⟨first, was_first, (parent decl).trans outer, fun later listed => ?_⟩
      obtain ⟨own, listed_own, synthesized, params⟩ := routine decl later listed
      obtain ⟨oldest, listed_oldest, earlier, written⟩ := functions own listed_own
      exact ⟨oldest, listed_oldest, (params inside).trans earlier, synthesized.trans written⟩
    next => exact widens.old other later found inside
  new := by
    intro other later last found listed behind
    rw [find?_modify] at found
    split at found
    next same =>
      subst same
      obtain ⟨decl, was, rfl⟩ := Option.map_eq_some_iff.mp found
      obtain ⟨own, listed_own, synthesized, _⟩ := routine decl last listed
      exact synthesized.trans (widens.new other decl own was listed_own behind)
    next => exact widens.new other later last found listed behind

/-- A function that is new may be given its parameters. -/
theorem Widens.mapRoutine (widens : start.Widens program) {change : Routine → Routine}
    (synthesized : ∀ routine, (change routine).isSynthesized = routine.isSynthesized)
    (params : id.index < start.size → ∀ routine, (change routine).params = routine.params) :
    start.Widens (program.modify id (Decl.mapKind (DeclKind.mapRoutine change))) := by
  refine widens.modify (fun _ => rfl) (fun decl => ?_) (fun decl => ⟨[], ?_, nofun⟩)
    fun decl own listed => ?_
  · obtain ⟨name, kind, ty, parent, span⟩ := decl
    cases kind <;> rfl
  · obtain ⟨name, kind, ty, parent, span⟩ := decl
    cases kind <;> exact (List.append_nil _).symm
  · rw [Decl.routine?_mapRoutine] at listed
    obtain ⟨old, held, rfl⟩ := Option.map_eq_some_iff.mp listed
    exact ⟨old, held, synthesized old, fun inside => params inside old⟩

section Stored

/-- What a member introduces, as a stored member or not at all. -/
theorem introduced_of_member (successive : program.Successive) {member : DeclId}
    {introduced : List DeclId} (asked : (do
      match (← program.decl member).kind with
      | .binding binding => return if binding.isMember then binding.pattern.names else []
      | _ => return [] : Answer (List DeclId)) = .ok introduced) :
    program.bindsMember member = true ∧
        (∃ var own, introduced = [var] ∧ var.index + 1 = member.index ∧
          program.find? var = some own ∧ own.kind.isStored = true) ∨
      program.bindsMember member = false ∧ introduced = [] := by
  obtain ⟨decl, found, asked⟩ := (check_bind _ _ _).mp asked
  rw [bindsMember, decl_eq_ok.mp found, Option.any_some, Decl.bindsMember]
  split at asked
  next binding kind =>
    obtain rfl := (check_pure _ _).mp asked
    cases isMember : binding.isMember with
    | true =>
      obtain ⟨var, own, named, before, there, keeps⟩ :=
        (successive member decl (decl_eq_ok.mp found)).binding binding kind isMember
      exact .inl ⟨rfl, var, own, by rw [named]; rfl, before, there, keeps⟩
    | false => exact .inr ⟨rfl, rfl⟩
  next =>
    obtain rfl := (check_pure _ _).mp asked
    exact .inr ⟨rfl, rfl⟩

theorem check_filterM_eq_self {E A : Type} {check : A → Except E Bool} (items : List A)
    (all : ∀ item ∈ items, check item = .ok true) : items.filterM check = .ok items := by
  have taken (items : List A) (all : ∀ item ∈ items, check item = .ok true) (before : List A) :
      items.filterAuxM check before = .ok (items.reverse ++ before) := by
    induction items generalizing before with
    | nil => rfl
    | cons item rest rest_ih =>
      rw [List.filterAuxM, all item (List.mem_cons_self ..)]
      refine (rest_ih (fun other listed => all other (List.mem_cons_of_mem _ listed)) _).trans ?_
      simp
  rw [List.filterM, taken items all]
  simp [bind, Except.bind, pure, Except.pure]

/-- The variable of each stored member stands right before it. -/
theorem storedVars_eq_ok (successive : program.Successive) {type : DeclId} {vars : List DeclId}
    (asked : program.storedVars type = .ok vars) :
    vars.map (·.index + 1) = (program.storing type program.size).map (·.index) := by
  obtain ⟨decl, found, asked⟩ := (check_bind _ _ _).mp asked
  obtain ⟨names, mapped, asked⟩ := (check_bind _ _ _).mp asked
  have introduced := check_mapM_forall₂ mapped
  have below (member : DeclId) : (member.index < program.size && program.bindsMember member) =
      program.bindsMember member := by
    rw [bindsMember]
    cases there : program.find? member with
    | none => simp
    | some own =>
      have inside : member.index < program.size := (Array.getElem?_eq_some_iff.mp there).1
      simp [inside]
  have collected : names.flatten.map (·.index + 1) =
        (decl.members.filter program.bindsMember).map (·.index) ∧
      ∀ var ∈ names.flatten, ∃ own, program.find? var = some own ∧ own.kind.isStored = true := by
    clear asked mapped
    generalize decl.members = members at introduced
    induction introduced with
    | nil => exact ⟨rfl, nofun⟩
    | @cons member _ _ _ asked _ rest_ih =>
      obtain ⟨follow, stored⟩ := rest_ih
      obtain ⟨isStored, var, own, rfl, before, there, keeps⟩ | ⟨isStored, rfl⟩ :=
        introduced_of_member successive asked
      · rw [List.filter_cons_of_pos isStored, List.flatten_cons, List.singleton_append]
        refine ⟨List.cons_eq_cons.mpr ⟨before, follow⟩, ?_⟩
        rintro _ (_ | ⟨_, listed⟩)
        · exact ⟨own, there, keeps⟩
        · exact stored _ listed
      · rw [List.filter_cons_of_neg (by simp [isStored]), List.flatten_cons, List.nil_append]
        exact ⟨follow, stored⟩
  obtain ⟨follow, stored⟩ := collected
  have kept : names.flatten = vars := by
    refine Except.ok.inj ((check_filterM_eq_self _ fun var listed => ?_).symm.trans asked)
    obtain ⟨own, there, keeps⟩ := stored var listed
    exact (check_bind _ _ _).mpr ⟨own, decl_eq_ok.mpr there, congrArg _ keeps⟩
  unfold storing
  simp only [below]
  rw [decl_eq_ok.mp found, ← kept]
  exact follow

end Stored

/--
A memberwise constructor has as many parameters as there are stored members before it in the type
around it.
-/
def Tallies (program : Program) : Prop :=
  ∀ id decl routine, program.find? id = some decl → decl.routine? = some routine →
    routine.isSynthesized = true → ∀ type ∈ decl.parent,
      routine.params.length = (program.storing type id.index).length

theorem tallies_empty : empty.Tallies := by
  intro id decl routine found
  simp [find?, empty] at found

theorem Tallies.of_widens (tallies : start.Tallies) (widens : start.Widens program) :
    program.Tallies := by
  intro other later routine found listed synthesized type outer
  by_cases inside : other.index < start.size
  · obtain ⟨decl, was, parent, functions⟩ := widens.old other later found inside
    obtain ⟨own, listed_own, params, written⟩ := functions routine listed
    rw [params, widens.storing type other.index (Nat.le_of_lt inside)]
    exact tallies other decl own was listed_own (written ▸ synthesized) type (parent ▸ outer)
  · have written := widens.new other later routine found listed (Nat.le_of_not_lt inside)
    rw [synthesized] at written
    cases written

end Program

namespace Assembly

section Widening

variable {start : Program} {id : DeclId} {decl : Decl}

theorem widens_push (bare : decl.members = [])
    (written : decl.routine?.any Routine.isSynthesized = false) :
    Preserves (start.Widens ·) (push decl) := by
  intro before id after widens done
  obtain ⟨_, rfl⟩ := run_push done
  exact widens.push bare written

/-- A change that concerns neither functions nor members. -/
theorem widens_update {change : Decl → Decl}
    (parent : ∀ decl, (change decl).parent = decl.parent)
    (stored : ∀ decl, (change decl).bindsMember = decl.bindsMember)
    (members : ∀ decl, (change decl).members = decl.members)
    (routine : ∀ decl, (change decl).routine? = decl.routine?) :
    Preserves (start.Widens ·) (update id change) := by
  intro before value after widens done
  rw [run_update done]
  refine widens.modify parent stored (fun decl => ⟨[], ?_, nofun⟩) fun decl own listed => ?_
  · rw [members, List.append_nil]
  · exact ⟨own, (routine decl).symm.trans listed, rfl, fun _ => rfl⟩

theorem widens_addMember {member : DeclId} (behind : start.size ≤ member.index) :
    Preserves (start.Widens ·) (update id (Decl.mapKind (DeclKind.addMember member))) := by
  intro before value after widens done
  rw [run_update done]
  refine widens.modify (fun _ => rfl) (fun decl => ?_) (fun decl => ?_) fun decl own listed => ?_
  · obtain ⟨name, kind, ty, parent, span⟩ := decl
    cases kind <;> rfl
  · obtain ⟨name, kind, ty, parent, span⟩ := decl
    have nothing : ∃ extra, kind.members = kind.members ++ extra ∧
        ∀ member ∈ extra, start.size ≤ member.index :=
      ⟨[], (List.append_nil _).symm, nofun⟩
    cases kind with
    | module | product | view | typeExtension =>
      refine ⟨[member], rfl, fun other listed => ?_⟩
      rwa [List.mem_singleton.mp listed]
    | _ => exact nothing
  · exact ⟨own, (routine?_addMember member decl.kind).symm.trans listed, rfl, fun _ => rfl⟩

theorem widens_mapRoutine {change : Routine → Routine}
    (synthesized : ∀ routine, (change routine).isSynthesized = routine.isSynthesized)
    (params : id.index < start.size → ∀ routine, (change routine).params = routine.params) :
    Preserves (start.Widens ·) (update id (Decl.mapKind (DeclKind.mapRoutine change))) := by
  intro before value after widens done
  rw [run_update done]
  exact widens.mapRoutine synthesized params

theorem widens_pushMember (bare : decl.members = [])
    (written : decl.routine?.any Routine.isSynthesized = false) :
    Preserves (start.Widens ·) (pushMember decl) := by
  intro before id after widens done
  have entered := widens_push bare written before _ _ widens rfl
  obtain ⟨rfl, ⟨_, rfl⟩ | ⟨space, _, updated⟩⟩ := run_pushMember done
  · exact entered
  · exact widens_addMember widens.size _ () _ entered updated

theorem widens_typed {make : Assembly DeclId} (made : Preserves (start.Widens ·) make) :
    Preserves (start.Widens ·) (do let id ← make; typeByDeclaration id; return id) :=
  made.typed fun _ _ => widens_update (fun _ => rfl) (fun _ => rfl) (fun _ => rfl) fun _ => rfl

theorem widens_addRoutine (kind : RoutineKind) (parent : DeclId) (name : String)
    (params : List Param) (result : Ty) (selfType : Option Ty) :
    Preserves (start.Widens ·) (addRoutine kind parent name params result selfType) := by
  intro before id after widens done
  obtain ⟨first, self, second, ids, third, entered, received, declared, rfl⟩ := run_addRoutine done
  have behind : start.size ≤ id.index := (run_pushMember entered).1 ▸ widens.size
  have widens : start.Widens first := widens_pushMember rfl rfl _ _ _ widens entered
  have widens : start.Widens second :=
    Preserves.optionMapM selfType (fun ty => widens_push rfl rfl) _ _ _ widens received
  have widens : start.Widens third :=
    Preserves.mapM params (fun param => widens_push rfl rfl) _ _ _ widens declared
  exact widens.mapRoutine (fun _ => rfl) fun inside => (Nat.not_lt.mpr behind inside).elim

theorem widens_addConstructor (parent : DeclId) (params : List Param) :
    Preserves (start.Widens ·) (addConstructor parent params) :=
  .bind (.ask _) fun _ => widens_addRoutine _ _ _ _ _ _

theorem widens_addLocalBinding (parent : DeclId) (pattern : Pattern) (ty : Ty)
    (initializer : Option Expr) :
    Preserves (start.Widens ·) (addLocalBinding parent pattern ty initializer) := by
  unfold addLocalBinding
  cases pattern.names with
  | nil => exact widens_push rfl rfl
  | cons var rest => exact .bind (.ask _) fun _ => widens_push rfl rfl

end Widening

theorem length_of_mapM {A B : Type} {each : A → Assembly B} (items : List A)
    {before after : Program} {values : List B}
    (done : items.mapM each before = .ok (values, after)) : values.length = items.length := by
  induction items generalizing before after values with
  | nil =>
    obtain ⟨rfl, _⟩ := run_mapM_nil.mp done
    rfl
  | cons item rest rest_ih =>
    obtain ⟨value, between, others, _, mapped, rfl⟩ := run_mapM_cons.mp done
    exact congrArg (· + 1) (rest_ih mapped)

/-- A function is declared under the next id, with as many parameters as it is given. -/
theorem find?_of_addRoutine {kind : RoutineKind} {space id : DeclId} {name : String}
    {params : List Param} {result : Ty} {selfType : Option Ty} {before after : Program}
    (done : addRoutine kind space name params result selfType before = .ok (id, after)) :
    id = before.nextId ∧ ∃ decl routine, after.find? id = some decl ∧
      decl.parent = some space ∧ decl.routine? = some routine ∧
      routine.params.length = params.length := by
  obtain ⟨first, self, second, ids, third, entered, received, declared, rfl⟩ := run_addRoutine done
  obtain ⟨decl, found, parent, listed⟩ := find?_of_pushMember entered
  have found : second.find? id = some decl := by
    cases selfType with
    | none =>
      obtain ⟨_, rfl⟩ := Prod.mk.inj (Except.ok.inj received)
      exact found
    | some ty =>
      obtain ⟨_, pushed, _⟩ := run_map.mp received
      obtain ⟨_, rfl⟩ := run_push pushed
      exact Program.find?_push_of_some found _
  have found := (find?_params id params declared).1 id decl found
  refine ⟨(run_pushMember entered).1, decl.mapKind (DeclKind.mapRoutine fun routine =>
    { routine with self := self, params := ids }), _, ?_, parent,
    (Decl.routine?_mapRoutine _ decl).trans (congrArg _ listed), length_of_mapM params declared⟩
  rw [Program.find?_modify, if_pos rfl, found, Option.map_some]

/-- A memberwise constructor is declared with a parameter for each stored member that is there. -/
theorem tallies_addMemberwiseConstructor {space id : DeclId} {before after : Program}
    (successive : before.Successive) (tallies : before.Tallies)
    (done : addMemberwiseConstructor space before = .ok (id, after)) : after.Tallies := by
  have reads (start : Program) (vars : List DeclId) :
      Preserves (fun program => program = start) (vars.mapM fun var => do
        let decl ← ask (·.decl var)
        return Param.mk (some decl.name) decl.name decl.ty) :=
    .mapM vars fun var => .bind (.ask _) fun _ => .pure _
  obtain ⟨vars, start, asked, following⟩ := run_bind.mp done
  obtain ⟨stored, rfl⟩ := run_ask.mp asked
  obtain ⟨params, between, read, construction⟩ := run_bind.mp following
  obtain rfl := reads start vars start params between rfl read
  obtain ⟨_, middle, constructed, ending⟩ := run_bind.mp construction
  obtain ⟨_, last, updated, ended⟩ := run_bind.mp ending
  obtain ⟨rfl, rfl⟩ := Prod.mk.inj (Except.ok.inj ended)
  obtain rfl := run_update updated
  have widens := widens_addConstructor space params _ _ _ (.refl between) constructed
  obtain ⟨receiver, _, asked, added⟩ := run_bind.mp constructed
  obtain ⟨_, rfl⟩ := run_ask.mp asked
  obtain ⟨next, decl, own, found, parent, listed, count⟩ := find?_of_addRoutine added
  intro other later routine found_other listed_other synthesized type outer
  rw [Program.storing_modify (fun decl => ?_) (fun decl => ⟨[], ?_, nofun⟩)]
  · rw [Program.find?_modify] at found_other
    split at found_other
    next same =>
      subst same
      rw [found, Option.map_some] at found_other
      obtain rfl := Option.some.inj found_other
      rw [Decl.routine?_mapRoutine, listed] at listed_other
      obtain rfl := Option.some.inj listed_other
      obtain rfl : space = type := Option.some.inj (parent.symm.trans outer)
      have follow := congrArg List.length (Program.storedVars_eq_ok successive stored)
      rw [List.length_map, List.length_map] at follow
      calc own.params.length
        _ = params.length := count
        _ = vars.length := length_of_mapM vars read
        _ = (middle.storing space other.index).length := by
          rw [next]
          exact follow.trans
            (congrArg List.length (widens.storing space _ (Nat.le_refl _)).symm)
    next =>
      exact tallies.of_widens widens other later routine found_other listed_other synthesized type
        outer
  · obtain ⟨name, kind, ty, parent, span⟩ := decl
    cases kind <;> rfl
  · obtain ⟨name, kind, ty, parent, span⟩ := decl
    cases kind <;> exact (List.append_nil _).symm

/-- Everything but the declaration of a memberwise constructor only adds to a program. -/
theorem Offered.tallies {A : Type} {step : Assembly A} (offered : Offered step)
    {before after : Program} {value : A} (successive : before.Successive) (tallies : before.Tallies)
    (done : step before = .ok (value, after)) : after.Tallies := by
  have plainly (widens : ∀ start : Program, Preserves (start.Widens ·) step) : after.Tallies :=
    tallies.of_widens (widens before before value after (.refl before) done)
  cases offered with
  | addModule | addVariable | addBuiltin => exact plainly fun _ => widens_push rfl rfl
  | addImport | addAlias => exact plainly fun _ => widens_pushMember rfl rfl
  | addProduct | addView | addAbstractType =>
    exact plainly fun _ => widens_typed (widens_pushMember rfl rfl)
  | addGenericParam => exact plainly fun _ => widens_typed (widens_push rfl rfl)
  | addExtension =>
    exact plainly fun _ => .bind (.ask _) fun _ => .bind (.ask _) fun _ => widens_pushMember rfl rfl
  | addStoredProperty =>
    exact plainly fun _ => .bind (widens_push rfl rfl) fun _ =>
      .bind (.map (widens_pushMember rfl rfl)) fun _ => .pure _
  | addFunction => exact plainly fun _ => widens_addRoutine _ _ _ _ _ _
  | addMethod => exact plainly fun _ => .bind (.ask _) fun _ => widens_addRoutine _ _ _ _ _ _
  | addConstructor => exact plainly fun _ => widens_addConstructor _ _
  | addMemberwiseConstructor parent =>
    exact tallies_addMemberwiseConstructor successive tallies done
  | setBody | setEnv => exact plainly fun _ => widens_mapRoutine (fun _ => rfl) fun _ _ => rfl
  | addLocalBinding => exact plainly fun _ => widens_addLocalBinding _ _ _ _
  | addLocalVar =>
    exact plainly fun _ => .bind (widens_push rfl rfl) fun _ =>
      .bind (widens_addLocalBinding _ _ _ _) fun _ => .pure _
  | addConformance =>
    refine plainly fun _ => .bind (.ask _) fun decl => widens_update (fun _ => rfl) ?_ ?_ ?_
    all_goals exact fun ⟨_, kind, _, _, _⟩ => by cases kind <;> rfl

end Assembly

theorem Program.Assembled.tallies {program : Program} (assembled : program.Assembled) :
    program.Tallies := by
  induction assembled with
  | empty => exact tallies_empty
  | call before offered done before_ih => exact offered.tallies before.successive before_ih done

namespace Program

variable {program : Program} {type : DeclId} {vars : List DeclId}

/-- The stored variables of a type are listed in the order of their declaration. -/
theorem Formed.storedVars_ascend (formed : program.Formed) (successive : program.Successive)
    (asked : program.storedVars type = .ok vars) :
    vars.Pairwise fun first later => first.index < later.index := by
  have ascending : ((program.find? type).elim [] Decl.members).Pairwise
      fun first later => first.index < later.index := by
    cases found : program.find? type with
    | none => exact .nil
    | some decl => exact (formed type decl found).ascending
  have follow : ((program.storing type program.size).map (·.index)).Pairwise (· < ·) :=
    List.pairwise_map.mpr (ascending.filter _)
  rw [← storedVars_eq_ok successive asked, List.pairwise_map] at follow
  exact follow.imp Nat.lt_of_succ_lt_succ

/-- A memberwise constructor has one parameter for each stored variable that was declared before. -/
theorem Tallies.length_params (tallies : program.Tallies) (successive : program.Successive)
    (asked : program.storedVars type = .ok vars) {id : DeclId} {decl : Decl} {routine : Routine}
    (found : program.find? id = some decl) (listed : decl.routine? = some routine)
    (synthesized : routine.isSynthesized = true) (outer : decl.parent = some type) :
    (vars.filter (·.index < id.index)).length = routine.params.length := by
  have inside : id.index < program.size := (Array.getElem?_eq_some_iff.mp found).1
  have function : program.bindsMember id = false := by
    obtain ⟨name, kind, ty, parent, span⟩ := decl
    rw [bindsMember, found]
    cases kind with
    | function => rfl
    | _ => cases listed
  -- The constructor itself is no stored member, so a member up to it is one before it.
  have upTo (member : DeclId) : (member.index < id.index + 1 && (member.index < program.size &&
      program.bindsMember member)) =
        (member.index < id.index && program.bindsMember member) := by
    by_cases same : member = id
    · simp [same, function]
    · have apart : member.index ≠ id.index := by
        intro index
        cases member
        cases id
        exact same (congrArg DeclId.mk index)
      grind
  have counted := congrArg (List.countP (· < id.index + 1)) (storedVars_eq_ok successive asked)
  rw [List.countP_map, List.countP_map, List.countP_eq_length_filter,
    List.countP_eq_length_filter, storing, List.filter_filter] at counted
  simp only [Function.comp_def, upTo, Nat.add_lt_add_iff_right] at counted
  rw [counted, tallies id decl routine found listed synthesized type outer, storing]

end Program

end Lowering
