import Lowering.Pass.Basic
import Lowering.Proofs.IR.Carrying
import Mathlib.Data.List.Perm.Basic

/-
This file compares what two runs of a pass have done, each from a start of its own. What one run
declares, fills, lists and reports, so does the other. Thunks are left aside: they may be filled at
both starts, and again in both runs.
-/

namespace Lowering

open IR

namespace IR

/-- The function is there, and it has blocks. -/
def IsFilled (function : Option Function) : Prop :=
  ∃ given, function = some given ∧ given.blocks ≠ []

theorem isFilled_some {function : Function} : IsFilled (some function) ↔ function.blocks ≠ [] :=
  ⟨fun ⟨_, same, blocks⟩ => Option.some.inj same ▸ blocks, fun blocks => ⟨function, rfl, blocks⟩⟩

/--
What became of a function since the start of one run is what became of it in another run. Only a
function that is no thunk is compared block by block.
-/
structure Recurs (regular : Prop) (base peer now other : Option Function) : Prop where
  stays : base.isSome = true → now.isSome = true
  declared : now.isSome = true → base.isSome = true ∨ other.isSome = true
  kept : regular → IsFilled base → now = base
  same : regular → IsFilled now → IsFilled base ∨ ¬IsFilled peer ∧ other = now

namespace Recurs

variable {regular : Prop} {base peer now other : Option Function}

theorem refl (regular : Prop) (base peer : Option Function) : Recurs regular base peer base peer :=
  ⟨id, Or.inl, fun _ _ => rfl, fun _ => Or.inl⟩

/-- The function is filled alike where it was not filled before. -/
theorem fill {function : Function} (free : ¬IsFilled base) (clear : ¬IsFilled peer) :
    Recurs regular base peer (some function) (some function) :=
  ⟨fun _ => rfl, fun _ => Or.inr rfl, fun _ filled => (free filled).elim,
    fun _ _ => Or.inr ⟨clear, rfl⟩⟩

/-- Thunks are not compared. -/
theorem thunk {function again : Function} (marked : ¬regular) :
    Recurs regular base peer (some function) (some again) :=
  ⟨fun _ => rfl, fun _ => Or.inr rfl, fun plain => (marked plain).elim,
    fun plain => (marked plain).elim⟩

/-- A function that is asked for is the one that is there, or it is declared. -/
theorem declare (recurs : Recurs regular base peer now other) {bare : Function}
    (empty : bare.blocks = []) {after last : Option Function}
    (asked : after = now ∧ now.isSome = true ∨ now = none ∧ after = some bare)
    (answered : last = other ∧ other.isSome = true ∨ other = none ∧ last = some bare) :
    Recurs regular base peer after last := by
  have present : last.isSome = true := by
    rcases answered with ⟨rfl, there⟩ | ⟨_, rfl⟩
    · exact there
    · rfl
  have unfilled : ¬IsFilled (some bare) := fun filled => isFilled_some.mp filled empty
  constructor
  · intro there
    rcases asked with ⟨rfl, _⟩ | ⟨_, rfl⟩
    · exact recurs.stays there
    · rfl
  · exact fun _ => Or.inr present
  · intro plain filled
    rcases asked with ⟨rfl, _⟩ | ⟨rfl, _⟩
    · exact recurs.kept plain filled
    · obtain ⟨_, rfl, _⟩ := filled
      exact nomatch recurs.stays rfl
  · intro plain filled
    rcases asked with ⟨rfl, _⟩ | ⟨_, rfl⟩
    · refine (recurs.same plain filled).imp id fun ⟨clear, same⟩ => ⟨clear, ?_⟩
      rcases answered with ⟨rfl, _⟩ | ⟨rfl, _⟩
      · exact same
      · obtain ⟨_, rfl, _⟩ := filled
        cases same
    · exact (unfilled filled).elim

/-- What became of it in one stretch and in the next one is taken together. -/
theorem trans {after last : Option Function} (first : Recurs regular base peer now other)
    (back : Recurs regular peer base other now) (rest : Recurs regular now other after last)
    (again : Recurs regular other now last after) : Recurs regular base peer after last where
  stays there := rest.stays (first.stays there)
  declared there := by
    rcases rest.declared there with present | present
    · exact (first.declared present).imp id again.stays
    · exact Or.inr present
  kept plain filled := by
    have same := first.kept plain filled
    exact (rest.kept plain (same ▸ filled)).trans same
  same plain filled := by
    rcases rest.same plain filled with early | ⟨clear, same⟩
    · rcases first.same plain early with old | ⟨clear, same⟩
      · exact Or.inl old
      · have written : IsFilled other := same ▸ early
        exact Or.inr ⟨clear, (again.kept plain written).trans (same.trans (rest.kept plain early).symm)⟩
    · exact Or.inr ⟨fun old => clear (back.kept plain old ▸ old), same⟩

section Swap

variable {start between after middle end_ : Option Function}
  (later : Recurs regular between start after middle)
  (laterBack : Recurs regular start between middle after)
  (sooner : Recurs regular start middle between end_)
  (soonerBack : Recurs regular middle start end_ between)

include later laterBack sooner soonerBack

/-- Of two steps that change places, either may have declared the function. -/
theorem swap_isSome : end_.isSome = after.isSome := by
  rw [Bool.eq_iff_iff]
  constructor
  · intro there
    rcases soonerBack.declared there with present | present
    · rcases laterBack.declared present with old | present
      · exact later.stays (sooner.stays old)
      · exact present
    · exact later.stays present
  · intro there
    rcases later.declared there with present | present
    · rcases sooner.declared present with old | present
      · exact soonerBack.stays (laterBack.stays old)
      · exact present
    · exact soonerBack.stays present

/-- Of two steps that change places, either may have filled the function. -/
theorem swap_filled (plain : regular) (filled : IsFilled after) : end_ = after := by
  rcases later.same plain filled with early | ⟨_, same⟩
  · have kept := later.kept plain early
    rcases sooner.same plain early with old | ⟨_, same⟩
    · have back := laterBack.kept plain old
      rw [soonerBack.kept plain (back ▸ old), back, kept, sooner.kept plain old]
    · rw [same, kept]
  · rw [soonerBack.kept plain (same ▸ filled), same]

theorem swap_back (plain : regular) (filled : IsFilled end_) : end_ = after := by
  rcases soonerBack.same plain filled with early | ⟨_, same⟩
  · have kept := soonerBack.kept plain early
    rcases laterBack.same plain early with old | ⟨_, same⟩
    · have back := sooner.kept plain old
      rw [later.kept plain (back ▸ old), back, kept, laterBack.kept plain old]
    · rw [same, kept]
  · rw [later.kept plain (same ▸ filled), same]

end Swap

end Recurs

/-- A function that was asked for is the one that was there, or it is declared, and no other is. -/
theorem BuildM.function?_getOrCreate {name : String} {signature : Signature} {value : Value}
    {before after : Builder} (done : getOrCreateFunction name signature before = .ok value after) :
    (∀ other, other ≠ name → after.module.function? other = before.module.function? other) ∧
      (after.module.function? name = before.module.function? name ∧
          (before.module.function? name).isSome = true ∨
        before.module.function? name = none ∧
          after.module.function? name = some (Function.declared name signature)) ∧
      after.module.witnessTables = before.module.witnessTables ∧ after.cursor = before.cursor := by
  obtain ⟨_, ⟨function, found, _, rfl⟩ | ⟨absent, rfl⟩⟩ := run_getOrCreateFunction done
  · exact ⟨fun _ _ => rfl, Or.inl ⟨rfl, by simp [found]⟩, rfl, rfl⟩
  · refine ⟨fun other differs => ?_, Or.inr ⟨absent, ?_⟩, rfl, rfl⟩
    · simp [Builder.modifyModule, Module.addFunction, Module.function?, List.find?_append,
        Function.declared, Ne.symm differs]
    · have missing : before.module.functions.find? (·.name == name) = none := absent
      simp [Builder.modifyModule, Module.addFunction, Module.function?, List.find?_append, missing,
        Function.declared]

end IR

/-- The name is not that of a thunk. -/
def IsRegular (name : String) : Prop := '$' ∉ name.toList

/-- Two lists have grown by the same items, whatever the order. -/
def GrowAlike {A : Type} (base peer now other : List A) : Prop :=
  ∃ added, now.Perm (base ++ added) ∧ other.Perm (peer ++ added)

namespace GrowAlike

variable {A : Type} {base peer now other : List A}

theorem refl (base peer : List A) : GrowAlike base peer base peer := ⟨[], by simp, by simp⟩

theorem add (alike : GrowAlike base peer now other) (item : A) :
    GrowAlike base peer (now ++ [item]) (other ++ [item]) := by
  obtain ⟨added, left, right⟩ := alike
  refine ⟨added ++ [item], ?_, ?_⟩
  · rw [← List.append_assoc]
    exact left.append_right _
  · rw [← List.append_assoc]
    exact right.append_right _

theorem trans {after last : List A} (first : GrowAlike base peer now other)
    (rest : GrowAlike now other after last) : GrowAlike base peer after last := by
  obtain ⟨added, left, right⟩ := first
  obtain ⟨more, front, back⟩ := rest
  refine ⟨added ++ more, ?_, ?_⟩
  · rw [← List.append_assoc]
    exact front.trans (left.append_right _)
  · rw [← List.append_assoc]
    exact back.trans (right.append_right _)

/-- Two lists that start out the same up to order stay so. -/
theorem perm (alike : GrowAlike base peer now other) (start : base.Perm peer) : now.Perm other := by
  obtain ⟨added, left, right⟩ := alike
  exact left.trans ((start.append_right added).trans right.symm)

theorem of_perm (alike : GrowAlike base peer now other) {after : List A} (same : after.Perm now) :
    GrowAlike base peer after other := by
  obtain ⟨added, left, right⟩ := alike
  exact ⟨added, same.trans left, right⟩

/-- What is added in one order or the other is the same. -/
theorem swap {first last : List A} (left : GrowAlike base peer now last)
    (right : GrowAlike now base first peer) : first.Perm last := by
  obtain ⟨added, front, back⟩ := left
  obtain ⟨more, later, early⟩ := right
  calc first.Perm (now ++ more) := later
    _ |>.Perm (base ++ added ++ more) := front.append_right more
    _ |>.Perm (base ++ more ++ added) := by
      rw [List.append_assoc, List.append_assoc]
      exact List.perm_append_comm.append_left base
    _ |>.Perm (peer ++ added) := early.symm.append_right added
    _ |>.Perm last := back.symm

end GrowAlike

/-- What the first run has done since its start, the second run has done since its own. -/
structure Pass.Repeats (base peer pass other : Pass) : Prop where
  functions : ∀ name, Recurs (IsRegular name) (base.builder.module.function? name)
    (peer.builder.module.function? name) (pass.builder.module.function? name)
    (other.builder.module.function? name)
  back : ∀ name, Recurs (IsRegular name) (peer.builder.module.function? name)
    (base.builder.module.function? name) (other.builder.module.function? name)
    (pass.builder.module.function? name)
  tables : GrowAlike base.builder.module.witnessTables peer.builder.module.witnessTables
    pass.builder.module.witnessTables other.builder.module.witnessTables
  reports : GrowAlike base.report.diagnostics peer.report.diagnostics pass.report.diagnostics
    other.report.diagnostics
  named : pass.builder.module.name = base.builder.module.name
  called : other.builder.module.name = peer.builder.module.name

namespace Pass.Repeats

variable {base peer pass other : Pass}

theorem refl (base peer : Pass) : base.Repeats peer base peer :=
  ⟨fun _ => .refl _ _ _, fun _ => .refl _ _ _, .refl _ _, .refl _ _, rfl, rfl⟩

theorem trans {after last : Pass} (first : base.Repeats peer pass other)
    (rest : pass.Repeats other after last) : base.Repeats peer after last :=
  ⟨fun name => (first.functions name).trans (first.back name) (rest.functions name) (rest.back name),
    fun name => (first.back name).trans (first.functions name) (rest.back name)
      (rest.functions name),
    first.tables.trans rest.tables, first.reports.trans rest.reports,
    rest.named.trans first.named, rest.called.trans first.called⟩

/-- Only what becomes of the functions is to be compared. -/
theorem update (repeats : base.Repeats peer pass other) {after last : Pass}
    (changed : ∀ name,
      after.builder.module.function? name = pass.builder.module.function? name ∧
          last.builder.module.function? name = other.builder.module.function? name ∨
        Recurs (IsRegular name) (base.builder.module.function? name)
            (peer.builder.module.function? name) (after.builder.module.function? name)
            (last.builder.module.function? name) ∧
          Recurs (IsRegular name) (peer.builder.module.function? name)
            (base.builder.module.function? name) (last.builder.module.function? name)
            (after.builder.module.function? name))
    (tables : after.builder.module.witnessTables = pass.builder.module.witnessTables ∧
      last.builder.module.witnessTables = other.builder.module.witnessTables)
    (reports : after.report = pass.report ∧ last.report = other.report)
    (names : after.builder.module.name = pass.builder.module.name ∧
      last.builder.module.name = other.builder.module.name) :
    base.Repeats peer after last where
  functions name := by
    rcases changed name with ⟨same, again⟩ | ⟨recurs, _⟩
    · rw [same, again]
      exact repeats.functions name
    · exact recurs
  back name := by
    rcases changed name with ⟨same, again⟩ | ⟨_, recurs⟩
    · rw [same, again]
      exact repeats.back name
    · exact recurs
  tables := by
    rw [tables.1, tables.2]
    exact repeats.tables
  reports := by
    rw [reports.1, reports.2]
    exact repeats.reports
  named := names.1.trans repeats.named
  called := names.2.trans repeats.called

/-- A function that neither start has filled is written alike. -/
theorem put (repeats : base.Repeats peer pass other) (function : Function) {old again : Function}
    (found : pass.builder.module.function? function.name = some old)
    (present : other.builder.module.function? function.name = some again)
    (free : ¬IsFilled (base.builder.module.function? function.name))
    (clear : ¬IsFilled (peer.builder.module.function? function.name)) :
    base.Repeats peer { pass with builder := pass.builder.put function }
      { other with builder := other.builder.put function } := by
  refine repeats.update (fun name => ?_) ⟨rfl, rfl⟩ ⟨rfl, rfl⟩ ⟨rfl, rfl⟩
  by_cases here : name = function.name
  · subst here
    dsimp only
    rw [Builder.function?_put_self function old _ found,
      Builder.function?_put_self function again _ present]
    exact Or.inr ⟨.fill free clear, .fill clear free⟩
  · exact Or.inl ⟨Builder.function?_put_of_ne function _ name here,
      Builder.function?_put_of_ne function _ name here⟩

/-- A thunk may be written in different ways. -/
theorem putThunk (repeats : base.Repeats peer pass other) {first second old again : Function}
    (name : second.name = first.name) (marked : ¬IsRegular first.name)
    (found : pass.builder.module.function? first.name = some old)
    (present : other.builder.module.function? first.name = some again) :
    base.Repeats peer { pass with builder := pass.builder.put first }
      { other with builder := other.builder.put second } := by
  refine repeats.update (fun other => ?_) ⟨rfl, rfl⟩ ⟨rfl, rfl⟩ ⟨rfl, rfl⟩
  by_cases here : other = first.name
  · subst here
    dsimp only
    rw [Builder.function?_put_self first old _ found, ← name,
      Builder.function?_put_self second again _ (by rw [name]; exact present), name]
    exact Or.inr ⟨.thunk marked, .thunk marked⟩
  · exact Or.inl ⟨Builder.function?_put_of_ne first _ other here,
      Builder.function?_put_of_ne second _ other (name ▸ here)⟩

/-- A function is asked for with one signature. -/
theorem getOrCreate (repeats : base.Repeats peer pass other) {name : String}
    {signature : Signature} {value again : Value} {builder last : Builder}
    (done : BuildM.getOrCreateFunction name signature pass.builder = .ok value builder)
    (ran : BuildM.getOrCreateFunction name signature other.builder = .ok again last)
    (names peers : Names) :
    base.Repeats peer { pass with names := names, builder := builder }
      { other with names := peers, builder := last } := by
  obtain ⟨others, asked, tables, _⟩ := BuildM.function?_getOrCreate done
  obtain ⟨rest, answered, listed, _⟩ := BuildM.function?_getOrCreate ran
  have called : builder.module.name = pass.builder.module.name := by
    obtain ⟨_, ⟨_, _, _, rfl⟩ | ⟨_, rfl⟩⟩ := BuildM.run_getOrCreateFunction done <;> rfl
  have titled : last.module.name = other.builder.module.name := by
    obtain ⟨_, ⟨_, _, _, rfl⟩ | ⟨_, rfl⟩⟩ := BuildM.run_getOrCreateFunction ran <;> rfl
  refine repeats.update (fun given => ?_) ⟨tables, listed⟩ ⟨rfl, rfl⟩ ⟨called, titled⟩
  by_cases here : given = name
  · subst here
    exact Or.inr ⟨(repeats.functions given).declare rfl asked answered,
      (repeats.back given).declare rfl answered asked⟩
  · exact Or.inl ⟨others given here, rest given here⟩

theorem addWitnessTable (repeats : base.Repeats peer pass other) (table : WitnessTable) :
    base.Repeats peer
      { pass with builder := pass.builder.modifyModule (Module.addWitnessTable · table) }
      { other with builder := other.builder.modifyModule (Module.addWitnessTable · table) } :=
  ⟨repeats.functions, repeats.back, repeats.tables.add table, repeats.reports, repeats.named,
    repeats.called⟩

theorem addReport (repeats : base.Repeats peer pass other) (diagnostic : Diagnostic) :
    base.Repeats peer { pass with report := pass.report.add diagnostic }
      { other with report := other.report.add diagnostic } :=
  ⟨repeats.functions, repeats.back, repeats.tables, repeats.reports.add diagnostic, repeats.named,
    repeats.called⟩

/-- Insertion points are not compared. -/
theorem withCursor (repeats : base.Repeats peer pass other) (cursor last : Option Cursor) :
    base.Repeats peer (pass.withCursor cursor) (other.withCursor last) :=
  ⟨repeats.functions, repeats.back, repeats.tables, repeats.reports, repeats.named, repeats.called⟩

end Pass.Repeats

/-- The first run has filled a function that is filled at the start of the second one. -/
def Pass.Clashes (base peer pass : Pass) : Prop :=
  ∃ name, IsRegular name ∧ IsFilled (pass.builder.module.function? name) ∧
    ¬IsFilled (base.builder.module.function? name) ∧
    IsFilled (peer.builder.module.function? name)

namespace Pass.Clashes

variable {base peer pass other after : Pass}

/-- What is filled stays filled. -/
theorem mono (clashes : base.Clashes peer pass)
    (higher : ∀ name, pass.builder.module.height name ≤ after.builder.module.height name) :
    base.Clashes peer after := by
  obtain ⟨name, regular, filled, free, taken⟩ := clashes
  refine ⟨name, regular, ?_, free, taken⟩
  exact Module.height_pos_iff.mp (Nat.lt_of_lt_of_le (Module.height_pos_iff.mpr filled) (higher name))

/-- A clash in a later stretch is one in the whole run. -/
theorem of_repeats (repeats : base.Repeats peer pass other) (clashes : pass.Clashes other after) :
    base.Clashes peer after := by
  obtain ⟨name, regular, filled, free, taken⟩ := clashes
  have clear : ¬IsFilled (base.builder.module.function? name) := fun old =>
    free ((repeats.functions name).kept regular old ▸ old)
  refine ⟨name, regular, filled, clear, ?_⟩
  rcases (repeats.back name).same regular taken with old | ⟨_, same⟩
  · exact old
  · exact (free (same ▸ taken)).elim

end Pass.Clashes

end Lowering
