import Lowering.Proofs.Order.Commutation

/-
This file lowers declarations of two programs that list the members of their modules in different
orders. By induction on the levels below a declaration, whatever is done in one pass is done in the
other.
-/

namespace Lowering

open IR

namespace Job.Agrees

variable {job : Job} {base peer pass after twin : Pass} {cursor last : Option Cursor}

/-- A clash is one wherever the functions are the same. -/
theorem clashes (agrees : job.Agrees after pass) (clashes : base.Clashes peer pass) :
    base.Clashes peer after := by
  obtain ⟨name, regular, filled, free, taken⟩ := clashes
  exact ⟨name, regular, agrees.functions name regular ▸ filled, free, taken⟩

/-- The order in which a pass got to its place does not matter for what the other has done. -/
theorem replays (agrees : job.Agrees after pass)
    (replays : job.Replays base peer cursor last pass twin) :
    job.Replays base peer cursor last after twin := by
  have repeats := replays.repeats
  refine ⟨agrees.orderly, replays.again, agrees.forged, replays.reforged, ⟨?_, ?_, ?_, ?_, ?_, ?_⟩,
    agrees.cursor.symm.trans replays.here, replays.there⟩
  · intro name
    have recurs := repeats.functions name
    refine ⟨fun there => ?_, fun there => ?_, fun regular => ?_, fun regular => ?_⟩
    · exact agrees.present name ▸ recurs.stays there
    · exact recurs.declared ((agrees.present name).trans there)
    · exact agrees.functions name regular ▸ recurs.kept regular
    · exact agrees.functions name regular ▸ recurs.same regular
  · intro name
    have recurs := repeats.back name
    refine ⟨recurs.stays, fun there => ?_, recurs.kept, fun regular => ?_⟩
    · exact (recurs.declared there).imp id fun there => (agrees.present name).symm.trans there
    · exact agrees.functions name regular ▸ recurs.same regular
  · exact repeats.tables.of_perm agrees.tables
  · exact repeats.reports.of_perm agrees.reports
  · exact agrees.named.symm.trans repeats.named
  · exact repeats.called

end Job.Agrees

namespace replaying

theorem addWitnessTable {job : Job} {base peer : Pass} {cursor last : Option Cursor}
    (table : WitnessTable) :
    (replaying job base peer cursor last).Builds (BuildM.addWitnessTable table) where
  excused before _ _ clashes done := by
    obtain ⟨builder, added, rfl⟩ := (lift_build _ _ _ _).mp done
    obtain rfl := (BuildM.run_addWitnessTable _ _ _ _).mp added
    exact clashes
  answers pass other replays :=
    Or.inr ⟨(), _, rfl, rfl, ⟨replays.orderly.names, replays.orderly.functions⟩,
      ⟨replays.again.names, replays.again.functions⟩, replays.forged, replays.reforged,
      replays.repeats.addWitnessTable table, replays.here, replays.there⟩

/-- Declarations are lowered in two orders, by two passes. -/
theorem forM_perm {job : Job} (plain : job.program.PlainNames)
    (unambiguous : job.program.Unambiguous) {work others : DeclId → PassM Unit}
    (own : ∀ id, job.Repeatable (work id))
    (coupled : ∀ id base peer cursor last,
      Couples (replaying job base peer cursor last) (work id) (others id))
    {items again : List DeclId} (order : items.Perm again) (base peer : Pass)
    (cursor last : Option Cursor) :
    Couples (replaying job base peer cursor last) (items.forM work) (again.forM others) where
  excused := (Couples.forM items fun id _ => coupled id base peer cursor last).excused
  answers pass twin replays := by
    cases ran : items.forM work pass with
    | error => exact fun impossible => impossible.elim
    | ok value after =>
      obtain ⟨sorted, done, agrees⟩ := Job.Agrees.perm plain unambiguous own order
        (.refl replays.orderly replays.forged) ran
      have answered := (Couples.forM again fun id _ => coupled id base peer cursor last).answers
        pass twin replays
      rw [done] at answered
      obtain clashes | ⟨_, end_, finished, _, kept⟩ := answered
      · exact Or.inl (agrees.clashes clashes)
      · exact Or.inr ⟨(), end_, finished, rfl, agrees.replays kept⟩

/-- Whatever was lowered before, a declaration is lowered alike on both sides. -/
theorem emitWithin {left right : Job} (alike : left.program.Reorders right.program)
    (options : right.options = left.options) (plain : left.program.PlainNames)
    (unambiguous : left.program.Unambiguous) (levels : Nat) (id : DeclId) (base peer : Pass)
    (cursor last : Option Cursor) :
    Couples (replaying left base peer cursor last) (left.emitWithin levels id)
      (right.emitWithin levels id) := by
  induction levels generalizing right id base peer cursor last with
  | zero => exact Pairs.throw _
  | succ levels levels_ih =>
    have below := levels_ih alike options
    have own (id : DeclId) : left.Repeatable (left.emitWithin levels id) :=
      levels_ih (.refl left.program) rfl id
    have witness (implementation requirement : DeclId) :
        Couples (replaying left base peer cursor last)
          (left.emitWitness implementation requirement)
          (right.emitWitness implementation requirement) := by
      rw [Job.emitWitness_of_kindred alike.kindred]
      exact replaying.emitWitness plain unambiguous implementation requirement
    refine .emitLevel alike (fun id => below id base peer cursor last)
      (emitRoutine alike options plain unambiguous below)
      (Couples.emitConformance alike witness addWitnessTable) ?_ id
    intro _ _ _ _ _ _ _ _ _ order
    exact forM_perm plain unambiguous own below order base peer cursor last

theorem emitModule {left right : Job} (alike : left.program.Reorders right.program)
    (options : right.options = left.options) (plain : left.program.PlainNames)
    (unambiguous : left.program.Unambiguous) (id : DeclId) (base peer : Pass)
    (cursor last : Option Cursor) :
    Couples (replaying left base peer cursor last) (left.emitModule id) (right.emitModule id) := by
  have below := emitWithin alike options plain unambiguous left.nestingLimit
  have limits : right.nestingLimit = left.nestingLimit := by
    rw [Job.nestingLimit, Job.nestingLimit, alike.size]
  have other : right.emitDecl = right.emitWithin left.nestingLimit := by
    funext id
    rw [Job.emitDecl, limits]
  unfold Job.emitModule
  rw [other]
  refine .decl_bind alike id fun decl peer_ _ _ same => ?_
  have members {items again : List DeclId} (order : items.Perm again) :=
    forM_perm plain unambiguous
      (emitWithin (.refl left.program) rfl plain unambiguous left.nestingLimit) below order base peer
      cursor last
  cases same with
  | module order => exact members order
  | same =>
    cases decl.kind with
    | module items => exact members (.refl items)
    | _ => exact .abort _

end replaying

end Lowering
