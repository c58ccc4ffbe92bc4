import Lowering.Proofs.Order.Replay

/-
This file lowers declarations in another order. Two of them may change places, so any of them may.
-/

namespace Lowering

open IR

/-- Two passes have got to the same place, whatever the order in which they got there. -/
structure Job.Agrees (job : Job) (pass other : Pass) : Prop where
  orderly : job.Orderly pass.names pass.builder.module
  again : job.Orderly other.names other.builder.module
  forged : job.AllForged pass.builder.module
  reforged : job.AllForged other.builder.module
  functions : ∀ name, IsRegular name →
    other.builder.module.function? name = pass.builder.module.function? name
  present : ∀ name, (other.builder.module.function? name).isSome =
    (pass.builder.module.function? name).isSome
  tables : pass.builder.module.witnessTables.Perm other.builder.module.witnessTables
  reports : pass.report.diagnostics.Perm other.report.diagnostics
  named : other.builder.module.name = pass.builder.module.name
  cursor : other.builder.cursor = pass.builder.cursor

/-- A step does the same in any two passes, unless they clash. -/
def Job.Repeatable (job : Job) (step : PassM Unit) : Prop :=
  ∀ base peer cursor last, Couples (replaying job base peer cursor last) step step

namespace Job

variable {job : Job} (plain : job.program.PlainNames) (unambiguous : job.program.Unambiguous)

section Functions

variable {names peers : Names} {module other : Module} (orderly : job.Orderly names module)
  (again : job.Orderly peers other)

include plain unambiguous orderly again

/-- Functions without blocks are the same if both are there. -/
theorem Orderly.function?_eq {name : String}
    (present : (other.function? name).isSome = (module.function? name).isSome)
    (same : IsFilled (module.function? name) → other.function? name = module.function? name)
    (back : IsFilled (other.function? name) → other.function? name = module.function? name) :
    other.function? name = module.function? name := by
  by_cases filled : IsFilled (module.function? name)
  · exact same filled
  by_cases taken : IsFilled (other.function? name)
  · exact back taken
  cases found : module.function? name with
  | none =>
    rw [found] at present
    simpa using present
  | some function =>
    rw [found] at present filled
    obtain ⟨copy, listed⟩ := Option.isSome_iff_exists.mp present
    rw [listed] at taken ⊢
    have described := orderly.functions name function found
    have mirrored := again.functions name copy listed
    rw [described.bare (not_not.mp fun blocks => filled (isFilled_some.mpr blocks)),
      mirrored.bare (not_not.mp fun blocks => taken (isFilled_some.mpr blocks)),
      mirrored.signed.unique plain unambiguous described.signed]

end Functions

namespace Agrees

variable {pass other last : Pass}

theorem refl (orderly : job.Orderly pass.names pass.builder.module)
    (forged : job.AllForged pass.builder.module) : job.Agrees pass pass :=
  ⟨orderly, orderly, forged, forged, fun _ _ => rfl, fun _ => rfl, .refl _, .refl _, rfl, rfl⟩

theorem trans (first : job.Agrees pass other) (rest : job.Agrees other last) :
    job.Agrees pass last :=
  ⟨first.orderly, rest.again, first.forged, rest.reforged,
    fun name regular => (rest.functions name regular).trans (first.functions name regular),
    fun name => (rest.present name).trans (first.present name), first.tables.trans rest.tables,
    first.reports.trans rest.reports, rest.named.trans first.named, rest.cursor.trans first.cursor⟩

/-- Each of the two may be a start. -/
theorem start (agrees : job.Agrees pass other) :
    job.Replays pass other pass.builder.cursor other.builder.cursor pass other :=
  ⟨agrees.orderly, agrees.again, agrees.forged, agrees.reforged, .refl pass other, rfl, rfl⟩

/-- A step goes on from where it is, and keeps what is filled. -/
theorem advance {start : Pass} (orderly : job.Orderly start.names start.builder.module)
    (forged : job.AllForged start.builder.module) {work : PassM Unit}
    (repeatable : job.Repeatable work) {after : Pass} (done : work start = .ok () after) :
    job.Replays start start start.builder.cursor start.builder.cursor after after := by
  have answered := (repeatable start start _ _).answers start start (refl orderly forged).start
  rw [done] at answered
  obtain ⟨name, regular, _, free, taken⟩ | ⟨_, end_, ran, _, replays⟩ := answered
  · exact (free taken).elim
  · obtain rfl := (EStateM.Result.ok.inj ran).2
    exact replays

include plain unambiguous

/-- What is done from the same place gets to the same place. -/
theorem step (agrees : job.Agrees pass other) {work : PassM Unit} (repeatable : job.Repeatable work)
    {after : Pass} (done : work pass = .ok () after) :
    ∃ end_, work other = .ok () end_ ∧ job.Agrees after end_ := by
  have answered := (repeatable pass other _ _).answers pass other agrees.start
  rw [done] at answered
  obtain ⟨name, regular, _, free, taken⟩ | ⟨_, end_, ran, _, replays⟩ := answered
  · exact (free (agrees.functions name regular ▸ taken)).elim
  have repeats := replays.repeats
  have present (name : String) : (end_.builder.module.function? name).isSome =
      (after.builder.module.function? name).isSome := by
    rw [Bool.eq_iff_iff]
    constructor
    · intro there
      refine ((repeats.back name).declared there).elim (fun old => ?_) id
      exact (repeats.functions name).stays (agrees.present name ▸ old)
    · intro there
      refine ((repeats.functions name).declared there).elim (fun old => ?_) id
      exact (repeats.back name).stays ((agrees.present name).symm ▸ old)
  refine ⟨end_, ran, replays.orderly, replays.again, replays.forged, replays.reforged, ?_, present,
    repeats.tables.perm agrees.tables, repeats.reports.perm agrees.reports, ?_, ?_⟩
  · intro name regular
    have same := agrees.functions name regular
    refine replays.orderly.function?_eq plain unambiguous replays.again (present name) ?_ ?_
    · intro filled
      rcases (repeats.functions name).same regular filled with old | ⟨_, equal⟩
      · rw [(repeats.back name).kept regular (same.symm ▸ old), same,
          (repeats.functions name).kept regular old]
      · exact equal
    · intro filled
      rcases (repeats.back name).same regular filled with old | ⟨_, equal⟩
      · rw [(repeats.back name).kept regular old, same,
          (repeats.functions name).kept regular (same ▸ old)]
      · exact equal.symm
  · rw [repeats.called, repeats.named, agrees.named]
  · rw [replays.there, replays.here, agrees.cursor]

/-- Two steps may change places. -/
theorem swap {start : Pass} (orderly : job.Orderly start.names start.builder.module)
    (forged : job.AllForged start.builder.module) {first second : PassM Unit}
    (repeatable : job.Repeatable first) (again : job.Repeatable second) {between after : Pass}
    (done : first start = .ok () between) (ran : second between = .ok () after) :
    ∃ middle end_, second start = .ok () middle ∧ first middle = .ok () end_ ∧
      job.Agrees after end_ := by
  have own := advance orderly forged repeatable done
  -- The second step does the same without the first one, and the first one does so after it.
  have answered := (again between start between.builder.cursor start.builder.cursor).answers
    between start ⟨own.orderly, orderly, own.forged, forged, .refl between start, rfl, rfl⟩
  rw [ran] at answered
  obtain ⟨name, regular, _, free, taken⟩ | ⟨_, middle, early, _, later⟩ := answered
  · exact (free ((own.repeats.functions name).kept regular taken ▸ taken)).elim
  have answered := (repeatable start middle start.builder.cursor middle.builder.cursor).answers
    start middle ⟨orderly, later.again, forged, later.reforged, .refl start middle, rfl, rfl⟩
  rw [done] at answered
  obtain ⟨name, regular, filled, free, taken⟩ | ⟨_, end_, late, _, sooner⟩ := answered
  · rcases (later.repeats.back name).same regular taken with old | ⟨clear, _⟩
    · exact (free old).elim
    · exact (clear filled).elim
  have left := later.repeats
  have right := sooner.repeats
  have present (name : String) := (left.functions name).swap_isSome (left.back name)
    (right.functions name) (right.back name)
  refine ⟨middle, end_, early, late, later.orderly, sooner.again, later.forged, sooner.reforged,
    fun name regular => ?_, present, right.tables.swap left.tables, right.reports.swap left.reports,
    ?_, ?_⟩
  · exact later.orderly.function?_eq plain unambiguous sooner.again (present name)
      ((left.functions name).swap_filled (left.back name) (right.functions name) (right.back name)
        regular)
      ((left.functions name).swap_back (left.back name) (right.functions name) (right.back name)
        regular)
  · rw [right.called, left.called, left.named, right.named]
  · rw [sooner.there, later.there, later.here, own.here]

section Lists

variable {work : DeclId → PassM Unit} (repeatable : ∀ id, job.Repeatable (work id))

include repeatable

/-- Declarations that are lowered in another order get to the same place. -/
theorem perm {items others : List DeclId} (order : items.Perm others) {pass other after : Pass}
    (agrees : job.Agrees pass other) (done : items.forM work pass = .ok () after) :
    ∃ end_, others.forM work other = .ok () end_ ∧ job.Agrees after end_ := by
  induction order generalizing pass other after with
  | nil =>
    obtain ⟨_, rfl⟩ := (run_pure _ _ _ _).mp done
    exact ⟨other, rfl, agrees⟩
  | cons item _ rest_ih =>
    obtain ⟨_, between, first, rest⟩ := (run_bind _ _ _ _ _).mp done
    obtain ⟨middle, ran, agreed⟩ := agrees.step plain unambiguous (repeatable item) first
    obtain ⟨end_, finished, settled⟩ := rest_ih agreed rest
    exact ⟨end_, (run_bind _ _ _ _ _).mpr ⟨(), middle, ran, finished⟩, settled⟩
  | swap second first rest =>
    obtain ⟨_, between, ran, done⟩ := (run_bind _ _ _ _ _).mp done
    obtain ⟨_, late, again, done⟩ := (run_bind _ _ _ _ _).mp done
    obtain ⟨middle, last, early, later, agreed⟩ := swap plain unambiguous agrees.orderly
      agrees.forged (repeatable _) (repeatable _) ran again
    obtain ⟨start, started, same⟩ := agrees.step plain unambiguous (repeatable _) early
    obtain ⟨next, followed, alike⟩ := same.step plain unambiguous (repeatable _) later
    have remaining : job.Repeatable (rest.forM work) := fun base peer cursor last =>
      .forM rest fun item _ => repeatable item base peer cursor last
    obtain ⟨end_, finished, settled⟩ :=
      (agreed.trans alike).step plain unambiguous remaining done
    exact ⟨end_, (run_bind _ _ _ _ _).mpr ⟨(), start, started,
      (run_bind _ _ _ _ _).mpr ⟨(), next, followed, finished⟩⟩, settled⟩
  | trans _ _ first_ih rest_ih =>
    obtain ⟨middle, ran, agreed⟩ := first_ih (refl agrees.orderly agrees.forged) done
    obtain ⟨end_, finished, settled⟩ := rest_ih agrees ran
    exact ⟨end_, finished, agreed.trans settled⟩

end Lists

end Agrees

end Job

end Lowering
