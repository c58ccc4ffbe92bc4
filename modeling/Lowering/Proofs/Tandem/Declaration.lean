import Lowering.Proofs.Pass.Kinship
import Lowering.Proofs.Tandem.Statement

/-
This file lowers declarations of two programs side by side, given what becomes of functions, of
thunks and of modules.
-/

namespace Lowering

open IR

variable {left right : Job} {coupling : Coupling Pass}
  (alike : left.program.Reorders right.program)

include alike

namespace Couples

section Conformance

variable (witness : ∀ implementation requirement, Couples coupling
  (left.emitWitness implementation requirement) (right.emitWitness implementation requirement))

include witness

theorem emitEntries (entries : List ConformanceEntry) :
    Couples coupling (left.emitEntries entries) (right.emitEntries entries) := by
  induction entries with
  | nil => exact .pure _
  | cons entry rest rest_ih =>
    refine .decl_bind alike entry.requirement fun decl peer _ _ same => ?_
    rw [same.routine?, same.akin.name]
    split
    · exact rest_ih
    · refine .bind (witness entry.implementation entry.requirement) fun thunk => ?_
      exact .bind rest_ih fun others => .pure _

theorem emitConformance (table : ∀ table, coupling.Builds (BuildM.addWitnessTable table))
    (ty : Ty) (conformance : Conformance) :
    Couples coupling (left.emitConformance ty conformance)
      (right.emitConformance ty conformance) := by
  unfold Job.emitConformance
  rw [alike.akin.nominal]
  refine .ask_bind _ fun view _ => ?_
  exact .bind (emitEntries alike witness conformance.entries) fun entries => table _

end Conformance

section Nested

variable {nested other : DeclId → PassM Unit}
  (below : ∀ id, Couples coupling (nested id) (other id))

include below

theorem emitMember (id : DeclId) :
    Couples coupling (left.emitMember nested id) (right.emitMember other id) := by
  refine .decl_bind alike id fun decl peer _ _ same => ?_
  cases same with
  | module => exact below id
  | same =>
    cases decl.kind with
    | binding binding =>
      dsimp only
      rw [Job.checkProperty_of_kindred alike.kindred]
      exact .check _
    | _ => exact below id

theorem emitProduct
    (conformance : ∀ ty conformance, Couples coupling (left.emitConformance ty conformance)
      (right.emitConformance ty conformance))
    (id : DeclId) (members : List DeclId) (conformances : List Conformance) :
    Couples coupling (left.emitProduct nested id members conformances)
      (right.emitProduct other id members conformances) := by
  unfold Job.emitProduct
  rw [alike.akin.declaredType]
  refine .ask_bind _ fun ty _ => ?_
  refine .bind (.forM _ fun stated _ => conformance ty stated) fun _ => ?_
  exact .forM _ fun member _ => emitMember alike below member

theorem emitLevel
    (routine : ∀ id, Couples coupling (left.emitRoutine nested id)
      (right.emitRoutine other id))
    (conformance : ∀ ty conformance, Couples coupling (left.emitConformance ty conformance)
      (right.emitConformance ty conformance))
    (modules : ∀ {id : DeclId} {decl peer : Decl} {members others : List DeclId},
      left.program.find? id = some decl → right.program.find? id = some peer →
      decl.kind = .module members → peer.kind = .module others → members.Perm others →
      Couples coupling (members.forM nested) (others.forM other))
    (id : DeclId) :
    Couples coupling (left.emitLevel nested id) (right.emitLevel other id) := by
  refine .decl_bind alike id fun decl peer found again same => ?_
  cases same with
  | module order => exact modules found again rfl rfl order
  | same =>
    cases kind : decl.kind with
    | module members => exact modules found again kind kind (.refl _)
    | function => exact routine id
    | product members conformances => exact emitProduct alike below conformance id members _
    | typeExtension extended members => exact .forM _ fun member _ => emitMember alike below member
    | view | abstractType => exact .pure _
    | «alias» aliased conformances =>
      dsimp only
      split
      · exact .abort _
      · exact .pure _
    | imported | binding | «variable» | parameter | genericParam => exact .abort _

end Nested

end Couples

end Lowering
