import Lowering.Proofs.Json.Recovery
import Lowering.Stored.Ty

/-
This file shows that types and spans are given back from their stored forms.
-/

namespace Lowering

/-- A number is storable when it is finite and its text reads back as the same number. -/
def Binary64.Storable (value : Binary64) : Prop :=
  value.isFinite = true ∧ Decoder.binary64.readText (Json.number value).compact = some value

/-- Identifiers are 32-bit words. -/
def DeclId.Storable (id : DeclId) : Prop := id.index < UInt32.size

def Nominal.Storable (nominal : Nominal) : Prop := nominal.decl.Storable

namespace Ty

mutual

def Storable : Ty → Prop
  | .unit | .nothing | .error | .primitive _ => True
  | .product nominal | .genericParam nominal => nominal.Storable
  | .existential views => ∀ view ∈ views, view.Storable
  | .union members => StorableAll members
  | .function params result => StorableAll params ∧ Storable result
  | .inout base => Storable base

def StorableAll : List Ty → Prop
  | [] => True
  | ty :: rest => Storable ty ∧ StorableAll rest

end

end Ty

def GenericEnv.Storable (env : GenericEnv) : Prop :=
  (∀ param ∈ env.params, param.Storable) ∧
    ∀ substitution ∈ env.substitutions, substitution.1.Storable ∧ substitution.2.Storable

open Decoder

theorem DeclId.recovers {id : DeclId} (storable : id.Storable) :
    DeclId.decoder.Recovers id.toJson id :=
  (recovers_natural32 storable).map DeclId.mk

theorem DeclId.toJson_ne_null (id : DeclId) : id.toJson ≠ .null := by rintro ⟨⟩

theorem Nominal.recovers {nominal : Nominal} (storable : nominal.Storable) :
    Nominal.decoder.Recovers nominal.toJson nominal := by
  have decl := DeclId.recovers storable
  have name := recovers_string nominal.name
  refine recovers_record rfl (by decide) (by simp [decl.legible, name.legible])
    fun fields holds => ?_
  simp only [List.forall_mem_cons] at holds
  simp [holds.1.required decl, holds.2.1.required name]

theorem Primitive.recovers (kind : Primitive) : Primitive.decoder.Recovers kind.toJson kind := by
  cases kind <;> exact recovers_constant fun _ => rfl

namespace Ty

theorem array_toJsonAll (types : List Ty) : Json.array (toJsonAll types) = .list toJson types :=
  Json.array_eq_list rfl (fun _ _ => rfl) types

theorem functionDecoder_recovers {decoder : Decoder Ty} {params : List Ty} {result : Ty}
    (params_recover : ∀ param ∈ params, decoder.Recovers param.toJson param)
    (result_recovers : decoder.Recovers result.toJson result) :
    (functionDecoder decoder).Recovers
      (.record [("params", .list toJson params), ("ret", result.toJson)])
      (.function params result) := by
  have list := Recovers.list params_recover
  refine recovers_record rfl (by decide) (by simp [list.legible, result_recovers.legible])
    fun fields holds => ?_
  simp only [List.forall_mem_cons] at holds
  simp [holds.1.required list, holds.2.1.required result_recovers]

mutual

/-- Whatever stands inside a type is a level further in, so a smaller count suffices for it. -/
theorem recovers_iterate : (ty : Ty) → ty.Storable → (count : Nat) → ty.toJson.depth < count →
    (iterate decoderStep count).Recovers ty.toJson ty
  | .unit, _, count + 1, _ => recovers_constant fun _ => rfl
  | .nothing, _, count + 1, _ => recovers_constant fun _ => rfl
  | .error, _, count + 1, _ => recovers_constant fun _ => rfl
  | .primitive kind, _, count + 1, _ =>
    recovers_holding (kind.recovers.map Ty.primitive) fun _ => rfl
  | .product nominal, storable, count + 1, _ =>
    recovers_holding ((Nominal.recovers storable).map Ty.product) fun _ => rfl
  | .genericParam nominal, storable, count + 1, _ =>
    recovers_holding ((Nominal.recovers storable).map Ty.genericParam) fun _ => rfl
  | .existential views, storable, count + 1, _ =>
    recovers_holding ((Recovers.list fun view within =>
      Nominal.recovers (storable view within)).map Ty.existential) fun _ => rfl
  | .union members, storable, count + 1, deep => by
    simp only [toJson, Json.depth_variant, Json.depth_array] at deep
    have members_recover := recovers_iterateAll members storable count (by omega)
    rw [toJson, array_toJsonAll]
    exact recovers_holding ((Recovers.list members_recover).map Ty.union) fun _ => rfl
  | .function params result, storable, count + 1, deep => by
    simp only [toJson, Json.depth_variant, Json.depth_record_cons, Json.depth_array] at deep
    have params_recover := recovers_iterateAll params storable.1 count (by omega)
    have result_recovers := recovers_iterate result storable.2 count (by omega)
    rw [toJson, array_toJsonAll]
    exact recovers_holding (functionDecoder_recovers params_recover result_recovers) fun _ => rfl
  | .inout base, storable, count + 1, deep => by
    simp only [toJson, Json.depth_variant] at deep
    exact recovers_holding ((recovers_iterate base storable count (by omega)).map Ty.inout)
      fun _ => rfl

theorem recovers_iterateAll : (types : List Ty) → StorableAll types → (count : Nat) →
    Json.depthOfItems (toJsonAll types) < count →
      ∀ ty ∈ types, (iterate decoderStep count).Recovers ty.toJson ty
  | [], _, _, _ => by simp
  | ty :: rest, storable, count, deep => by
    simp only [toJsonAll, Json.depthOfItems] at deep
    exact List.forall_mem_cons.mpr ⟨recovers_iterate ty storable.1 count (by omega),
      recovers_iterateAll rest storable.2 count (by omega)⟩

end

theorem recovers {ty : Ty} (storable : ty.Storable) : decoder.Recovers ty.toJson ty :=
  recovers_recursive (recovers_iterate ty storable)

end Ty

theorem GenericEnv.recovers {env : GenericEnv} (storable : env.Storable) :
    GenericEnv.decoder.Recovers env.toJson env := by
  have params := Recovers.list fun param within => DeclId.recovers (storable.1 param within)
  have substitutions : (Decoder.list (Decoder.pair DeclId.decoder Ty.decoder)).Recovers
      (.list (fun substitution => .array [substitution.1.toJson, substitution.2.toJson])
        env.substitutions) env.substitutions :=
    Recovers.list fun substitution within =>
      (DeclId.recovers (storable.2 substitution within).1).pair
        (Ty.recovers (storable.2 substitution within).2)
  refine recovers_record rfl (by decide) (by simp [params.legible, substitutions.legible])
    fun fields holds => ?_
  simp only [List.forall_mem_cons] at holds
  simp [holds.1.required params, holds.2.1.required substitutions]

theorem Position.recovers (position : Position) :
    Position.decoder.Recovers position.toJson position := by
  have file := recovers_string position.file
  have line := recovers_unsigned32 position.line
  have column := recovers_unsigned32 position.column
  refine recovers_record rfl (by decide) (by simp [file.legible, line.legible, column.legible])
    fun fields holds => ?_
  simp only [List.forall_mem_cons] at holds
  simp [holds.1.required file, holds.2.1.required line, holds.2.2.1.required column]

theorem Span.recovers (span : Span) : Span.decoder.Recovers span.toJson span := by
  have start := span.start.recovers
  have stop := span.stop.recovers
  refine recovers_record rfl (by decide) (by simp [start.legible, stop.legible])
    fun fields holds => ?_
  simp only [List.forall_mem_cons] at holds
  simp [holds.1.required start, holds.2.1.required stop]

end Lowering
