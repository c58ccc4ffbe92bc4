import Lowering.Program.GenericEnv

/-
This file composes substitutions of generic parameters: one after the other they are a single one,
and one that puts in none of its own parameters has no effect where it has been made already.
-/

namespace Lowering

namespace Ty

mutual

/-- These are the parameters that a type mentions, at whatever depth. -/
def genericParams : Ty → List DeclId
  | .genericParam nominal => [nominal.decl]
  | .union members => genericParamsAll members
  | .function params result => genericParamsAll params ++ genericParams result
  | .inout base => genericParams base
  | .unit | .nothing | .error | .primitive _ | .product _ | .existential _ => []

def genericParamsAll : List Ty → List DeclId
  | [] => []
  | ty :: rest => genericParams ty ++ genericParamsAll rest

end

end Ty

namespace GenericEnv

/-- The substitutions of one environment, with their types seen in another, before those of the
other. -/
def substitutionsThen (first second : GenericEnv) : List (DeclId × Ty) :=
  first.substitutions.map (fun (param, ty) => (param, ty.contextualized second)) ++
    second.substitutions

/-- What the first environment knows of a parameter hides what the second one does. -/
theorem substitution?_then (params : List DeclId) (first second : GenericEnv) (param : DeclId) :
    substitution? ⟨params, first.substitutionsThen second⟩ param =
      ((first.substitution? param).map (Ty.contextualized second)).or
        (second.substitution? param) := by
  obtain ⟨own, substitutions⟩ := first
  unfold substitutionsThen substitution?
  induction substitutions with
  | nil => rfl
  | cons entry rest rest_ih =>
    obtain ⟨other, ty⟩ := entry
    cases same : param == other with
    | true => simp [List.lookup_cons, same]
    | false => simpa [List.lookup_cons, same] using rest_ih

/-- No type that counts for one of the parameters mentions another parameter that is known. -/
def IsClosed (env : GenericEnv) : Prop :=
  ∀ param ty, env.substitution? param = some ty →
    ∀ mentioned ∈ ty.genericParams, env.substitution? mentioned = none

end GenericEnv

namespace Ty

variable {first second : GenericEnv}

mutual

/-- A type only depends on what is known of the parameters that it mentions. -/
theorem contextualized_congr (ty : Ty)
    (same : ∀ param ∈ ty.genericParams, first.substitution? param = second.substitution? param) :
    ty.contextualized first = ty.contextualized second := by
  cases ty with
  | genericParam nominal =>
    rw [contextualized, contextualized, same nominal.decl (List.mem_singleton_self _)]
  | union members =>
    rw [contextualized, contextualized, contextualizedAll_congr members same]
  | function params result =>
    rw [contextualized, contextualized,
      contextualizedAll_congr params fun param inside => same param (List.mem_append_left _ inside),
      contextualized_congr result fun param inside => same param (List.mem_append_right _ inside)]
  | inout base => rw [contextualized, contextualized, contextualized_congr base same]
  | _ => rfl

theorem contextualizedAll_congr (types : List Ty)
    (same : ∀ param ∈ genericParamsAll types,
      first.substitution? param = second.substitution? param) :
    contextualizedAll first types = contextualizedAll second types := by
  cases types with
  | nil => rfl
  | cons ty rest =>
    rw [contextualizedAll, contextualizedAll,
      contextualized_congr ty fun param inside => same param (List.mem_append_left _ inside),
      contextualizedAll_congr rest fun param inside => same param (List.mem_append_right _ inside)]

end

mutual

@[simp]
theorem contextualized_empty (ty : Ty) : ty.contextualized .empty = ty := by
  cases ty with
  | union members => rw [contextualized, contextualizedAll_empty members]
  | function params result =>
    rw [contextualized, contextualizedAll_empty params, contextualized_empty result]
  | inout base => rw [contextualized, contextualized_empty base]
  | _ => rfl

@[simp]
theorem contextualizedAll_empty (types : List Ty) : contextualizedAll .empty types = types := by
  cases types with
  | nil => rfl
  | cons ty rest => rw [contextualizedAll, contextualized_empty ty, contextualizedAll_empty rest]

end

theorem contextualized_of_unknown (ty : Ty)
    (unknown : ∀ param ∈ ty.genericParams, first.substitution? param = none) :
    ty.contextualized first = ty :=
  (contextualized_congr ty unknown).trans ty.contextualized_empty

mutual

/-- What replaces a parameter is seen in the second environment, as the composition has it. -/
theorem contextualized_then (params : List DeclId) (ty : Ty) :
    (ty.contextualized first).contextualized second =
      ty.contextualized ⟨params, first.substitutionsThen second⟩ := by
  cases ty with
  | genericParam nominal =>
    simp only [contextualized, GenericEnv.substitution?_then]
    cases first.substitution? nominal.decl with
    | none => rfl
    | some given => rfl
  | union members => simp only [contextualized, contextualizedAll_then params members]
  | function types result =>
    simp only [contextualized, contextualizedAll_then params types,
      contextualized_then params result]
  | inout base => simp only [contextualized, contextualized_then params base]
  | _ => rfl

theorem contextualizedAll_then (params : List DeclId) (types : List Ty) :
    contextualizedAll second (contextualizedAll first types) =
      contextualizedAll ⟨params, first.substitutionsThen second⟩ types := by
  cases types with
  | nil => rfl
  | cons ty rest =>
    simp only [contextualizedAll, contextualized_then params ty, contextualizedAll_then params rest]

end

/-- A closed environment puts in nothing that it would replace when it is used again. -/
theorem contextualized_again (closed : first.IsClosed) (ty : Ty) :
    (ty.contextualized first).contextualized first = ty.contextualized first := by
  rw [contextualized_then first.params]
  refine contextualized_congr ty fun param _ => ?_
  rw [GenericEnv.substitution?_then]
  cases known : first.substitution? param with
  | none => rfl
  | some given =>
    exact congrArg some (contextualized_of_unknown given (closed param given known))

/--
To see a type in two environments is to see it once in both of them together, and to see it twice
in a closed environment is to see it once.
-/
theorem contextualized_composes (ty : Ty) (first second : GenericEnv) :
    (∀ params, (ty.contextualized first).contextualized second =
      ty.contextualized ⟨params, first.substitutionsThen second⟩) ∧
    (first.IsClosed → (ty.contextualized first).contextualized first = ty.contextualized first) :=
  ⟨fun params => contextualized_then params ty, fun closed => contextualized_again closed ty⟩

end Ty

section Repeated

def paramT : Ty := .genericParam ⟨⟨7⟩, "T"⟩

def paramU : Ty := .genericParam ⟨⟨8⟩, "U"⟩

/-- The second entry for the same parameter is never put in, so it does not open the environment. -/
def unionEnv : GenericEnv := ⟨[], [(⟨7⟩, .union [paramU, .int]), (⟨7⟩, paramT)]⟩

def boolEnv : GenericEnv := ⟨[], [(⟨8⟩, .bool), (⟨8⟩, .string)]⟩

theorem unionEnv_closed : unionEnv.IsClosed := by
  intro param ty known mentioned inside
  by_cases first : param = ⟨7⟩
  · subst first
    obtain rfl : Ty.union [paramU, .int] = ty := Option.some.inj known
    obtain rfl := List.mem_singleton.mp inside
    rfl
  · have unequal : (param == ⟨7⟩) = false := beq_eq_false_iff_ne.mpr first
    simp [GenericEnv.substitution?, unionEnv, List.lookup_cons, unequal] at known

theorem Ty.contextualized_composes_repeated :
    (((Ty.function [paramT] paramU).contextualized unionEnv).contextualized boolEnv =
        .function [.union [.bool, .int]] .bool ∧
      (Ty.function [paramT] paramU).contextualized
          ⟨[], unionEnv.substitutionsThen boolEnv⟩ = .function [.union [.bool, .int]] .bool) ∧
    unionEnv.IsClosed ∧
    ((Ty.function [paramT] paramU).contextualized unionEnv).contextualized unionEnv =
      .function [.union [paramU, .int]] paramU := by
  obtain ⟨together, again⟩ :=
    Ty.contextualized_composes (.function [paramT] paramU) unionEnv boolEnv
  exact ⟨⟨rfl, (together []).symm⟩, unionEnv_closed, again unionEnv_closed⟩

end Repeated

end Lowering
