import Lowering.Program.Ty

/-
This file substitutes generic parameters in types.
-/

namespace Lowering

/--
A generic environment lists the parameters that a declaration introduces and what is known of
them. A parameter without a substitution stays opaque.
-/
structure GenericEnv where
  params : List DeclId
  substitutions : List (DeclId × Ty)
deriving DecidableEq, Repr, Inhabited

namespace GenericEnv

def empty : GenericEnv := ⟨[], []⟩

/-- The first substitution of a parameter counts. -/
def substitution? (env : GenericEnv) (param : DeclId) : Option Ty := env.substitutions.lookup param

end GenericEnv

namespace Ty

mutual

/-- Every generic parameter is replaced once; what replaces it is left as it is. -/
def contextualized (env : GenericEnv) : Ty → Ty
  | .genericParam nominal => (env.substitution? nominal.decl).getD (.genericParam nominal)
  | .union members => .union (contextualizedAll env members)
  | .function params result =>
    .function (contextualizedAll env params) (contextualized env result)
  | .inout base => .inout (contextualized env base)
  | .unit => .unit
  | .nothing => .nothing
  | .error => .error
  | .primitive kind => .primitive kind
  | .product nominal => .product nominal
  | .existential views => .existential views

def contextualizedAll (env : GenericEnv) : List Ty → List Ty
  | [] => []
  | ty :: rest => contextualized env ty :: contextualizedAll env rest

end

theorem contextualizedAll_eq_map (env : GenericEnv) (types : List Ty) :
    contextualizedAll env types = types.map (contextualized env) := by
  induction types with
  | nil => rfl
  | cons ty rest rest_ih => simp [contextualizedAll, rest_ih]

end Ty

end Lowering
