/-
This file holds the types of a checked program and their text.
-/

namespace Lowering

/--
A declaration is identified by its place in the program, never by its name. The place is stored in
32 bits, and no program is taken to have more declarations than these can tell apart.
-/
structure DeclId where
  index : Nat
deriving DecidableEq, Repr, Inhabited

def DeclId.text (id : DeclId) : String := s!"#{id.index}"

/-- A reference to a declaration that names a type. -/
structure Nominal where
  decl : DeclId
  name : String
deriving DecidableEq, Repr, Inhabited

/-- The types that need no declaration. -/
inductive Primitive where
  | int
  | double
  | bool
  | string
deriving DecidableEq, Repr, Inhabited

/-- A fully resolved type. -/
inductive Ty where
  /-- The type of an expression that yields no value. -/
  | unit
  /-- The type of an expression that never returns. -/
  | nothing
  /-- The type of something that failed to check. -/
  | error
  | primitive (kind : Primitive)
  /-- A record with value semantics. -/
  | product (nominal : Nominal)
  /-- A container for a value that conforms to every one of the views. -/
  | existential (views : List Nominal)
  | genericParam (nominal : Nominal)
  | union (members : List Ty)
  | function (params : List Ty) (result : Ty)
  /-- A borrowed location, as an inout parameter takes it. -/
  | inout (base : Ty)
deriving Inhabited, Repr

namespace Ty

mutual

def decEq : (left right : Ty) → Decidable (left = right)
  | .unit, right => by
    cases right
    case unit => exact isTrue rfl
    all_goals exact isFalse nofun
  | .nothing, right => by
    cases right
    case nothing => exact isTrue rfl
    all_goals exact isFalse nofun
  | .error, right => by
    cases right
    case error => exact isTrue rfl
    all_goals exact isFalse nofun
  | .primitive left, right => by
    cases right
    case primitive right => exact decidable_of_iff (left = right) (by simp)
    all_goals exact isFalse nofun
  | .product left, right => by
    cases right
    case product right => exact decidable_of_iff (left = right) (by simp)
    all_goals exact isFalse nofun
  | .existential left, right => by
    cases right
    case existential right => exact decidable_of_iff (left = right) (by simp)
    all_goals exact isFalse nofun
  | .genericParam left, right => by
    cases right
    case genericParam right => exact decidable_of_iff (left = right) (by simp)
    all_goals exact isFalse nofun
  | .union left, right => by
    cases right
    case union right => exact @decidable_of_iff _ (left = right) (by simp) (decEqList left right)
    all_goals exact isFalse nofun
  | .function params result, right => by
    cases right
    case function otherParams otherResult =>
      have : Decidable (params = otherParams) := decEqList params otherParams
      have : Decidable (result = otherResult) := decEq result otherResult
      exact decidable_of_iff (params = otherParams ∧ result = otherResult) (by simp)
    all_goals exact isFalse nofun
  | .inout left, right => by
    cases right
    case inout right => exact @decidable_of_iff _ (left = right) (by simp) (decEq left right)
    all_goals exact isFalse nofun

def decEqList : (left right : List Ty) → Decidable (left = right)
  | [], [] => isTrue rfl
  | [], _ :: _ => isFalse nofun
  | _ :: _, [] => isFalse nofun
  | left :: lefts, right :: rights =>
    have : Decidable (left = right) := decEq left right
    have : Decidable (lefts = rights) := decEqList lefts rights
    decidable_of_iff (left = right ∧ lefts = rights) (by simp)

end

end Ty

instance : DecidableEq Ty := Ty.decEq

def Primitive.text : Primitive → String
  | .int => "Int"
  | .double => "Double"
  | .bool => "Bool"
  | .string => "String"

/-- The parameter and result types of a function. -/
structure FunType where
  params : List Ty
  result : Ty
deriving DecidableEq, Repr, Inhabited

namespace Ty

def int : Ty := .primitive .int

def double : Ty := .primitive .double

def bool : Ty := .primitive .bool

def string : Ty := .primitive .string

/-- A value of such a type lives in a container, because its layout is not known. -/
def isExistential : Ty → Bool
  | .existential _ | .genericParam _ => true
  | _ => false

def isUnion : Ty → Bool
  | .union _ => true
  | _ => false

/-- The error type may be borrowed. -/
def isError : Ty → Bool
  | .error => true
  | .inout base => base.isError
  | _ => false

/-- The type without its outermost inout. -/
def base : Ty → Ty
  | .inout base => base
  | other => other

def asFunction? : Ty → Option FunType
  | .function params result => some ⟨params, result⟩
  | _ => none

mutual

def text : Ty → String
  | .unit => "Unit"
  | .nothing => "Nothing"
  | .error => "<error>"
  | .primitive kind => kind.text
  | .product nominal => nominal.name
  | .existential [] => "Any"
  | .existential (view :: views) => " & ".intercalate ((view :: views).map Nominal.name)
  | .genericParam nominal => nominal.name
  | .union members => " | ".intercalate (texts members)
  | .function params result => "(" ++ ", ".intercalate (texts params) ++ ") -> " ++ text result
  | .inout base => "inout " ++ text base

def texts : List Ty → List String
  | [] => []
  | ty :: rest => text ty :: texts rest

end

end Ty

namespace FunType

def toTy (funType : FunType) : Ty := .function funType.params funType.result

def text (funType : FunType) : String := funType.toTy.text

end FunType

end Lowering
