import Lowering.Binary64.Basic
import Lowering.Program.Ty

/-
This file holds what a stack location can contain. A container holds a value with its type, and the
value has an address inside the container.
-/

namespace Lowering

namespace IR

/-- An address leads from a location to a member or to what is in a container. -/
inductive Selector where
  | member (id : DeclId)
  | payload
deriving DecidableEq

/-- The address of a part of a location. -/
structure Address where
  cell : Nat
  path : List Selector
deriving DecidableEq

/-- The address of a part of what stands at an address. -/
def Address.select (address : Address) (selector : Selector) : Address :=
  ⟨address.cell, address.path ++ [selector]⟩

/-- Neither of two addresses leads into the other. -/
def Address.Apart (first second : Address) : Prop :=
  first.cell = second.cell → ¬ first.path <+: second.path ∧ ¬ second.path <+: first.path

/-- The values, a container with the type of what it holds being one of them. -/
inductive Content where
  /-- Nothing was ever stored. -/
  | undefined
  | unit
  | bool (value : Bool)
  | int (value : Int64)
  | float (value : Binary64)
  | string (value : String)
  | function (name : String)
  | builtin (name : String)
  | address (place : Address)
  | record (fields : DeclId → Content)
  | container (witness : Ty) (payload : Content)

namespace Content

/-- What a selector leads to. A record is undefined before its first member is stored. -/
def part? : Content → Selector → Option Content
  | record fields, .member id => some (fields id)
  | undefined, .member _ => some undefined
  | container _ payload, .payload => some payload
  | _, _ => none

/-- What stands at the end of a path. -/
def get? (content : Content) : List Selector → Option Content
  | [] => some content
  | selector :: rest => (content.part? selector).bind (·.get? rest)

/-- The content with another part, where it has one. -/
def setPart (part : Content) : Content → Selector → Content
  | record fields, .member id => record fun other => if other = id then part else fields other
  | undefined, .member id => record fun other => if other = id then part else undefined
  | container witness _, .payload => container witness part
  | content, _ => content

/-- The content with another one at the end of a path. -/
def set (value content : Content) : List Selector → Content
  | [] => value
  | selector :: rest =>
    match content.part? selector with
    | some part => setPart (set value part rest) content selector
    | none => content

/-- A value of existential type is a container, and a value of any other type is put into one. -/
def packed (content : Content) (ty : Ty) : Content :=
  if ty.isExistential then content else container ty content

theorem get?_append (content : Content) (first rest : List Selector) :
    content.get? (first ++ rest) = (content.get? first).bind (·.get? rest) := by
  induction first generalizing content with
  | nil => rfl
  | cons selector first first_ih =>
    simp only [List.cons_append, get?, Option.bind_assoc]
    congr 1
    funext part
    exact first_ih part

theorem get?_singleton (content : Content) (selector : Selector) :
    content.get? [selector] = content.part? selector := by
  cases found : content.part? selector <;> simp [get?, found]

theorem part?_setPart {content old : Content} {selector : Selector} (part : Content)
    (there : content.part? selector = some old) :
    (setPart part content selector).part? selector = some part := by
  cases content <;> cases selector <;> cases there <;> simp [setPart, part?]

theorem part?_setPart_of_ne {content old : Content} {selector other : Selector} (part : Content)
    (differ : other ≠ selector) (there : content.part? selector = some old) :
    (setPart part content selector).part? other = content.part? other := by
  cases content <;> cases selector <;> cases there <;> cases other <;> first
    | rfl
    | exact (differ rfl).elim
    | simp_all [setPart, part?]

/-- What is set can be read again, wherever there was something. -/
theorem get?_set {content old : Content} {path : List Selector} (value : Content)
    (there : content.get? path = some old) : (set value content path).get? path = some value := by
  induction path generalizing content with
  | nil => rfl
  | cons selector rest rest_ih =>
    obtain ⟨part, found, held⟩ := Option.bind_eq_some_iff.mp there
    simp only [set, found, get?, part?_setPart _ found, Option.bind_some]
    exact rest_ih held

/-- Nothing is changed but what the path leads to. -/
theorem get?_set_of_apart {content old : Content} {path other : List Selector} (value : Content)
    (there : content.get? path = some old) (apart : ¬ path <+: other ∧ ¬ other <+: path) :
    (set value content path).get? other = content.get? other := by
  induction path generalizing content other with
  | nil => exact (apart.1 (List.nil_prefix ..)).elim
  | cons selector rest rest_ih =>
    obtain ⟨part, found, held⟩ := Option.bind_eq_some_iff.mp there
    simp only [set, found]
    cases other with
    | nil => exact (apart.2 (List.nil_prefix ..)).elim
    | cons first other =>
      by_cases same : first = selector
      · subst same
        simp only [get?, part?_setPart _ found, found, Option.bind_some]
        exact rest_ih held ⟨fun leads => apart.1 ((List.prefix_cons_inj _).mpr leads),
          fun leads => apart.2 ((List.prefix_cons_inj _).mpr leads)⟩
      · simp only [get?, part?_setPart_of_ne _ same found]

theorem setPart_setPart {content old : Content} {selector : Selector} (first second : Content)
    (there : content.part? selector = some old) :
    setPart second (setPart first content selector) selector = setPart second content selector := by
  cases content <;> cases selector <;> cases there <;> simp +contextual [setPart]

/-- What is set inside of what was set before could have been set there at once. -/
theorem set_set_append {content old : Content} {path : List Selector} (first second : Content)
    (rest : List Selector) (there : content.get? path = some old) :
    set second (set first content path) (path ++ rest) = set (set second first rest) content path := by
  induction path generalizing content with
  | nil => rfl
  | cons selector path path_ih =>
    obtain ⟨part, found, held⟩ := Option.bind_eq_some_iff.mp there
    simp only [List.cons_append, set, found, part?_setPart _ found, setPart_setPart _ _ found,
      path_ih held]

end Content

end IR

end Lowering
