import Lowering.Json.Reader
import Lowering.Json.Writer

/-
This file decodes JSON values as records, variants and lists.
A decoder is given an allowance, which bounds how deep the arrays and objects that it enters
may nest. Values that it passes over are not counted.
-/

namespace Lowering

/-- An allowance says how many levels may still be entered and how a variant's fields may stand. -/
structure Allowance where
  levels : Nat
  /-- The named fields of a variant may also stand as an array in their order. -/
  positional : Bool
deriving DecidableEq, Repr

/-- A text nests at most this many levels. -/
def Allowance.text : Allowance := ⟨127, true⟩

/-- A value inside a request nests as it likes, and names the fields of its variants. -/
def Allowance.request (json : Json) : Allowance := ⟨json.depth, false⟩

/-- Entering an array or an object takes one level. -/
def Allowance.enter? (allowance : Allowance) : Option Allowance :=
  match allowance.levels with
  | 0 => none
  | levels + 1 => some { allowance with levels := levels }

/-- A decoder accepts some of the values within its allowance. -/
def Decoder (A : Type) := Allowance → Json → Option A

namespace Decoder

variable {A B : Type}

/-- These decoders make up a recursive one: the last of them accepts nothing. -/
def iterate (step : Decoder A → Decoder A) : Nat → Decoder A
  | 0 => fun _ _ => none
  | count + 1 => step (iterate step count)

/-- A recursive decoder enters a level between two uses of itself, so its levels bound its depth. -/
def recursive (step : Decoder A → Decoder A) : Decoder A := fun allowance =>
  iterate step (allowance.levels + 1) allowance

def map (apply : A → B) (decoder : Decoder A) : Decoder B := fun allowance json =>
  (decoder allowance json).map apply

def bool : Decoder Bool
  | _, .bool value => some value
  | _, _ => none

def string : Decoder String
  | _, .string value => value
  | _, _ => none

/-- An identifier is a 32-bit natural. -/
def natural32 : Decoder Nat
  | _, .integer value => if 0 ≤ value ∧ value < UInt32.size then some value.toNat else none
  | _, _ => none

def unsigned32 : Decoder UInt32 := map UInt32.ofNat natural32

def signed64 : Decoder Int64
  | _, .integer value =>
    if Int64.minValue.toInt ≤ value ∧ value ≤ Int64.maxValue.toInt then some (Int64.ofInt value)
    else none
  | _, _ => none

/-- An integer is accepted where a number is expected. -/
def binary64 : Decoder Binary64
  | _, .integer value => some (Binary64.ofInt value)
  | _, .real value => value
  | _, _ => none

/-- A null stands for an absent value. -/
def optional (decoder : Decoder A) : Decoder (Option A)
  | _, .null => some none
  | allowance, json => (decoder allowance json).map some

def list (decoder : Decoder A) : Decoder (List A)
  | allowance, .array items => do
    let inner ← allowance.enter?
    items.mapM (decoder inner)
  | _, _ => none

def pair (first : Decoder A) (second : Decoder B) : Decoder (A × B)
  | allowance, .array [left, right] => do
    let inner ← allowance.enter?
    return (← first inner left, ← second inner right)
  | _, _ => none

/-- The fields of a record that are present, with the allowance for their values. -/
structure Fields where
  allowance : Allowance
  present : List (String × Json)

def Fields.get? (fields : Fields) (name : String) : Option Json := fields.present.lookup name

def Fields.required (fields : Fields) (name : String) (decoder : Decoder A) : Option A := do
  decoder fields.allowance (← fields.get? name)

/-- A missing field stands for an absent value. -/
def Fields.optional (fields : Fields) (name : String) (decoder : Decoder A) : Option (Option A) :=
  match fields.get? name with
  | some json => Decoder.optional decoder fields.allowance json
  | none => some none

/-- A missing field stands for its default. -/
def Fields.withDefault (fields : Fields) (name : String) (decoder : Decoder A) (default : A) :
    Option A :=
  match fields.get? name with
  | some json => decoder fields.allowance json
  | none => some default

/-- This keeps the known members, of which none may be repeated; every key must have a value. -/
def knownMembers (names : List String) : List (Option String × Json) → Option (List (String × Json))
  | [] => some []
  | (none, _) :: _ => none
  | (some name, value) :: rest => do
    let known ← knownMembers names rest
    if name ∈ names then
      if (known.lookup name).isSome then none else some ((name, value) :: known)
    else some known

/-- The named fields of an object. -/
def namedFields (names : List String) (allowance : Allowance) : Json → Option Fields
  | .object members => do
    let inner ← allowance.enter?
    return ⟨inner, ← knownMembers names members⟩
  | _ => none

/-- The fields of a record, as an object or as an array that holds them all in order. -/
def fields (names : List String) (allowance : Allowance) : Json → Option Fields
  | .array items => do
    let inner ← allowance.enter?
    if items.length = names.length then some ⟨inner, names.zip items⟩ else none
  | json => namedFields names allowance json

/-- The fields of a record whose last ones may be left out of an array. -/
def leadingFields (names : List String) (allowance : Allowance) : Json → Option Fields
  | .array items => do
    let inner ← allowance.enter?
    if items.length ≤ names.length then some ⟨inner, names.zip items⟩ else none
  | json => namedFields names allowance json

/-- A variant is its name alone, or the only member of an object. -/
structure Variant where
  name : String
  content : Option Json
  allowance : Allowance

def variant (allowance : Allowance) : Json → Option Variant
  | .string (some name) => some ⟨name, none, allowance⟩
  | .object [(some name, content)] => do
    let inner ← allowance.enter?
    return ⟨name, some content, inner⟩
  | _ => none

/-- A variant without content may also hold a null. -/
def Variant.constant (variant : Variant) (value : A) : Option A :=
  match variant.content with
  | none | some .null => some value
  | some _ => none

def Variant.holding (variant : Variant) (decoder : Decoder A) : Option A := do
  decoder variant.allowance (← variant.content)

/-- The fields of a variant stand in an object, and in an array only where that is allowed. -/
def Variant.fields (variant : Variant) (names : List String) : Option Fields := do
  let content ← variant.content
  if variant.allowance.positional then Decoder.fields names variant.allowance content
  else namedFields names variant.allowance content

end Decoder

namespace Json

/-- A constant variant is written as its name. -/
def constant (name : String) : Json := text name

/-- A variant with content is written as the only member of an object. -/
def variant (name : String) (content : Json) : Json := record [(name, content)]

end Json

/-- This decodes a whole text. -/
def Decoder.readText {A : Type} (decoder : Decoder A) (text : String) : Option A := do
  decoder Allowance.text (← Json.read text)

end Lowering
