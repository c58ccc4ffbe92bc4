import Lowering.Json.Decoder
import Lowering.Proofs.Json.Reading

/-
This file shows how a decoder gives back what was written, one rule for each way to write.
-/

namespace Lowering

namespace Json

theorem depth_le_depthOfItems {item : Json} {items : List Json} (within : item ∈ items) :
    item.depth ≤ depthOfItems items := by
  induction within with
  | head => exact Nat.le_max_left _ _
  | tail _ _ inner => exact Nat.le_trans inner (Nat.le_max_right _ _)

theorem depth_le_depthOfMembers {member : Option String × Json}
    {members : List (Option String × Json)} (within : member ∈ members) :
    member.2.depth ≤ depthOfMembers members := by
  induction within with
  | head => exact Nat.le_max_left _ _
  | tail _ _ inner => exact Nat.le_trans inner (Nat.le_max_right _ _)

theorem legible_record {members : List (String × Json)}
    (legible : ∀ member ∈ members, member.2.Legible) : (record members).Legible := by
  refine (legibleMembers_iff _).mpr fun member within => ?_
  obtain ⟨source, inside, rfl⟩ := List.mem_map.mp within
  exact ⟨rfl, legible source inside⟩

theorem depth_lt_record {member : String × Json} {members : List (String × Json)}
    (within : member ∈ members) : member.2.depth < (record members).depth :=
  Nat.lt_succ_of_le (depth_le_depthOfMembers
    (List.mem_map_of_mem (f := fun member => (some member.1, member.2)) within))

theorem legible_variant {name : String} {content : Json} (legible : content.Legible) :
    (variant name content).Legible :=
  legible_record (by simpa using legible)

theorem depth_variant (name : String) (content : Json) :
    (variant name content).depth = content.depth + 1 := by
  simp [variant, record, depth, depthOfMembers]

/-- A list that is written by a recursion of its own is written item by item. -/
theorem array_eq_list {A : Type} {write : A → Json} {writeAll : List A → List Json}
    (nil : writeAll [] = [])
    (cons : ∀ value rest, writeAll (value :: rest) = write value :: writeAll rest)
    (values : List A) : array (writeAll values) = list write values := by
  have same : writeAll values = values.map write := by
    induction values with
    | nil => exact nil
    | cons value rest rest_ih => rw [cons, rest_ih, List.map_cons]
  rw [same, list]

theorem depth_array (items : List Json) : (array items).depth = depthOfItems items + 1 := rfl

/-- A record is one level deeper than its deepest member. -/
theorem depth_record_cons (member : String × Json) (members : List (String × Json)) :
    (record (member :: members)).depth = max (member.2.depth + 1) (record members).depth := by
  simp only [record, List.map_cons, depth, depthOfMembers]
  omega

end Json

namespace Decoder

variable {A B : Type}

/-- A decoder gives a value back from what is written for it, as far as the levels reach. -/
structure Recovers (decoder : Decoder A) (json : Json) (value : A) : Prop where
  legible : json.Legible
  decodes : ∀ allowance, json.depth ≤ allowance.levels → decoder allowance json = some value

theorem enter?_of_le {depth : Nat} {allowance : Allowance} (room : depth + 1 ≤ allowance.levels) :
    ∃ inner, allowance.enter? = some inner ∧ depth ≤ inner.levels := by
  obtain ⟨levels, positional⟩ := allowance
  cases levels with
  | zero => cases room
  | succ levels => exact ⟨_, rfl, Nat.le_of_succ_le_succ room⟩

section Plain

theorem recovers_bool (value : Bool) : bool.Recovers (.bool value) value where
  legible := trivial
  decodes _ _ := rfl

theorem recovers_string (value : String) : string.Recovers (.text value) value where
  legible := rfl
  decodes _ _ := rfl

theorem recovers_natural32 {value : Nat} (fits : value < UInt32.size) :
    natural32.Recovers (.natural value) value where
  legible := by
    have size : UInt32.size = 4294967296 := rfl
    have least : Int64.minValue.toInt = -9223372036854775808 := rfl
    have size' : UInt64.size = 18446744073709551616 := rfl
    constructor <;> omega
  decodes _ _ := by
    have within : 0 ≤ (value : Int) ∧ (value : Int) < UInt32.size := by omega
    simp only [natural32, Json.natural, if_pos within, Int.toNat_natCast]

theorem recovers_unsigned32 (value : UInt32) :
    unsigned32.Recovers (.natural value.toNat) value where
  legible := (recovers_natural32 value.toNat_lt_size).legible
  decodes allowance room := by
    simp [unsigned32, map, (recovers_natural32 value.toNat_lt_size).decodes allowance room]

theorem recovers_signed64 (value : Int64) : signed64.Recovers (.integer value.toInt) value where
  legible := ⟨value.minValue_le_toInt, Int.lt_trans value.toInt_lt (by decide)⟩
  decodes _ _ := by
    simp only [signed64, if_pos (And.intro value.minValue_le_toInt value.toInt_le),
      Int64.ofInt_toInt]

/-- A number that is given back from its text is read as a real one. -/
theorem read_number {value : Binary64} (finite : value.isFinite = true)
    (exact : binary64.readText (Json.number value).compact = some value) :
    Json.read (Json.writeReal (some value)) = some (.number value) := by
  have text : (Json.number value).compact = Json.numberStyle.text value := if_pos finite
  rw [readText, text] at exact
  rw [Json.writeReal, if_pos finite]
  obtain ⟨json, done, decoded⟩ := Option.bind_eq_some_iff.mp exact
  cases json with
  | integer => exact absurd done (Json.read_text_ne_integer _ _ _)
  | real => rw [done, Json.number, ← decoded]; rfl
  | _ => cases decoded

theorem recovers_binary64 {value : Binary64} (finite : value.isFinite = true)
    (exact : binary64.readText (Json.number value).compact = some value) :
    binary64.Recovers (.number value) value where
  legible := read_number finite exact
  decodes _ _ := rfl

end Plain

theorem Recovers.map {decoder : Decoder A} {json : Json} {value : A}
    (recovers : decoder.Recovers json value) (apply : A → B) :
    (Decoder.map apply decoder).Recovers json (apply value) where
  legible := recovers.legible
  decodes allowance room := by simp [Decoder.map, recovers.decodes allowance room]

section Collections

variable {decoder : Decoder A} {write : A → Json}

/-- An absent value is told from one that is present, which is not written as null. -/
theorem Recovers.optional {value : Option A}
    (recovers : ∀ present ∈ value,
      decoder.Recovers (write present) present ∧ write present ≠ .null) :
    (Decoder.optional decoder).Recovers (.optional write value) value := by
  cases value with
  | none => exact ⟨trivial, fun _ _ => rfl⟩
  | some value =>
    obtain ⟨recovers, present⟩ := recovers value rfl
    refine ⟨recovers.legible, fun allowance room => ?_⟩
    simp only [Json.optional] at room ⊢
    rw [Decoder.optional]
    · rw [recovers.decodes allowance room, Option.map_some]
    · exact present

theorem Recovers.list {values : List A}
    (recovers : ∀ value ∈ values, decoder.Recovers (write value) value) :
    (Decoder.list decoder).Recovers (.list write values) values where
  legible := by
    refine (Json.legibleItems_iff _).mpr fun item within => ?_
    obtain ⟨value, inside, rfl⟩ := List.mem_map.mp within
    exact (recovers value inside).legible
  decodes allowance room := by
    obtain ⟨inner, entered, deep⟩ := enter?_of_le room
    -- The induction is on a part of the list, and the levels are those of the whole.
    have each : ∀ part : List A, (∀ value ∈ part, value ∈ values) →
        (part.map write).mapM (decoder inner) = some part := by
      intro part within
      induction part with
      | nil => rfl
      | cons value rest rest_ih =>
        have inside := within value List.mem_cons_self
        have first := (recovers value inside).decodes inner
          (Nat.le_trans (Json.depth_le_depthOfItems (List.mem_map_of_mem inside)) deep)
        have later := rest_ih fun other among => within other (List.mem_cons_of_mem _ among)
        simp [first, later]
    simp only [Json.list, Decoder.list, entered]
    exact each values fun _ => id

theorem Recovers.pair {first : Decoder A} {second : Decoder B} {left right : Json} {one : A}
    {other : B} (first_recovers : first.Recovers left one)
    (second_recovers : second.Recovers right other) :
    (Decoder.pair first second).Recovers (.array [left, right]) (one, other) where
  legible := ⟨first_recovers.legible, second_recovers.legible, trivial⟩
  decodes allowance room := by
    obtain ⟨inner, entered, deep⟩ := enter?_of_le room
    simp only [Json.depthOfItems] at deep
    simp [Decoder.pair, entered, first_recovers.decodes inner (by omega),
      second_recovers.decodes inner (by omega)]

end Collections

/-- The levels that a value needs bound how often its decoder uses itself. -/
theorem recovers_recursive {step : Decoder A → Decoder A} {json : Json} {value : A}
    (recovers : ∀ count, json.depth < count → (iterate step count).Recovers json value) :
    (recursive step).Recovers json value where
  legible := (recovers _ (Nat.lt_succ_self _)).legible
  decodes allowance room := (recovers _ (Nat.lt_succ_of_le room)).decodes allowance room

section Records

/-- A field is at hand when it is present and its levels are left. -/
structure Fields.Holds (fields : Fields) (name : String) (json : Json) : Prop where
  found : fields.get? name = some json
  room : json.depth ≤ fields.allowance.levels

section Fields

variable {fields : Fields} {name : String} {json : Json}

theorem Fields.Holds.required {decoder : Decoder A} {value : A} (holds : fields.Holds name json)
    (recovers : decoder.Recovers json value) : fields.required name decoder = some value := by
  simp [Fields.required, holds.found, recovers.decodes _ holds.room]

theorem Fields.Holds.optional {decoder : Decoder A} {value : Option A}
    (holds : fields.Holds name json) (recovers : (Decoder.optional decoder).Recovers json value) :
    fields.optional name decoder = some value := by
  simp [Fields.optional, holds.found, recovers.decodes _ holds.room]

theorem Fields.Holds.withDefault {decoder : Decoder A} {value : A}
    (holds : fields.Holds name json) (recovers : decoder.Recovers json value) (default : A) :
    fields.withDefault name decoder default = some value := by
  simp [Fields.withDefault, holds.found, recovers.decodes _ holds.room]

end Fields

variable {names : List String} {members : List (String × Json)}

theorem lookup_of_mem {member : String × Json} (distinct : (members.map Prod.fst).Nodup)
    (within : member ∈ members) : members.lookup member.1 = some member.2 := by
  induction members with
  | nil => cases within
  | cons head rest rest_ih =>
    rw [List.map_cons, List.nodup_cons] at distinct
    obtain rfl | inside := List.mem_cons.mp within
    · rw [List.lookup_cons_self]
    · have other : member.1 ≠ head.1 := fun same =>
        distinct.1 (same ▸ List.mem_map_of_mem inside)
      rw [List.lookup_cons, beq_eq_false_iff_ne.mpr other]
      exact rest_ih distinct.2 inside

/-- A record has all of its names, and none of them twice. -/
theorem knownMembers_record (distinct : (members.map Prod.fst).Nodup)
    (known : ∀ member ∈ members, member.1 ∈ names) :
    knownMembers names (members.map fun member => (some member.1, member.2)) = some members := by
  induction members with
  | nil => rfl
  | cons member rest rest_ih =>
    rw [List.map_cons, List.nodup_cons] at distinct
    have later := rest_ih distinct.2 fun other among => known other (List.mem_cons_of_mem _ among)
    have first : rest.lookup member.1 = none := by
      rw [List.lookup_eq_none_iff]
      intro other among
      exact bne_iff_ne.mpr fun same => distinct.1 (same ▸ List.mem_map_of_mem among)
    simp [knownMembers, later, first, known member List.mem_cons_self]

theorem namedFields_record (named : members.map Prod.fst = names) (distinct : names.Nodup)
    {allowance : Allowance} (room : (Json.record members).depth ≤ allowance.levels) :
    ∃ fields, namedFields names allowance (.record members) = some fields ∧
      ∀ member ∈ members, fields.Holds member.1 member.2 := by
  subst named
  obtain ⟨inner, entered, deep⟩ := enter?_of_le room
  refine ⟨⟨inner, members⟩, ?_, fun member within => ⟨lookup_of_mem distinct within, ?_⟩⟩
  · have known := knownMembers_record distinct fun member within =>
      List.mem_map_of_mem (f := Prod.fst) within
    have whole : Json.record members =
        .object (members.map fun member => (some member.1, member.2)) := rfl
    simp only [namedFields, whole, entered, known]
    rfl
  · exact Nat.le_trans (Nat.le_of_lt_succ (Json.depth_lt_record within)) deep

/-- A record is decoded as soon as the decoder can finish with its fields at hand. -/
theorem recovers_record {finish : Fields → Option A} {value : A}
    (named : members.map Prod.fst = names) (distinct : names.Nodup)
    (legible : ∀ member ∈ members, member.2.Legible)
    (finishes : ∀ fields : Fields, (∀ member ∈ members, fields.Holds member.1 member.2) →
      finish fields = some value) :
    Recovers (fun allowance json => fields names allowance json >>= finish) (.record members)
      value where
  legible := Json.legible_record legible
  decodes allowance room := by
    obtain ⟨fields, decoded, holds⟩ := namedFields_record named distinct room
    have same : Decoder.fields names allowance (.record members) = some fields := decoded
    simpa [same] using finishes fields holds

end Records

section Variants

variable {select : Variant → Option A} {name : String} {value : A}

theorem recovers_constant
    (selects : ∀ allowance, select ⟨name, none, allowance⟩ = some value) :
    Recovers (fun allowance json => variant allowance json >>= select) (.constant name)
      value where
  legible := rfl
  decodes allowance _ := selects allowance

theorem recovers_variant {content : Json} (legible : content.Legible)
    (selects : ∀ inner : Allowance, content.depth ≤ inner.levels →
      select ⟨name, some content, inner⟩ = some value) :
    Recovers (fun allowance json => variant allowance json >>= select) (.variant name content)
      value where
  legible := Json.legible_variant legible
  decodes allowance room := by
    rw [Json.depth_variant] at room
    obtain ⟨inner, entered, deep⟩ := enter?_of_le room
    have decoded : variant allowance (.variant name content) =
        some ⟨name, some content, inner⟩ := by
      simp only [variant, Json.variant, Json.record, List.map_cons, List.map_nil, entered]
      rfl
    simpa [decoded] using selects inner deep

/-- A variant with content is decoded by the decoder of its content. -/
theorem recovers_holding {decoder : Decoder A} {content : Json}
    (recovers : decoder.Recovers content value)
    (selects : ∀ inner, select ⟨name, some content, inner⟩ =
      Variant.holding ⟨name, some content, inner⟩ decoder) :
    Recovers (fun allowance json => variant allowance json >>= select) (.variant name content)
      value :=
  recovers_variant recovers.legible fun inner room => by
    rw [selects inner]
    exact recovers.decodes inner room

/-- A variant with named fields is decoded like a record. -/
theorem recovers_fields (names : List String) {members : List (String × Json)}
    {finish : Fields → Option A} (named : members.map Prod.fst = names) (distinct : names.Nodup)
    (legible : ∀ member ∈ members, member.2.Legible)
    (selects : ∀ inner, select ⟨name, some (.record members), inner⟩ =
      Variant.fields ⟨name, some (.record members), inner⟩ names >>= finish)
    (finishes : ∀ fields : Fields, (∀ member ∈ members, fields.Holds member.1 member.2) →
      finish fields = some value) :
    Recovers (fun allowance json => variant allowance json >>= select)
      (.variant name (.record members)) value :=
  recovers_variant (Json.legible_record legible) fun inner room => by
    obtain ⟨fields, decoded, holds⟩ := namedFields_record named distinct room
    have same : Decoder.fields names inner (.record members) = some fields := decoded
    have opened : Variant.fields ⟨name, some (.record members), inner⟩ names = some fields := by
      simp [Variant.fields, same, decoded]
    rw [selects, opened]
    exact finishes fields holds

end Variants

/-- A text gives back the value that was written, on one line or over several. -/
theorem Recovers.readText {decoder : Decoder A} {json : Json} {value : A}
    (recovers : decoder.Recovers json value) (shallow : json.depth ≤ Allowance.text.levels) :
    decoder.readText json.compact = some value ∧
      ∀ depth, decoder.readText (json.pretty depth) = some value := by
  have decoded := recovers.decodes Allowance.text shallow
  constructor
  · simp [Decoder.readText, Json.read_compact recovers.legible, decoded]
  · intro depth
    simp [Decoder.readText, Json.read_pretty recovers.legible, decoded]

end Decoder

end Lowering
