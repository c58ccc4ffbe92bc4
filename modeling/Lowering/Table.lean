/-
This file holds finite maps as lists of pairs with distinct keys.
-/

namespace Lowering

/-- A table holds at most one value for a key. -/
structure Table (Key Value : Type) where
  entries : List (Key × Value)
  distinct : (entries.map Prod.fst).Nodup

namespace Table

variable {Key Value : Type} [DecidableEq Key]

def empty : Table Key Value := ⟨[], List.nodup_nil⟩

instance : Inhabited (Table Key Value) := ⟨empty⟩

def get? (table : Table Key Value) (key : Key) : Option Value := table.entries.lookup key

def contains (table : Table Key Value) (key : Key) : Bool := (table.get? key).isSome

def size (table : Table Key Value) : Nat := table.entries.length

def isEmpty (table : Table Key Value) : Bool := table.entries.isEmpty

def without (entries : List (Key × Value)) (key : Key) : List (Key × Value) :=
  entries.filter fun entry => entry.1 ≠ key

/-- The new value takes the place of an old one. -/
def insert (table : Table Key Value) (key : Key) (value : Value) : Table Key Value where
  entries := (key, value) :: without table.entries key
  distinct := by
    rw [List.map_cons, List.nodup_cons]
    constructor
    · simp [without]
    · exact table.distinct.sublist ((List.filter_sublist).map _)

theorem get?_empty (key : Key) : (empty : Table Key Value).get? key = none := rfl

@[simp] theorem get?_insert_self (table : Table Key Value) (key : Key) (value : Value) :
    (table.insert key value).get? key = some value := by
  simp [get?, insert]

theorem lookup_without (entries : List (Key × Value)) (key other : Key) (differ : other ≠ key) :
    (without entries key).lookup other = entries.lookup other := by
  induction entries with
  | nil => rfl
  | cons entry rest rest_ih =>
    obtain ⟨first, value⟩ := entry
    by_cases same : first = key
    · subst same
      have apart : (other == first) = false := by simpa using differ
      simpa [without, List.lookup_cons, apart] using rest_ih
    · by_cases hit : other = first
      · subst hit
        simp [without, same]
      · have apart : (other == first) = false := by simpa using hit
        have kept : without ((first, value) :: rest) key = (first, value) :: without rest key := by
          simp [without, same]
        rw [kept, List.lookup_cons, List.lookup_cons, apart]
        exact rest_ih

@[simp] theorem get?_insert_of_ne (table : Table Key Value) (key other : Key) (value : Value)
    (differ : other ≠ key) : (table.insert key value).get? other = table.get? other := by
  have apart : (other == key) = false := by simpa using differ
  rw [get?, insert, List.lookup_cons, apart]
  exact lookup_without table.entries key other differ

end Table

end Lowering
