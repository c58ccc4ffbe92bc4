/-
This file changes the first item of a list that passes a test.
-/

namespace Lowering

variable {A : Type}

/-- The first item that passes is changed, and all others stay where they are. -/
def modifyFirst (test : A → Bool) (change : A → A) : List A → List A
  | [] => []
  | item :: rest => if test item then change item :: rest else item :: modifyFirst test change rest

theorem length_modifyFirst (test : A → Bool) (change : A → A) (items : List A) :
    (modifyFirst test change items).length = items.length := by
  induction items with
  | nil => rfl
  | cons item rest rest_ih =>
    rw [modifyFirst]
    split <;> simp [rest_ih]

/-- A change that keeps the test is what a search finds afterwards. -/
theorem find?_modifyFirst (test : A → Bool) (change : A → A)
    (keeps : ∀ item, test item = true → test (change item) = true) (items : List A) :
    (modifyFirst test change items).find? test = (items.find? test).map change := by
  induction items with
  | nil => rfl
  | cons item rest rest_ih =>
    rw [modifyFirst]
    split
    next passes => simp [passes, keeps item passes]
    next fails => simp [fails, rest_ih]

/-- A view that the change leaves alone is the same everywhere. -/
theorem map_modifyFirst {B : Type} (view : A → B) (test : A → Bool) (change : A → A)
    (same : ∀ item, view (change item) = view item) (items : List A) :
    (modifyFirst test change items).map view = items.map view := by
  induction items with
  | nil => rfl
  | cons item rest rest_ih =>
    rw [modifyFirst]
    split <;> simp [same, rest_ih]

/-- Every item afterwards was there before, the changed one apart. -/
theorem mem_modifyFirst (test : A → Bool) (change : A → A) (items : List A) (item : A)
    (inside : item ∈ modifyFirst test change items) :
    item ∈ items ∨ ∃ first, items.find? test = some first ∧ item = change first := by
  induction items with
  | nil => exact Or.inl inside
  | cons head rest rest_ih =>
    rw [modifyFirst] at inside
    split at inside
    next passes =>
      rcases List.mem_cons.mp inside with same | later
      · exact Or.inr ⟨head, by simp [passes], same⟩
      · exact Or.inl (List.mem_cons_of_mem head later)
    next fails =>
      rcases List.mem_cons.mp inside with same | later
      · exact Or.inl (by simp [same])
      · rcases rest_ih later with old | ⟨first, found, same⟩
        · exact Or.inl (List.mem_cons_of_mem head old)
        · exact Or.inr ⟨first, by simpa [fails] using found, same⟩

/-- A search that never stops at the changed item finds what it found before. -/
theorem find?_modifyFirst_of_apart (test other : A → Bool) (change : A → A)
    (apart : ∀ item, test item = true → other item = false ∧ other (change item) = false)
    (items : List A) : (modifyFirst test change items).find? other = items.find? other := by
  induction items with
  | nil => rfl
  | cons item rest rest_ih =>
    rw [modifyFirst]
    split
    next passes => simp [apart item passes]
    next fails => simp [List.find?_cons, rest_ih]

/-- What all items weigh together. -/
def total (weight : A → Nat) (items : List A) : Nat :=
  items.foldr (fun item rest => weight item + rest) 0

@[simp] theorem total_nil (weight : A → Nat) : total weight [] = 0 := rfl

@[simp] theorem total_cons (weight : A → Nat) (item : A) (rest : List A) :
    total weight (item :: rest) = weight item + total weight rest := rfl

@[simp] theorem total_append (weight : A → Nat) (items others : List A) :
    total weight (items ++ others) = total weight items + total weight others := by
  induction items with
  | nil => simp
  | cons item rest rest_ih => simp [rest_ih, Nat.add_assoc]

/-- The total changes by as much as the changed item. -/
theorem total_modifyFirst (weight : A → Nat) (test : A → Bool) (change : A → A) (items : List A)
    (first : A) (found : items.find? test = some first) :
    total weight (modifyFirst test change items) + weight first =
      total weight items + weight (change first) := by
  induction items with
  | nil => simp at found
  | cons item rest rest_ih =>
    rw [modifyFirst]
    split
    next passes =>
      obtain rfl : item = first := by simpa [passes] using found
      simp only [total_cons]
      omega
    next fails =>
      have later := rest_ih (by simpa [fails] using found)
      simp only [total_cons]
      omega

/-- What the changed item lists is all that is new. -/
theorem flatMap_modifyFirst_perm {B : Type} (view : A → List B) (test : A → Bool)
    (change : A → A) (items : List A) (first : A) (found : items.find? test = some first)
    (added : List B) (grown : view (change first) = view first ++ added) :
    ((modifyFirst test change items).flatMap view).Perm (items.flatMap view ++ added) := by
  induction items with
  | nil => simp at found
  | cons item rest rest_ih =>
    rw [modifyFirst]
    split
    next passes =>
      obtain rfl : item = first := by simpa [passes] using found
      simp only [List.flatMap_cons, grown, List.append_assoc]
      exact List.Perm.append_left _ List.perm_append_comm
    next fails =>
      have later := rest_ih (by simpa [fails] using found)
      simp only [List.flatMap_cons, List.append_assoc]
      exact List.Perm.append_left _ later

/-- Only the item that is found counts for the change. -/
theorem modifyFirst_of_find? (test : A → Bool) (change : A → A) (items : List A) (first : A)
    (found : items.find? test = some first) :
    modifyFirst test change items = modifyFirst test (fun _ => change first) items := by
  induction items with
  | nil => rfl
  | cons item rest rest_ih =>
    rw [modifyFirst, modifyFirst]
    split
    next passes =>
      obtain rfl : item = first := by simpa [passes] using found
      rfl
    next fails => rw [rest_ih (by simpa [fails] using found)]

/-- Two changes of one item are one change. -/
theorem modifyFirst_modifyFirst (test : A → Bool) (change next : A → A) (items : List A)
    (keeps : ∀ item, test item = true → test (change item) = true) :
    modifyFirst test next (modifyFirst test change items) =
      modifyFirst test (next ∘ change) items := by
  induction items with
  | nil => rfl
  | cons item rest rest_ih =>
    by_cases passes : test item = true
    · simp [modifyFirst, passes, keeps item passes]
    · simp [modifyFirst, passes, rest_ih]

end Lowering
