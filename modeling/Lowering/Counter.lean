/-
This file holds the counters that hand out identifiers. A counter is stored in 32 bits, and counts
without a bound here: `word` is what is stored of it, which wraps around when the bits run out.
-/

namespace Lowering

/-- A counter hands out the naturals in order, and `issued` counts those handed out so far. -/
structure Counter where
  issued : Nat
deriving DecidableEq, Inhabited, Repr

namespace Counter

def zero : Counter := ⟨0⟩

/-- The next identifier, and the counter after it. -/
def next (counter : Counter) : Nat × Counter := (counter.issued, ⟨counter.issued + 1⟩)

/-- The next identifiers, and the counter after them. -/
def take (counter : Counter) (count : Nat) : List Nat × Counter :=
  (List.range' counter.issued count, ⟨counter.issued + count⟩)

/-- The 32 bits that are stored of a counter. -/
def word (counter : Counter) : UInt32 := UInt32.ofNat counter.issued

/-- The bits have not run out. -/
def Storable (counter : Counter) : Prop := counter.issued < UInt32.size

instance (counter : Counter) : Decidable counter.Storable := inferInstanceAs (Decidable (_ < _))

/-- Stored, the counter goes up by one with each identifier, from its last value to zero again. -/
theorem word_next (counter : Counter) : counter.next.2.word = counter.word + 1 :=
  UInt32.ofNat_add counter.issued 1

@[simp] theorem Storable.toNat_word {counter : Counter} (storable : counter.Storable) :
    counter.word.toNat = counter.issued := UInt32.toNat_ofNat_of_lt' storable

/-- A counter whose bits have not run out has gone up. -/
theorem Storable.toNat_word_next {counter : Counter} (storable : counter.next.2.Storable) :
    counter.next.2.word.toNat = counter.word.toNat + 1 := by
  have before : counter.Storable := Nat.lt_of_succ_lt storable
  rw [word_next, UInt32.toNat_add]
  exact Nat.mod_eq_of_lt (before.toNat_word ▸ storable)

end Counter

end Lowering
