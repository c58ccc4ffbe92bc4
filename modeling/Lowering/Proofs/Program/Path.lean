import Lowering.Proofs.Run

/-
This file tells the parts of a name apart. Names of declarations have no separator in them and are
no numbers, so the number at the end of a name is never the last segment of a qualified name.
-/

namespace Lowering

/-- A name that is told from a number, and from a path or a thunk's name by their separators. -/
structure PlainName (name : String) : Prop where
  undotted : '.' ∉ name.toList
  unmarked : '$' ∉ name.toList
  unnumbered : name ≠ "" → ∃ letter ∈ name.toList, letter.isDigit = false

theorem plain_iff (name : String) : PlainName name ↔ '.' ∉ name.toList ∧ '$' ∉ name.toList ∧
    (name ≠ "" → name.toList.any (!·.isDigit) = true) := by
  simp only [List.any_eq_true, Bool.not_eq_true']
  exact ⟨fun plain => ⟨plain.1, plain.2, plain.3⟩, fun ⟨dot, mark, letter⟩ => ⟨dot, mark, letter⟩⟩

instance (name : String) : Decidable (PlainName name) := decidable_of_iff _ (plain_iff name).symm

/-- A text has one last separator. -/
theorem last_mark_inj {mark : Char} {front other back rest : List Char} (unmarked : mark ∉ back)
    (clear : mark ∉ rest) (same : front ++ mark :: back = other ++ mark :: rest) :
    front = other ∧ back = rest := by
  -- Where one front is longer, a separator would stand in the other back.
  have longer {front other back rest : List Char} (unmarked : mark ∉ back)
      (same : ∃ middle, other = front ++ middle ∧ mark :: back = middle ++ mark :: rest) :
      front = other ∧ back = rest := by
    obtain ⟨middle, rfl, tail⟩ := same
    cases middle with
    | nil => simpa using tail
    | cons head middle =>
      obtain ⟨_, rfl⟩ := List.cons.inj tail
      exact (unmarked (by simp)).elim
  rcases List.append_eq_append_iff.mp same with first | second
  · exact longer unmarked first
  · obtain ⟨fronts, backs⟩ := longer clear second
    exact ⟨fronts.symm, backs.symm⟩

/-- A text has one first separator. -/
theorem first_mark_inj {mark : Char} {front other back rest : List Char} (unmarked : mark ∉ front)
    (clear : mark ∉ other) (same : front ++ mark :: back = other ++ mark :: rest) :
    front = other ∧ back = rest := by
  have mirrored : back.reverse ++ mark :: front.reverse = rest.reverse ++ mark :: other.reverse := by
    simpa using congrArg List.reverse same
  obtain ⟨backs, fronts⟩ := last_mark_inj (by simpa using unmarked) (by simpa using clear) mirrored
  exact ⟨List.reverse_inj.mp fronts, List.reverse_inj.mp backs⟩

theorem toList_toString (number : Nat) : (toString number).toList = Nat.toDigits 10 number := by
  rw [Nat.toString_eq_ofList_toDigits, String.toList_ofList]

theorem isDigit_of_mem_toString {number : Nat} {digit : Char}
    (inside : digit ∈ (toString number).toList) : digit.isDigit = true := by
  rw [toList_toString] at inside
  exact Nat.isDigit_of_mem_toDigits (by decide) (by decide) inside

theorem undotted_toString (number : Nat) : '.' ∉ (toString number).toList :=
  fun inside => nomatch isDigit_of_mem_toString inside

theorem toString_injective {number other : Nat} (same : toString number = toString other) :
    number = other := by
  rw [Nat.toString_eq_ofList_toDigits, Nat.toString_eq_ofList_toDigits] at same
  have digits := congrArg (Nat.ofDigitChars 10 · 0) (String.ofList_injective same)
  simpa using digits

/-- A path joins plain segments. -/
def PlainPath (path : String) : Prop :=
  ∃ segments, (∀ segment ∈ segments, PlainName segment) ∧ path = ".".intercalate segments

/-- A path of plain segments does not end in a number. -/
theorem PlainPath.unnumbered {path : String} (plain : PlainPath path) (front : List Char)
    (number : Nat) : path.toList ≠ front ++ '.' :: (toString number).toList := by
  obtain ⟨segments, plain, rfl⟩ := plain
  intro same
  rcases List.eq_nil_or_concat segments with rfl | ⟨outer, last, rfl⟩
  · simp at same
  · have ends := plain last (by simp)
    by_cases single : outer = []
    · subst single
      have dotted : '.' ∈ last.toList := by
        have whole : last.toList = front ++ '.' :: (toString number).toList := by simpa using same
        simp [whole]
      exact ends.undotted dotted
    · rw [List.concat_eq_append, String.intercalate_append_of_ne_nil single (by simp)] at same
      have split : (".".intercalate outer).toList ++ '.' :: last.toList =
          front ++ '.' :: (toString number).toList := by
        simpa using same
      obtain ⟨_, digits⟩ := last_mark_inj ends.undotted (undotted_toString number) split
      have present : last ≠ "" := by
        rintro rfl
        rw [toList_toString] at digits
        exact Nat.toDigits_ne_nil digits.symm
      obtain ⟨letter, inside, other⟩ := ends.unnumbered present
      rw [digits] at inside
      rw [isDigit_of_mem_toString inside] at other
      cases other

/-- The mark of thunks stands in no path of plain segments. -/
theorem PlainPath.unmarked {path : String} (plain : PlainPath path) : '$' ∉ path.toList := by
  obtain ⟨segments, plain, rfl⟩ := plain
  induction segments with
  | nil => simp
  | cons segment rest rest_ih =>
    have first := (plain segment (List.mem_cons_self ..)).unmarked
    have later := rest_ih fun other inside => plain other (List.mem_cons_of_mem _ inside)
    cases rest with
    | nil => simpa using first
    | cons next rest =>
      rw [String.intercalate_cons_cons, String.toList_append, String.toList_append]
      simp only [List.mem_append, not_or]
      exact ⟨⟨first, by decide⟩, later⟩

namespace NamesM

theorem toList_numbered {path : String} {uses : Nat} (used : uses ≠ 0) :
    (numbered path uses).toList = path.toList ++ '.' :: (toString uses).toList := by
  simp [numbered, used, toString]

/-- A number puts no mark of thunks into a name. -/
theorem unmarked_use {path : String} (unmarked : '$' ∉ path.toList) (uses : Nat) :
    '$' ∉ (numbered path uses).toList := by
  by_cases first : uses = 0
  · simpa [numbered, first] using unmarked
  · rw [toList_numbered first, List.mem_append, List.mem_cons]
    rintro (front | mark | digit)
    · exact unmarked front
    · cases mark
    · cases isDigit_of_mem_toString digit

theorem unmarked_numbered {path : String} (plain : PlainPath path) (uses : Nat) :
    '$' ∉ (numbered path uses).toList :=
  unmarked_use plain.unmarked uses

/-- The uses of plain paths are all different. -/
theorem numbered_inj {path other : String} {uses again : Nat} (plain : PlainPath path)
    (clear : PlainPath other) (same : numbered path uses = numbered other again) :
    path = other ∧ uses = again := by
  have texts := congrArg String.toList same
  by_cases first : uses = 0 <;> by_cases second : again = 0
  · subst first second
    exact ⟨by simpa [numbered] using same, rfl⟩
  · rw [toList_numbered second, first] at texts
    exact (plain.unnumbered _ _ (by simpa [numbered] using texts)).elim
  · rw [toList_numbered first, second] at texts
    exact (clear.unnumbered _ _ (by simpa [numbered] using texts.symm)).elim
  · rw [toList_numbered first, toList_numbered second] at texts
    obtain ⟨paths, digits⟩ := last_mark_inj (undotted_toString _) (undotted_toString _) texts
    exact ⟨String.toList_injective paths, toString_injective (String.toList_injective digits)⟩

/-- The name of a thunk tells the name of the function that it calls from a path. -/
theorem thunk_inj {function other path again : String} (unmarked : '$' ∉ function.toList)
    (clear : '$' ∉ other.toList)
    (same : s!"{function}$witness${path}" = s!"{other}$witness${again}") :
    function = other ∧ path = again := by
  have texts : function.toList ++ '$' :: ("witness$".toList ++ path.toList) =
      other.toList ++ '$' :: ("witness$".toList ++ again.toList) := by
    simpa [toString] using congrArg String.toList same
  obtain ⟨functions, paths⟩ := first_mark_inj unmarked clear texts
  exact ⟨String.toList_injective functions,
    String.toList_injective (List.append_cancel_left paths)⟩

end NamesM

namespace Program

variable {program : Program}

/-- Every declaration has a plain name. -/
def PlainNames (program : Program) : Prop := ∀ decl ∈ program.decls, PlainName decl.name

instance : Decidable program.PlainNames :=
  inferInstanceAs (Decidable (∀ decl ∈ program.decls, PlainName decl.name))

variable (plain : program.PlainNames)

include plain

theorem PlainNames.name {id : DeclId} {decl : Decl} (found : program.decl id = .ok decl) :
    PlainName decl.name := by
  unfold Program.decl at found
  cases present : program.find? id with
  | none => simp [present] at found
  | some given =>
    obtain rfl : given = decl := by simpa [present] using found
    exact plain given (Array.mem_of_getElem? present)

/-- The segment of a declaration is its own name, that of what it extends, or that of
constructors. -/
theorem PlainNames.segment {id : DeclId} {decl : Decl} {segment : String}
    (found : program.decl id = .ok decl) (given : program.segment decl = .ok segment) :
    PlainName segment := by
  unfold Program.segment at given
  split at given
  next extended members kind =>
    cases extends_ : program.decl extended with
    | error => simp [extends_, bind, Except.bind] at given
    | ok base =>
      obtain rfl : base.name = segment := by
        simpa [extends_, bind, Except.bind, pure, Except.pure] using given
      exact plain.name extends_
  next routine kind =>
    obtain rfl := Except.ok.inj given
    split
    · decide
    · exact plain.name found
  next =>
    obtain rfl := Except.ok.inj given
    exact plain.name found

theorem PlainNames.pathFrom {steps : Nat} {id : Option DeclId} {segments : List String}
    (given : program.pathFrom steps id = .ok segments) :
    ∀ segment ∈ segments, PlainName segment := by
  induction steps generalizing id segments with
  | zero =>
    cases id with
    | none =>
      obtain rfl := Except.ok.inj given
      exact fun _ impossible => nomatch impossible
    | some => cases given
  | succ steps steps_ih =>
    cases id with
    | none =>
      obtain rfl := Except.ok.inj given
      exact fun _ impossible => nomatch impossible
    | some id =>
      unfold Program.pathFrom at given
      obtain ⟨decl, found, given⟩ := (check_bind _ _ _).mp given
      split at given
      · obtain rfl := Except.ok.inj given
        exact fun _ impossible => nomatch impossible
      · obtain ⟨name, named, given⟩ := (check_bind _ _ _).mp given
        obtain ⟨outer, walked, given⟩ := (check_bind _ _ _).mp given
        obtain rfl := Except.ok.inj given
        intro segment inside
        rcases List.mem_append.mp inside with old | new
        · exact steps_ih walked segment old
        · rw [List.mem_singleton.mp new]
          exact plain.segment found named

/-- A qualified name joins plain segments. -/
theorem PlainNames.qualifiedName {id : DeclId} {path : String}
    (given : program.qualifiedName id = .ok path) :
    PlainPath path := by
  obtain ⟨segments, walked, given⟩ := (check_bind _ _ _).mp given
  exact ⟨segments, plain.pathFrom walked, (Except.ok.inj given).symm⟩

end Program

end Lowering
