import Lowering.Proofs.Json.Layout
import Lowering.Proofs.Json.Literal

/-
This file shows that the text of a value reads back as the value, whatever its layout.
-/

namespace Lowering

namespace Json

mutual

/-- The text of such a value shows all of it; the text of a real number is taken on trust. -/
def Legible : Json → Prop
  | .null | .bool _ => True
  | .integer value => IsWord value
  | .real value => read (writeReal value) = some (.real value)
  | .string value => value.isSome = true
  | .array items => LegibleItems items
  | .object members => LegibleMembers members

def LegibleItems : List Json → Prop
  | [] => True
  | item :: rest => item.Legible ∧ LegibleItems rest

def LegibleMembers : List (Option String × Json) → Prop
  | [] => True
  | (key, value) :: rest => key.isSome = true ∧ value.Legible ∧ LegibleMembers rest

end

theorem legibleItems_iff (items : List Json) :
    LegibleItems items ↔ ∀ item ∈ items, item.Legible := by
  induction items with
  | nil => simp [LegibleItems]
  | cons item rest rest_ih => simp [LegibleItems, rest_ih]

theorem legibleMembers_iff (members : List (Option String × Json)) :
    LegibleMembers members ↔ ∀ member ∈ members, member.1.isSome = true ∧ member.2.Legible := by
  induction members with
  | nil => simp [LegibleMembers]
  | cons member rest rest_ih => simp [LegibleMembers, rest_ih, and_assoc]

section Blanks

theorem skipBlanks_append {blanks : List Char} (blank : ∀ char ∈ blanks, isBlank char = true)
    (rest : List Char) : skipBlanks (blanks ++ rest) = skipBlanks rest :=
  List.dropWhile_append_of_pos blank

theorem skipBlanks_cons {char : Char} (solid : isBlank char = false) (rest : List Char) :
    skipBlanks (char :: rest) = char :: rest := by
  simp [skipBlanks, solid]

theorem skipBlanks_idem (input : List Char) : skipBlanks (skipBlanks input) = skipBlanks input := by
  induction input with
  | nil => rfl
  | cons char rest rest_ih =>
    cases blank : isBlank char
    · rw [skipBlanks_cons blank, skipBlanks_cons blank]
    · simpa [skipBlanks, blank] using rest_ih

theorem endsNumber_cons {char : Char} (mark : char = ',' ∨ char = ']' ∨ char = '\x7d')
    (rest : List Char) : EndsNumber (char :: rest) := by
  rintro _ ⟨⟩
  obtain rfl | rfl | rfl := mark <;> decide

theorem isBlank_ends {char : Char} (blank : isBlank char = true) :
    char.isDigit = false ∧ char ≠ '.' ∧ char ≠ 'e' ∧ char ≠ 'E' := by
  simp only [isBlank, Bool.or_eq_true, beq_iff_eq] at blank
  obtain ((rfl | rfl) | rfl) | rfl := blank <;> decide

theorem EndsNumber.append {blanks rest : List Char}
    (blank : ∀ char ∈ blanks, isBlank char = true) (ends : EndsNumber rest) :
    EndsNumber (blanks ++ rest) := by
  cases blanks with
  | nil => exact ends
  | cons char blanks =>
    rintro _ ⟨⟩
    exact isBlank_ends (blank char List.mem_cons_self)

end Blanks

/-- A value is read from this text, and what stands after it is left but for blanks. -/
def ReadsAs (text : List Char) (json : Json) : Prop :=
  ∀ rest, EndsNumber rest → ∀ fuel, 2 * text.length ≤ fuel →
    ∃ left, scanValue fuel (skipBlanks (text ++ rest)) = some (json, left) ∧
      skipBlanks left = skipBlanks rest

/-- A text that opens with a solid character is read at once. -/
theorem readsAs_of_scan {char : Char} {text : List Char} {json : Json}
    (solid : isBlank char = false)
    (scans : ∀ rest, EndsNumber rest → ∀ fuel, 2 * text.length + 1 ≤ fuel →
      scanValue (fuel + 1) (char :: (text ++ rest)) = some (json, rest)) :
    ReadsAs (char :: text) json := by
  intro rest ends fuel enough
  rw [List.length_cons] at enough
  obtain ⟨fuel, rfl⟩ := Nat.exists_eq_add_of_le' (show 1 ≤ fuel by omega)
  refine ⟨rest, ?_, rfl⟩
  rw [List.cons_append, skipBlanks_cons solid]
  exact scans rest ends fuel (by omega)

theorem readsAs_null : ReadsAs ['n', 'u', 'l', 'l'] .null :=
  readsAs_of_scan rfl fun _ _ _ _ => rfl

theorem readsAs_true : ReadsAs ['t', 'r', 'u', 'e'] (.bool true) :=
  readsAs_of_scan rfl fun _ _ _ _ => rfl

theorem readsAs_false : ReadsAs ['f', 'a', 'l', 's', 'e'] (.bool false) :=
  readsAs_of_scan rfl fun _ _ _ _ => rfl

theorem readsAs_string (text : String) :
    ReadsAs (writeString text).toList (.string (some text)) := by
  rw [writeString, String.toList_ofList, List.cons_append]
  refine readsAs_of_scan rfl fun rest _ _ _ => ?_
  rw [List.append_assoc, List.singleton_append, scanValue, scanString_escapes, Option.map_some]

/-- A number is read up to the blanks after it. -/
theorem ScansNumber.readsAs {text left : List Char} {json : Json}
    (scans : ScansNumber (skipBlanks text) json left) (blank : skipBlanks left = []) :
    ReadsAs text json := by
  intro rest ends fuel enough
  have present := scans.ne_nil
  have filled : 0 < text.length := by
    cases text with
    | nil => exact absurd rfl present
    | cons => exact Nat.succ_pos _
  obtain ⟨fuel, rfl⟩ := Nat.exists_eq_add_of_le' (show 1 ≤ fuel by omega)
  refine ⟨left ++ rest, ?_, skipBlanks_append (List.dropWhile_eq_nil_iff.mp blank) rest⟩
  -- The blanks before the literal end with it, whatever stands after it.
  have passed : skipBlanks (text ++ rest) = skipBlanks text ++ rest := by
    rw [skipBlanks, List.dropWhile_append, if_neg]
    · rfl
    · rwa [List.isEmpty_iff]
  rw [passed]
  exact (scans.append ends).scanValue fuel

/-- A number opens with its sign or with a digit. -/
theorem ScansNumber.skipBlanks_eq {input left : List Char} {json : Json}
    (scans : ScansNumber input json left) : skipBlanks input = input := by
  obtain ⟨after, rfl, -⟩ | scanned := scans
  · exact skipBlanks_cons rfl after
  · obtain ⟨char, digits, rfl, digit⟩ := scanNumber_digit scanned
    cases blank : isBlank char
    · exact skipBlanks_cons blank digits
    · exact absurd digit (by simp [(isBlank_ends blank).1])

theorem readsAs_integer {value : Int} (word : IsWord value) :
    ReadsAs (toString value).toList (.integer value) := by
  have scans := scansNumber_integer word
  rw [← scans.skipBlanks_eq] at scans
  exact scans.readsAs rfl

theorem read_some {text : String} {json : Json} (done : read text = some json) :
    ∃ fuel left, scanValue fuel (skipBlanks text.toList) = some (json, left) ∧
      skipBlanks left = [] := by
  simp only [read] at done
  split at done
  next scanned =>
    split at done
    next blank =>
      cases done
      exact ⟨_, _, scanned, List.isEmpty_iff.mp blank⟩
    next => cases done
  next => cases done

theorem readsAs_real {value : Option Binary64}
    (exact : read (writeReal value) = some (.real value)) :
    ReadsAs (writeReal value).toList (.real value) := by
  obtain ⟨fuel, left, scanned, blank⟩ := read_some exact
  exact (scansNumber_of_isNumber scanned rfl).readsAs blank

/-- The text of a real number is not read as an integer. -/
theorem read_text_ne_integer (style : NumberStyle) (number : Binary64) (value : Int) :
    read (style.text number) ≠ some (.integer value) := by
  intro done
  obtain ⟨fuel, left, scanned, blank⟩ := read_some done
  have scans := scansNumber_of_isNumber scanned rfl
  have plain (char : Char) (within : char ∈ (style.text number).toList) :
      char = '-' ∨ char.isDigit = true ∨ isBlank char = true := by
    rw [← List.takeWhile_append_dropWhile (p := isBlank) (l := (style.text number).toList),
      List.mem_append] at within
    obtain skipped | kept := within
    · exact .inr (.inr (List.mem_takeWhile_imp skipped))
    · exact scans.integer_plain blank kept
  obtain point | mark := mark_mem_text style number
  · exact absurd (plain '.' point) (by decide)
  · exact absurd (plain 'e' mark) (by decide)

/-- A closing bracket opens no value. -/
theorem scanValue_bracket (fuel : Nat) (rest : List Char) :
    scanValue fuel (']' :: rest) = none := by
  cases fuel with
  | zero => rfl
  | succ fuel =>
    rw [scanValue]
    · rfl
    all_goals rintro _ ⟨⟩

variable {blanks text more : List Char}

section Items

/-- Items are read from this text up to the bracket that closes them. -/
def ItemsReadAs (text : List Char) (items : List Json) : Prop :=
  ∀ before rest after, EndsNumber rest → skipBlanks rest = ']' :: after →
    ∀ fuel, 2 * text.length + 1 ≤ fuel →
      scanItems fuel before (text ++ rest) = some (before.reverse ++ items, after)

theorem scanItems_more {fuel : Nat} {before : List Json} {input left rest : List Char}
    {item : Json} (scanned : scanValue fuel (skipBlanks input) = some (item, left))
    (comma : skipBlanks left = ',' :: rest) :
    scanItems (fuel + 1) before input = scanItems fuel (item :: before) rest := by
  simp only [scanItems, scanned, comma]

theorem scanItems_last {fuel : Nat} {before : List Json} {input left rest : List Char}
    {item : Json} (scanned : scanValue fuel (skipBlanks input) = some (item, left))
    (closed : skipBlanks left = ']' :: rest) :
    scanItems (fuel + 1) before input = some ((item :: before).reverse, rest) := by
  simp only [scanItems, scanned, closed]

/-- An array passes over the blanks after its bracket once more than its items do. -/
theorem scanItems_skipBlanks (fuel : Nat) (before : List Json) (input : List Char) :
    scanItems fuel before (skipBlanks input) = scanItems fuel before input := by
  cases fuel <;> simp only [scanItems, skipBlanks_idem]

theorem scanItems_bracket (fuel : Nat) (before : List Json) (rest : List Char) :
    scanItems fuel before (']' :: rest) = none := by
  cases fuel with
  | zero => rfl
  | succ fuel => rw [scanItems, skipBlanks_cons rfl, scanValue_bracket]

variable {item : Json}

theorem itemsReadAs_last (blank : ∀ char ∈ blanks, isBlank char = true)
    (item_reads : ReadsAs text item) : ItemsReadAs (blanks ++ text) [item] := by
  intro before rest after ends closed fuel enough
  rw [List.length_append] at enough
  obtain ⟨fuel, rfl⟩ := Nat.exists_eq_add_of_le' (show 1 ≤ fuel by omega)
  obtain ⟨left, scanned, passed⟩ := item_reads rest ends fuel (by omega)
  rw [← skipBlanks_append blank, ← List.append_assoc] at scanned
  rw [scanItems_last scanned (passed.trans closed), List.reverse_cons]

theorem itemsReadAs_cons {items : List Json} (blank : ∀ char ∈ blanks, isBlank char = true)
    (item_reads : ReadsAs text item) (more_read : ItemsReadAs more items) :
    ItemsReadAs (blanks ++ (text ++ ',' :: more)) (item :: items) := by
  intro before rest after ends closed fuel enough
  simp only [List.length_append, List.length_cons] at enough
  obtain ⟨fuel, rfl⟩ := Nat.exists_eq_add_of_le' (show 1 ≤ fuel by omega)
  obtain ⟨left, scanned, passed⟩ :=
    item_reads (',' :: (more ++ rest)) (endsNumber_cons (.inl rfl) _) fuel (by omega)
  rw [← skipBlanks_append blank] at scanned
  simp only [List.append_assoc, List.cons_append]
  rw [scanItems_more scanned (passed.trans (skipBlanks_cons rfl _))]
  simpa using more_read (item :: before) rest after ends closed fuel (by omega)

theorem readsAs_array {items : List Json} (blank : ∀ char ∈ blanks, isBlank char = true)
    (items_read : ItemsReadAs text items) :
    ReadsAs ('[' :: (text ++ (blanks ++ [']']))) (.array items) := by
  refine readsAs_of_scan rfl fun rest _ fuel enough => ?_
  simp only [List.length_append, List.length_cons, List.length_nil] at enough
  have closed : skipBlanks (blanks ++ ']' :: rest) = ']' :: rest := by
    rw [skipBlanks_append blank, skipBlanks_cons rfl]
  have scanned := items_read [] (blanks ++ ']' :: rest) rest
    ((endsNumber_cons (.inr (.inl rfl)) rest).append blank) closed fuel (by omega)
  rw [← scanItems_skipBlanks] at scanned
  simp only [List.append_assoc, List.singleton_append, scanValue]
  split
  next empty => rw [empty, scanItems_bracket] at scanned; cases scanned
  next => rw [scanned]; rfl

end Items

section Members

/-- Members are read from this text up to the brace that closes them. -/
def MembersReadAs (text : List Char) (members : List (Option String × Json)) : Prop :=
  ∀ before rest after, EndsNumber rest → skipBlanks rest = '\x7d' :: after →
    ∀ fuel, 2 * text.length + 1 ≤ fuel →
      scanMembers fuel before (text ++ rest) = some (before.reverse ++ members, after)

section Steps

variable {fuel : Nat} {before : List (Option String × Json)} {input left rest : List Char}
  {key : String} {value : Json}

theorem scanMembers_more
    (opened : skipBlanks input = '"' :: (key.toList.flatMap escape ++ '"' :: ':' :: text))
    (scanned : scanValue fuel (skipBlanks text) = some (value, left))
    (comma : skipBlanks left = ',' :: rest) :
    scanMembers (fuel + 1) before input = scanMembers fuel ((some key, value) :: before) rest := by
  have colon : skipBlanks (':' :: text) = ':' :: text := skipBlanks_cons rfl text
  simp only [scanMembers, opened, scanString_escapes, colon, scanned, comma]

theorem scanMembers_last
    (opened : skipBlanks input = '"' :: (key.toList.flatMap escape ++ '"' :: ':' :: text))
    (scanned : scanValue fuel (skipBlanks text) = some (value, left))
    (closed : skipBlanks left = '\x7d' :: rest) :
    scanMembers (fuel + 1) before input = some (((some key, value) :: before).reverse, rest) := by
  have colon : skipBlanks (':' :: text) = ':' :: text := skipBlanks_cons rfl text
  simp only [scanMembers, opened, scanString_escapes, colon, scanned, closed]

end Steps

theorem scanMembers_skipBlanks (fuel : Nat) (before : List (Option String × Json))
    (input : List Char) :
    scanMembers fuel before (skipBlanks input) = scanMembers fuel before input := by
  cases fuel <;> simp only [scanMembers, skipBlanks_idem]

theorem scanMembers_brace (fuel : Nat) (before : List (Option String × Json)) (rest : List Char) :
    scanMembers fuel before ('\x7d' :: rest) = none := by
  cases fuel with
  | zero => rfl
  | succ fuel => rw [scanMembers, skipBlanks_cons rfl]; rfl

/-- What stands before the colon is a key in quotes. -/
theorem skipBlanks_key (blank : ∀ char ∈ blanks, isBlank char = true) (key : String)
    (rest : List Char) :
    skipBlanks (blanks ++ ((writeString key).toList ++ rest)) =
      '"' :: (key.toList.flatMap escape ++ '"' :: rest) := by
  rw [skipBlanks_append blank, writeString, String.toList_ofList]
  simp [skipBlanks_cons (rfl : isBlank '"' = false)]

variable {gap : List Char} {value : Json}

theorem membersReadAs_last (blank : ∀ char ∈ blanks, isBlank char = true)
    (gap_blank : ∀ char ∈ gap, isBlank char = true) (key : String)
    (value_reads : ReadsAs text value) :
    MembersReadAs (blanks ++ ((writeString key).toList ++ ':' :: (gap ++ text)))
      [(some key, value)] := by
  intro before rest after ends closed fuel enough
  simp only [List.length_append, List.length_cons] at enough
  obtain ⟨fuel, rfl⟩ := Nat.exists_eq_add_of_le' (show 1 ≤ fuel by omega)
  obtain ⟨left, scanned, passed⟩ := value_reads rest ends fuel (by omega)
  rw [← skipBlanks_append gap_blank] at scanned
  simp only [List.append_assoc, List.cons_append]
  rw [scanMembers_last (skipBlanks_key blank key _) scanned (passed.trans closed),
    List.reverse_cons]

theorem membersReadAs_cons {members : List (Option String × Json)}
    (blank : ∀ char ∈ blanks, isBlank char = true)
    (gap_blank : ∀ char ∈ gap, isBlank char = true) (key : String)
    (value_reads : ReadsAs text value) (more_read : MembersReadAs more members) :
    MembersReadAs (blanks ++ ((writeString key).toList ++ ':' :: (gap ++ (text ++ ',' :: more))))
      ((some key, value) :: members) := by
  intro before rest after ends closed fuel enough
  simp only [List.length_append, List.length_cons] at enough
  obtain ⟨fuel, rfl⟩ := Nat.exists_eq_add_of_le' (show 1 ≤ fuel by omega)
  obtain ⟨left, scanned, passed⟩ :=
    value_reads (',' :: (more ++ rest)) (endsNumber_cons (.inl rfl) _) fuel (by omega)
  rw [← skipBlanks_append gap_blank] at scanned
  simp only [List.append_assoc, List.cons_append]
  rw [scanMembers_more (skipBlanks_key blank key _) scanned
    (passed.trans (skipBlanks_cons rfl _))]
  simpa using more_read ((some key, value) :: before) rest after ends closed fuel (by omega)

theorem readsAs_object {members : List (Option String × Json)}
    (blank : ∀ char ∈ blanks, isBlank char = true) (members_read : MembersReadAs text members) :
    ReadsAs ('\x7b' :: (text ++ (blanks ++ ['\x7d']))) (.object members) := by
  refine readsAs_of_scan rfl fun rest _ fuel enough => ?_
  simp only [List.length_append, List.length_cons, List.length_nil] at enough
  have closed : skipBlanks (blanks ++ '\x7d' :: rest) = '\x7d' :: rest := by
    rw [skipBlanks_append blank, skipBlanks_cons rfl]
  have scanned := members_read [] (blanks ++ '\x7d' :: rest) rest
    ((endsNumber_cons (.inr (.inr rfl)) rest).append blank) closed fuel (by omega)
  rw [← scanMembers_skipBlanks] at scanned
  simp only [List.append_assoc, List.singleton_append, scanValue]
  split
  next empty => rw [empty, scanMembers_brace] at scanned; cases scanned
  next => rw [scanned]; rfl

end Members

mutual

/-- Every layout of a legible value reads back as the value. -/
theorem Layout.readsAs_write (layout : Layout) (depth : Nat) :
    (json : Json) → json.Legible → ReadsAs (layout.write depth json) json
  | .null, _ => readsAs_null
  | .bool true, _ => readsAs_true
  | .bool false, _ => readsAs_false
  | .integer _, legible => by
    rw [Layout.write]
    exact readsAs_integer legible
  | .real _, legible => by
    rw [Layout.write]
    exact readsAs_real legible
  | .string (some text), _ => by
    rw [Layout.write]
    exact readsAs_string text
  | .array [], _ => readsAs_of_scan rfl fun _ _ _ _ => rfl
  | .array (item :: rest), legible => by
    rw [Layout.write]
    exact readsAs_array (layout.line_blank depth)
      (Layout.readsAs_writeItems layout (depth + 1) (item :: rest) (List.cons_ne_nil _ _) legible)
  | .object [], _ => readsAs_of_scan rfl fun _ _ _ _ => rfl
  | .object (member :: rest), legible => by
    rw [Layout.write]
    exact readsAs_object (layout.line_blank depth)
      (Layout.readsAs_writeMembers layout (depth + 1) (member :: rest) (List.cons_ne_nil _ _)
        legible)

theorem Layout.readsAs_writeItems (layout : Layout) (depth : Nat) :
    (items : List Json) → items ≠ [] → LegibleItems items →
      ItemsReadAs (layout.writeItems depth items) items
  | [item], _, legible => by
    rw [Layout.writeItems]
    exact itemsReadAs_last (layout.line_blank depth)
      (Layout.readsAs_write layout depth item legible.1)
  | item :: next :: rest, _, legible => by
    rw [Layout.writeItems]
    · exact itemsReadAs_cons (layout.line_blank depth)
        (Layout.readsAs_write layout depth item legible.1)
        (Layout.readsAs_writeItems layout depth (next :: rest) (List.cons_ne_nil _ _) legible.2)
    · rintro ⟨⟩

theorem Layout.readsAs_writeMembers (layout : Layout) (depth : Nat) :
    (members : List (Option String × Json)) → members ≠ [] → LegibleMembers members →
      MembersReadAs (layout.writeMembers depth members) members
  | [(some key, value)], _, legible => by
    rw [Layout.writeMembers]
    exact membersReadAs_last (layout.line_blank depth) layout.gap_blank key
      (Layout.readsAs_write layout depth value legible.2.1)
  | (some key, value) :: next :: rest, _, legible => by
    rw [Layout.writeMembers]
    · exact membersReadAs_cons (layout.line_blank depth) layout.gap_blank key
        (Layout.readsAs_write layout depth value legible.2.1)
        (Layout.readsAs_writeMembers layout depth (next :: rest) (List.cons_ne_nil _ _)
          legible.2.2)
    · rintro ⟨⟩

end

theorem ReadsAs.read {text : String} {json : Json} (reads : ReadsAs text.toList json) :
    Json.read text = some json := by
  obtain ⟨left, scanned, passed⟩ :=
    reads [] (by rintro _ ⟨⟩) (2 * text.toList.length + 2) (by omega)
  rw [List.append_nil] at scanned
  have ended : (skipBlanks left).isEmpty = true := by rw [passed]; rfl
  simp only [Json.read, scanned, if_pos ended]

/-- Nothing is lost on one line. -/
theorem read_compact {json : Json} (legible : json.Legible) : read json.compact = some json := by
  refine ReadsAs.read ?_
  rw [compact_toList 0]
  exact Layout.readsAs_write Layout.oneLine 0 json legible

/-- Nothing is lost over several lines. -/
theorem read_pretty {json : Json} (legible : json.Legible) (depth : Nat) :
    read (json.pretty depth) = some json := by
  refine ReadsAs.read ?_
  rw [pretty_toList]
  exact Layout.readsAs_write Layout.indented depth json legible

end Json

end Lowering
