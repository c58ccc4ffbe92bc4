import Lowering.Json.Reader
import Lowering.Json.Writer

/-
This file writes a JSON value with blanks between its parts.
The two forms of a text are layouts, so a reader that passes over blanks reads both.
-/

namespace Lowering

namespace Json

/-- A layout says which blanks stand before an item or a closing bracket and after a colon. -/
structure Layout where
  line : Nat → List Char
  gap : List Char
  line_blank : ∀ depth, ∀ char ∈ line depth, isBlank char = true
  gap_blank : ∀ char ∈ gap, isBlank char = true

namespace Layout

mutual

/-- These are the characters of a value at the given depth. -/
def write (layout : Layout) (depth : Nat) : Json → List Char
  | .null => ['n', 'u', 'l', 'l']
  | .bool true => ['t', 'r', 'u', 'e']
  | .bool false => ['f', 'a', 'l', 's', 'e']
  | .integer value => (toString value).toList
  | .real value => (writeReal value).toList
  | .string value => (writeText value).toList
  | .array [] => ['[', ']']
  | .array (item :: rest) =>
    '[' :: (writeItems layout (depth + 1) (item :: rest) ++ (layout.line depth ++ [']']))
  | .object [] => ['\x7b', '\x7d']
  | .object (member :: rest) =>
    '\x7b' :: (writeMembers layout (depth + 1) (member :: rest) ++ (layout.line depth ++ ['\x7d']))

def writeItems (layout : Layout) (depth : Nat) : List Json → List Char
  | [] => []
  | [item] => layout.line depth ++ write layout depth item
  | item :: rest =>
    layout.line depth ++ (write layout depth item ++ ',' :: writeItems layout depth rest)

def writeMembers (layout : Layout) (depth : Nat) : List (Option String × Json) → List Char
  | [] => []
  | [(key, value)] =>
    layout.line depth ++ ((writeText key).toList ++ ':' :: (layout.gap ++ write layout depth value))
  | (key, value) :: rest =>
    layout.line depth ++ ((writeText key).toList ++
      ':' :: (layout.gap ++ (write layout depth value ++ ',' :: writeMembers layout depth rest)))

end

/-- Everything stands on one line. -/
def oneLine : Layout where
  line _ := []
  gap := []
  line_blank := by simp
  gap_blank := by simp

/-- Every item stands on a line of its own. -/
def indented : Layout where
  line depth := (indent depth).toList
  gap := [' ']
  line_blank := by
    intro depth char within
    rw [indent, String.toList_ofList, List.mem_cons, List.mem_replicate] at within
    obtain rfl | ⟨-, rfl⟩ := within <;> rfl
  gap_blank := by simp [isBlank]

end Layout

mutual

theorem compact_toList (depth : Nat) :
    (json : Json) → json.compact.toList = Layout.oneLine.write depth json
  | .null => by simp [compact, Layout.write]
  | .bool true => by simp [compact, Layout.write]
  | .bool false => by simp [compact, Layout.write]
  | .integer value => by simp [compact, Layout.write]
  | .real value => by simp [compact, Layout.write]
  | .string value => by simp [compact, Layout.write]
  | .array [] => by simp [compact, compactItems, Layout.write]
  | .array (item :: rest) => by
    simp [compact, Layout.write, Layout.oneLine, compactItems_toList (depth + 1) (item :: rest)]
  | .object [] => by simp [compact, compactMembers, Layout.write]
  | .object (member :: rest) => by
    simp [compact, Layout.write, Layout.oneLine,
      compactMembers_toList (depth + 1) (member :: rest)]

theorem compactItems_toList (depth : Nat) :
    (items : List Json) → (compactItems items).toList = Layout.oneLine.writeItems depth items
  | [] => by simp [compactItems, Layout.writeItems]
  | [item] => by
    simp [compactItems, Layout.writeItems, Layout.oneLine, compact_toList depth item]
  | item :: next :: rest => by
    simp [compactItems, Layout.writeItems, Layout.oneLine, compact_toList depth item,
      compactItems_toList depth (next :: rest)]

theorem compactMembers_toList (depth : Nat) : (members : List (Option String × Json)) →
    (compactMembers members).toList = Layout.oneLine.writeMembers depth members
  | [] => by simp [compactMembers, Layout.writeMembers]
  | [(key, value)] => by
    simp [compactMembers, Layout.writeMembers, Layout.oneLine, compact_toList depth value]
  | (key, value) :: next :: rest => by
    simp [compactMembers, Layout.writeMembers, Layout.oneLine, compact_toList depth value,
      compactMembers_toList depth (next :: rest)]

end

mutual

theorem pretty_toList (depth : Nat) :
    (json : Json) → (json.pretty depth).toList = Layout.indented.write depth json
  | .null => by simp [pretty, Layout.write]
  | .bool true => by simp [pretty, Layout.write]
  | .bool false => by simp [pretty, Layout.write]
  | .integer value => by simp [pretty, Layout.write]
  | .real value => by simp [pretty, Layout.write]
  | .string value => by simp [pretty, Layout.write]
  | .array [] => by simp [pretty, Layout.write]
  | .array (item :: rest) => by
    simp [pretty, Layout.write, Layout.indented, prettyItems_toList (depth + 1) (item :: rest)]
  | .object [] => by simp [pretty, Layout.write]
  | .object (member :: rest) => by
    simp [pretty, Layout.write, Layout.indented,
      prettyMembers_toList (depth + 1) (member :: rest)]

theorem prettyItems_toList (depth : Nat) : (items : List Json) →
    (prettyItems depth items).toList = Layout.indented.writeItems depth items
  | [] => by simp [prettyItems, Layout.writeItems]
  | [item] => by
    simp [prettyItems, Layout.writeItems, Layout.indented, pretty_toList depth item]
  | item :: next :: rest => by
    simp [prettyItems, Layout.writeItems, Layout.indented, pretty_toList depth item,
      prettyItems_toList depth (next :: rest)]

theorem prettyMembers_toList (depth : Nat) : (members : List (Option String × Json)) →
    (prettyMembers depth members).toList = Layout.indented.writeMembers depth members
  | [] => by simp [prettyMembers, Layout.writeMembers]
  | [(key, value)] => by
    simp [prettyMembers, Layout.writeMembers, Layout.indented, pretty_toList depth value]
  | (key, value) :: next :: rest => by
    simp [prettyMembers, Layout.writeMembers, Layout.indented, pretty_toList depth value,
      prettyMembers_toList depth (next :: rest)]

end

end Json

end Lowering
