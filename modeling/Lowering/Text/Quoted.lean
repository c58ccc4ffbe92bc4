import Lowering.Text.Printing

/-
This file writes a text as a quoted literal on one line of a listing.
-/

namespace Lowering

namespace Text

/-- A code point is written in lower-case hexadecimal between braces. -/
def bracedHex (code : Nat) : List Char :=
  "\\u\x7b".toList ++ Nat.toDigits 16 code ++ ['\x7d']

/-- A character that could be overlooked in a listing is written by its code point. -/
def escape (char : Char) : List Char :=
  if char = '"' then ['\\', '"']
  else if char = '\\' then ['\\', '\\']
  else if char = '\n' then ['\\', 'n']
  else if char = '\r' then ['\\', 'r']
  else if char = '\t' then ['\\', 't']
  else if char.toNat = 0 then ['\\', '0']
  else if ' ' ≤ char ∧ char < '\x7f' then [char]
  else if extendsGrapheme char || !isPrinting char then bracedHex char.toNat
  else [char]

def quoted (text : String) : String :=
  String.ofList ('"' :: text.toList.flatMap escape ++ ['"'])

/-- A visible ASCII character other than the quote and the backslash stands for itself. -/
theorem escape_visible (char : Char) (notQuote : char ≠ '"') (notBackslash : char ≠ '\\')
    (visible : ' ' ≤ char ∧ char < '\x7f') : escape char = [char] := by
  have apart (other : Char) (control : other < ' ') : char ≠ other := by
    rintro rfl
    exact absurd control (Char.not_lt.mpr visible.1)
  have positive : char.toNat ≠ 0 := by
    intro zero
    have : ' '.toNat ≤ char.toNat := visible.1
    rw [zero] at this
    exact absurd this (by decide)
  simp [escape, notQuote, notBackslash, apart '\n' (by decide), apart '\r' (by decide),
    apart '\t' (by decide), positive, visible]

end Text

end Lowering
