/-
  FieldLink.Text.Quoted
  ────────────────────────────────
  **TEXT IN QUOTES.**

  A quoted text stays on one line and shows every character: quotes and
  backslashes are guarded by a backslash, a few controls have a letter of
  their own, and what does not show by itself is written by its code.
-/
import FieldLink.Text.Hidden

namespace FieldLink.Text

/-- A character as it stands in a quoted text. -/
def guarded (c : Char) : List Char :=
  if c = Char.ofNat 0 then ['\\', '0']
  else if c = '\t' then ['\\', 't']
  else if c = '\r' then ['\\', 'r']
  else if c = '\n' then ['\\', 'n']
  else if c = '"' ∨ c = '\\' then ['\\', c]
  else if isHidden c then ['\\', 'u', '\x7b'] ++ Nat.toDigits 16 c.toNat ++ ['\x7d']
  else [c]

/-- A text in quotes. -/
def quoted (text : String) : String :=
  String.ofList ('"' :: text.toList.flatMap guarded ++ ['"'])

end FieldLink.Text
