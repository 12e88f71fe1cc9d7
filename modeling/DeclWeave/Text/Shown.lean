import DeclWeave.Text.Visible

/-!
# Text Shown in Messages

`shown` writes a text between quotes so that every character of it can be told: a quote and a
backslash with a backslash before them, control characters with a letter of their own by that
letter, and all others that are not visible by their code point.
-/

namespace DeclWeave.Text

/-- The small hexadecimal digits of a number. -/
def hexDigits (n : Nat) : List Char :=
  Nat.toDigits 16 n

/-- How a character is shown. -/
def shownChar (c : Char) : List Char :=
  if c = '"' || c = '\\' then ['\\', c]
  else if c = '\t' then ['\\', 't']
  else if c = '\r' then ['\\', 'r']
  else if c = '\n' then ['\\', 'n']
  else if c.toNat = 0 then ['\\', '0']
  else if isVisible c then [c]
  else '\\' :: 'u' :: '{' :: (hexDigits c.toNat ++ ['}'])

/-- A text between quotes, every character of it recognizable. -/
def shown (text : String) : String :=
  String.ofList ('"' :: (text.toList.flatMap shownChar ++ ['"']))

end DeclWeave.Text
