import DeclWeave.Form.Basic

/-!
# Printing Forms

A form prints on one line: one blank between the elements of a sequence, none beside brackets.
A string literal is written with escapes for its quotes, backslashes and the three control
characters that have one; everything else stands for itself.
-/

namespace DeclWeave

/-- The written form of a character inside a string literal. -/
def escapeChar (c : Char) : List Char :=
  if c = '"' then ['\\', '"']
  else if c = '\\' then ['\\', '\\']
  else if c = '\n' then ['\\', 'n']
  else if c = '\t' then ['\\', 't']
  else if c = '\r' then ['\\', 'r']
  else [c]

/-- A string literal with its quotes. -/
def quoteChars (text : List Char) : List Char :=
  '"' :: (text.flatMap escapeChar ++ ['"'])

/-- The characters of an atom. -/
def Atom.chars : Atom → List Char
  | .nil => "nil".toList
  | .bool true => "true".toList
  | .bool false => "false".toList
  | .int n => Decimal.integerChars n
  | .float x => Decimal.literalNumber.write x
  | .str text => quoteChars text.toList
  | .sym name => name.toList
  | .keyword name => ':' :: name.toList

namespace Form

mutual

/-- The characters of a form, on one line. -/
def chars : Form → List Char
  | .atom a _ => a.chars
  | .seq b items _ => b.openChar :: (charsOfAll items ++ [b.closeChar])

/-- The characters of some forms with a blank between each two. -/
def charsOfAll : List Form → List Char
  | [] => []
  | [f] => f.chars
  | f :: g :: rest => f.chars ++ ' ' :: charsOfAll (g :: rest)

end

/-- The text of a form, on one line. -/
def text (f : Form) : String :=
  String.ofList f.chars

mutual

/-- Spans do not show in print. -/
theorem chars_respan (s : Span) : ∀ f : Form, (f.respan s).chars = f.chars
  | .atom _ _ => rfl
  | .seq _ items _ => by rw [respan, chars, chars, charsOfAll_respanAll s items]

theorem charsOfAll_respanAll (s : Span) :
    ∀ fs : List Form, charsOfAll (respanAll s fs) = charsOfAll fs
  | [] => rfl
  | [f] => by simp only [respanAll, charsOfAll, chars_respan s f]
  | f :: g :: rest => by
    have ih := charsOfAll_respanAll s (g :: rest)
    simp only [respanAll] at ih ⊢
    simp only [charsOfAll, chars_respan s f, ih]

end

theorem text_respan (s : Span) (f : Form) : (f.respan s).text = f.text := by
  simp only [text, chars_respan]

end Form

end DeclWeave
