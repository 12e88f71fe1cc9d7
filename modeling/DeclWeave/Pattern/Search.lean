import DeclWeave.Pattern.Assembly

/-!
# Searching for Patterns

A pattern is compiled to an automaton that searches for it. Where the pattern stands for a few
short texts only, these will do: it may then be as heavy as it likes, for instance because it
repeats something that matches nothing, and the automaton of its texts takes its place.
-/

namespace DeclWeave.Pattern

/-- Whether a pattern has neither groups with numbers nor assertions. -/
def isPlain : Pattern → Bool
  | .assertion _ => false
  | .repetition p _ _ _ => p.isPlain
  | .group _ _ => false
  | .seq p q => p.isPlain && q.isPlain
  | .alt p q => p.isPlain && q.isPlain
  | _ => true

/-- Texts, if they are few and none is longer than a hundred bytes. -/
def fewTexts? (texts : List (List Char)) : Option (List (List Char)) :=
  if texts.length ≤ 250 && texts.all fun t => (Text.utf8 t).length ≤ 100 then some texts else none

/-- Texts that begin and end with given ones, if they are few and short. -/
def joinedTexts? (starts ends : List (List Char)) : Option (List (List Char)) :=
  if starts.length * ends.length ≤ 250 then
    fewTexts? (starts.flatMap fun s => ends.map (s ++ ·))
  else none

/-- Texts that consist of a number of given ones, if they are few and short. -/
def repeatedTexts? (texts : List (List Char)) : Nat → Option (List (List Char))
  | 0 => some [[]]
  | n + 1 => do joinedTexts? (← repeatedTexts? texts n) texts

/-- The texts that a plain pattern stands for, if they are few and short. -/
def texts? : Pattern → Option (List (List Char))
  | .empty => some [[]]
  | .literal text => fewTexts? [text]
  | .set s => if s.size ≤ 10 then some (s.toList.map ([·])) else none
  | .assertion _ => none
  | .repetition p least most _ => do
    let texts ← p.texts?
    if texts.isEmpty then some (if least = 0 then [[]] else [])
    else if least = 0 && most == some 1 then fewTexts? (texts ++ [[]])
    else if some least == most && least ≤ 10 then repeatedTexts? texts least
    else none
  | .group _ _ => none
  | .seq p q => do
    let starts ← p.texts?
    if starts.isEmpty then some [] else joinedTexts? starts (← q.texts?)
  | .alt p q => do fewTexts? ((← p.texts?) ++ (← q.texts?))

/-- The choice between the texts that a pattern stands for, if it stands for a few short texts,
none of them empty. -/
def asTexts? (p : Pattern) : Option Pattern := do
  let texts ← if p.isPlain then p.texts? else none
  if texts.isEmpty || texts.any List.isEmpty then none
  else some (alternatives (texts.map .literal))

/-- The automaton that searches for a pattern, unless the pattern is too heavy. -/
def compile? (p : Pattern) : Option Automaton :=
  p.assembled? <|> (p.asTexts? >>= assembled?)

end DeclWeave.Pattern
