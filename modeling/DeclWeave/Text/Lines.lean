/-!
# Lines of a Text

A line ends at a line feed; a carriage return directly before the line feed belongs to the
ending. A carriage return at the very end of the text, with no line feed after it, is text.
-/

namespace DeclWeave.Text

/-- What is left of a line once its ending is taken off. The flag says whether a line feed
followed the line: only then is a carriage return at its end part of the ending. -/
def withoutReturn (ended : Bool) (line : List Char) : List Char :=
  if ended && line.getLast? == some '\r' then line.dropLast else line

/-- Line number `n` of a text, counted from zero, without its ending; empty past the last. -/
def lineAt : Nat → List Char → List Char
  | 0, cs => withoutReturn (cs.contains '\n') (cs.takeWhile (· != '\n'))
  | n + 1, cs => lineAt n ((cs.dropWhile (· != '\n')).drop 1)

/-- A line never holds a line feed. -/
theorem newline_not_mem_lineAt (n : Nat) (cs : List Char) : '\n' ∉ lineAt n cs := by
  induction n generalizing cs with
  | zero =>
    have hline : '\n' ∉ cs.takeWhile (· != '\n') := by
      intro h
      have := List.all_eq_true.1 List.all_takeWhile _ h
      simp at this
    unfold lineAt withoutReturn
    split
    · exact fun h => hline (List.dropLast_subset _ h)
    · exact hline
  | succ n ih => exact ih _

end DeclWeave.Text
