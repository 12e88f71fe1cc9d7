import DeclWeave.Form.Printer

/-!
# Walks over Forms

Depth-first walks, a form before its elements: every node with its depth, and every symbol.
-/

namespace DeclWeave

namespace Form

mutual

/-- The form itself at the given depth, then everything below it. -/
def nodesAt (depth : Nat) : Form → List (Nat × Form)
  | .atom a s => [(depth, .atom a s)]
  | .seq b items s => (depth, .seq b items s) :: nodesOfAll (depth + 1) items

/-- The nodes of some forms, one form after the other. -/
def nodesOfAll (depth : Nat) : List Form → List (Nat × Form)
  | [] => []
  | f :: fs => nodesAt depth f ++ nodesOfAll depth fs

end

/-- Every node of a form with its depth, parents first. -/
def nodes (f : Form) : List (Nat × Form) :=
  nodesAt 0 f

/-- Every symbol of a form, in the order in which they stand. -/
def symbols (f : Form) : List String :=
  f.nodes.filterMap (·.2.symbol?)

/-- What distinguishes a node from others of its kind: the number of elements of a sequence, the
content of a string literal, symbol or keyword, and otherwise the printed atom. -/
def nodeText : Form → String
  | .atom (.str text) _ => text
  | .atom (.sym name) _ => name
  | .atom (.keyword name) _ => name
  | .atom a _ => String.ofList a.chars
  | .seq _ items _ => String.ofList (Decimal.digitsOf items.length)

/-- The span from the first of some forms to the last; the start of the text if there is none. -/
def coveringSpan (fs : List Form) : Span :=
  match fs.head?, fs.getLast? with
  | some first, some last => first.span.cover last.span
  | _, _ => .atStart

end Form

end DeclWeave
