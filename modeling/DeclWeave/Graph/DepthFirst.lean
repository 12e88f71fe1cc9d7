import DeclWeave.Graph.Fresh

/-!
# Depth-First Search

`DepthFirst.trace` searches a finite graph with labelled edges from every node in turn and
records what happens: a node is left once everything reachable from it has been seen, and a back
edge leads to a node that is not left yet, which closes a cycle. The nodes in the order in which
they are left, and the cycles closed, are read off the trace.

Edges to what is no node of the graph are ignored.
-/

namespace DeclWeave.DepthFirst

open DeclWeave.Graph (fresh)

variable {α ε : Type} [DecidableEq α]

/-- What a search records. -/
inductive Event (α ε : Type) where
  /-- An edge from the last node of a path back to its first. -/
  | back (path : List α) (label : ε)
  | leave (node : α)
  deriving Repr

/-- A node that has been entered and the edges of it that are still to be followed. -/
abbrev Frame (α ε : Type) := α × List (α × ε)

/-- The path from an active node to the top of the stack. -/
def pathFrom (x : α) (stack : List (Frame α ε)) : List α :=
  x :: ((stack.map Prod.fst).takeWhile (· ≠ x)).reverse

/-- The edges and nodes on the stack that are still to be dealt with. -/
def pending : List (Frame α ε) → Nat
  | [] => 0
  | (_, edges) :: stack => edges.length + 1 + pending stack

/-- Continues a search: `entered` are the nodes entered so far, `roots` those still to begin
from, and the stack holds the nodes entered and not left, the last first. -/
def traceFrom (nodes : List α) (edges : α → List (α × ε)) (entered roots : List α)
    (stack : List (Frame α ε)) : List (Event α ε) :=
  match roots, stack with
  | [], [] => []
  | root :: roots, [] =>
    if root ∈ fresh nodes entered then
      traceFrom nodes edges (root :: entered) roots [(root, edges root)]
    else traceFrom nodes edges entered roots []
  | roots, (node, []) :: stack => .leave node :: traceFrom nodes edges entered roots stack
  | roots, (node, (next, label) :: rest) :: stack =>
    if next ∈ fresh nodes entered then
      traceFrom nodes edges (next :: entered) roots
        ((next, edges next) :: (node, rest) :: stack)
    else if next ∈ node :: stack.map Prod.fst then
      .back (pathFrom next ((node, rest) :: stack)) label ::
        traceFrom nodes edges entered roots ((node, rest) :: stack)
    else traceFrom nodes edges entered roots ((node, rest) :: stack)
termination_by ((fresh nodes entered).length, roots.length + pending stack)
decreasing_by
  · exact Prod.Lex.left _ _ (Graph.fresh_length_lt_cons ‹_›)
  · exact Prod.Lex.right _ (by simp [pending])
  · exact Prod.Lex.right _ (by simp [pending])
  · exact Prod.Lex.left _ _ (Graph.fresh_length_lt_cons ‹_›)
  · exact Prod.Lex.right _ (by simp [pending])
  · exact Prod.Lex.right _ (by simp [pending])

/-- The record of a whole search, which begins at every node in turn. -/
def trace (nodes : List α) (edges : α → List (α × ε)) : List (Event α ε) :=
  traceFrom nodes edges [] nodes []

/-- The nodes in the order in which a search leaves them: what an edge leads to comes first,
unless it leads back. -/
def leaveOrder (events : List (Event α ε)) : List α :=
  events.filterMap fun
    | .leave node => some node
    | .back _ _ => none

/-- The paths that back edges close, with the labels of these edges. -/
def backEdges (events : List (Event α ε)) : List (List α × ε) :=
  events.filterMap fun
    | .back path label => some (path, label)
    | .leave _ => none

end DeclWeave.DepthFirst
