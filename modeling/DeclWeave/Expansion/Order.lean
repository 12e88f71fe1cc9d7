import DeclWeave.Decl.TypeDecl
import DeclWeave.Graph.DepthFirst

/-!
# Dependency Order

A type is expanded after the types it builds on. Its superclass and interfaces are strong
dependencies: they must come first, and a circle of them is a fault. The type of a forwarding
member is a weak one: it comes first where that closes no circle.
-/

namespace DeclWeave

/-- How firmly a type depends on another. -/
inductive Dependency where
  | strong
  | weak
  deriving DecidableEq, Repr, Inhabited

namespace TypeDecl

/-- The types of the members that forward. -/
def delegateTypes (d : TypeDecl) : List TypeRef :=
  d.members.filterMap fun m => if m.forwardRequest?.isSome then m.type else none

/-- The names that a declaration depends on, in the order in which they are followed. -/
def dependencies (d : TypeDecl) : List (String × Dependency) :=
  d.supertypes.map (fun r => (r.name, .strong)) ++ d.delegateTypes.map fun r => (r.name, .weak)

end TypeDecl

namespace Order

/-- The dependencies of a name, as the first declaration of that name states them. -/
def edges (types : List TypeDecl) (name : String) : List (String × Dependency) :=
  match types.find? (·.name == name) with
  | some d => d.dependencies
  | none => []

/-- The search through the dependencies of some types with distinct names. -/
def search (types : List TypeDecl) : List (DepthFirst.Event String Dependency) :=
  DepthFirst.trace (types.map (·.name)) (edges types)

/-- The types in an order in which they can be expanded. -/
def sorted (types : List TypeDecl) : List TypeDecl :=
  (DepthFirst.leaveOrder (search types)).filterMap fun name => types.find? (·.name == name)

/-- The types on a circle that a strong dependency closes, in source order. -/
def cyclic (types : List TypeDecl) : List TypeDecl :=
  let closed := (DepthFirst.backEdges (search types)).filter (·.2 == .strong)
  types.filter fun d => closed.any (·.1.contains d.name)

end Order

end DeclWeave
