import DeclWeave.Decl.TypeDecl
import DeclWeave.Graph.Fresh

/-!
# Lines of Descent

A line of descent starts at a type reference and climbs from each declaration to its superclass.
It ends at a name that is not declared, or that it has met before.
-/

namespace DeclWeave

open DeclWeave.Graph (fresh)

/-- Declarations that names are looked up in; the first of a name counts. -/
abbrev TypeScope := List TypeDecl

namespace TypeScope

def find? (scope : TypeScope) (name : String) : Option TypeDecl :=
  List.find? (·.name == name) scope

theorem mem_names_of_find? {scope : TypeScope} {name : String} {d : TypeDecl}
    (h : scope.find? name = some d) : name ∈ scope.map (·.name) := by
  have hname := List.find?_some h
  simp only [beq_iff_eq] at hname
  exact hname ▸ List.mem_map_of_mem (List.mem_of_find?_eq_some h)

/-- The declarations on a line of descent, each with the reference that led to it. `above` gives
the reference to climb to from a declaration that was reached by a reference, and `seen` holds the
names that end the line. -/
def lineage (scope : TypeScope) (above : TypeDecl → TypeRef → Option TypeRef)
    (seen : List String) (start : Option TypeRef) : List (TypeDecl × TypeRef) :=
  match start with
  | none => []
  | some ref =>
    match _h : scope.find? ref.name with
    | none => []
    | some d =>
      if _hs : ref.name ∈ seen then []
      else (d, ref) :: scope.lineage above (ref.name :: seen) (above d ref)
termination_by (fresh (scope.map (·.name)) seen).length
decreasing_by
  exact Graph.fresh_length_lt_cons (Graph.mem_fresh.2 ⟨mem_names_of_find? _h, _hs⟩)

end TypeScope

end DeclWeave
