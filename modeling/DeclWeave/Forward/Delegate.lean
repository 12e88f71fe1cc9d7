import DeclWeave.Forward.Lineage

/-!
# Delegates

A member can be forwarded to a delegate: a type with its ancestors, the type arguments bound all
the way up. The candidates of a delegate are the members that may be forwarded to, the type's own
first; a member that a lower layer declares hides those of its name above, even when it cannot be
forwarded to itself.
-/

namespace DeclWeave

/-- One declaration of a delegate. -/
structure Layer where
  decl : TypeDecl
  bindings : Bindings
  /-- Whether the declaration is still as written, its directives not yet expanded. -/
  pending : Bool := false
  deriving Inhabited

/-- A member that may be forwarded to. -/
structure Candidate where
  member : Member
  /-- The name of the type that declares it. -/
  origin : String
  bindings : Bindings
  pending : Bool
  deriving Inhabited

/-- A type with its ancestors, the type itself first. -/
structure Delegate where
  layers : List Layer
  deriving Inhabited

namespace Delegate

/-- The superclass of a declaration as seen through a reference to it. -/
def superclassThrough (d : TypeDecl) (r : TypeRef) : Option TypeRef :=
  d.superclass.map (·.substitute (d.bindingsFor r))

/-- The delegate that a reference means, unless its type is unknown. -/
def resolve? (scope : TypeScope) (r : TypeRef) : Option Delegate :=
  match scope.lineage superclassThrough [] (some r) with
  | [] => none
  | line => some ⟨line.map fun (d, r) => { decl := d, bindings := d.bindingsFor r }⟩

/-- Marks the layers whose declarations are still as written. -/
def markPending (d : Delegate) (isPending : TypeDecl → Bool) : Delegate :=
  ⟨d.layers.map fun layer => { layer with pending := isPending layer.decl }⟩

/-- The name of the delegate's type. -/
def name (d : Delegate) : String :=
  (d.layers.head?.map (·.decl.name)).getD ""

/-- Whether a member may be forwarded to. -/
def isForwardable (m : Member) : Bool :=
  m.visibility != some .hidden && !m.isConstructor && m.accessorFor.isNone && !m.isTemplate

/-- The members of some layers with the first of each name only. -/
def visibleMembers (seen : List String) : List Candidate → List Candidate
  | [] => []
  | c :: rest =>
    if seen.contains c.member.name then visibleMembers seen rest
    else c :: visibleMembers (c.member.name :: seen) rest

/-- The members that may be forwarded to. -/
def candidates (d : Delegate) : List Candidate :=
  let all := d.layers.flatMap fun layer =>
    layer.decl.members.map fun member =>
      { member, origin := layer.decl.name, bindings := layer.bindings, pending := layer.pending }
  (visibleMembers [] all).filter (isForwardable ·.member)

end Delegate

end DeclWeave
