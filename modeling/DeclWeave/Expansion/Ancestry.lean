import DeclWeave.Forward.Lineage
import DeclWeave.Synthesis.Capability

/-!
# Ancestry

What a type has from the superclasses above it: the names of their members, their capabilities,
and the nearest constructor.
-/

namespace DeclWeave

structure Ancestry where
  names : List String
  capabilities : CapabilitySet
  constructor? : Option Member
  deriving Inhabited

namespace Ancestry

/-- The superclasses of a declaration, the nearest first. -/
def superclasses (scope : TypeScope) (d : TypeDecl) : List TypeDecl :=
  (scope.lineage (fun d _ => d.superclass) [d.name] d.superclass).map (·.1)

/-- What one superclass can do. -/
def capabilitiesOf (d : TypeDecl) : CapabilitySet :=
  (CapabilitySet.declared d.capabilities).union (.infer d.members)

/-- What a declaration inherits. -/
def of (scope : TypeScope) (d : TypeDecl) : Ancestry :=
  let line := superclasses scope d
  { names := line.flatMap fun c => (c.members.filter (!·.isConstructor)).map (·.name)
    capabilities := line.foldl (fun caps c => caps.union (capabilitiesOf c)) .empty
    constructor? := line.findSome? (·.constructor?) }

end Ancestry

end DeclWeave
