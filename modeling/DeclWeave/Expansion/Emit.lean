import DeclWeave.Body.TailReturn
import DeclWeave.Decl.TypeDecl

/-!
# Emission

The finished form of a plan: directives are consumed, templates gone, shields taken off and every
visibility settled. An interface keeps signatures only: no bodies and no hidden members.
-/

namespace DeclWeave

namespace Member

/-- A member of a finished plan. -/
def emit (onInterface : Bool) (m : Member) : Member :=
  { m with
    directives := []
    body := if onInterface then none else m.body.map (·.stripShields)
    visibility := some (m.visibility.getD .exported) }

end Member

namespace TypeDecl

/-- Whether a member stands in the finished plan. -/
def keeps (d : TypeDecl) (m : Member) : Bool :=
  !m.isTemplate && !(d.isInterface && m.visibility == some .hidden)

/-- The finished plan of a declaration. -/
def emit (d : TypeDecl) : TypeDecl :=
  { d with members := (d.members.filter d.keeps).map (·.emit d.isInterface) }

end TypeDecl

end DeclWeave
