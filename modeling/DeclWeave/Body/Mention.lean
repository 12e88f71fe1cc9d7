import DeclWeave.Form.Basic

/-!
# Mentions of a Name

A body mentions a name where it stands as a symbol, bare or as a member of the receiver. The
member slot of a `get` or `invoke` on another object is no mention.
-/

namespace DeclWeave.Form

mutual

/-- Whether a body mentions a name. -/
def mentions (name : String) : Form → Bool
  | .atom (.sym s) _ => s == name
  | .atom _ _ => false
  | .seq .square items _ => mentionsAny name items
  | .seq .round (head :: target :: .atom (.sym member) _ :: rest) _ =>
    if head.isSymbol "get" || head.isSymbol "invoke" then
      (target.isSymbol "this" && member == name) || mentions name target || mentionsAny name rest
    else
      mentions name head || mentions name target || member == name || mentionsAny name rest
  | .seq .round items _ => mentionsAny name items

/-- Whether any of some forms mentions a name. -/
def mentionsAny (name : String) : List Form → Bool
  | [] => false
  | f :: fs => mentions name f || mentionsAny name fs

end

end DeclWeave.Form
