import DeclWeave.Decl.TypeRef

/-!
# Substitution in Bodies

Two substitutions put something in the place of symbols: `substituteTypes` gives type parameters
their arguments, and `Template.fill` makes a forwarding body out of a template.
-/

namespace DeclWeave

namespace Form

mutual

/-- Puts the arguments of `b` in the place of its parameters, wherever they stand as symbols. -/
def substituteTypes (b : Bindings) : Form → Form
  | .atom (.sym name) s =>
    match b.find? name with
    | some type => type.toForm s
    | none => .sym name s
  | .atom a s => .atom a s
  | .seq bracket items s => .seq bracket (substituteTypesAll b items) s

/-- Substitutes in some forms. -/
def substituteTypesAll (b : Bindings) : List Form → List Form
  | [] => []
  | f :: fs => substituteTypes b f :: substituteTypesAll b fs

end

end Form

/-- What the variables of a template stand for: `$name` for the name of the member forwarded to,
`$delegate` for the object forwarded to, and `$args` for the arguments. -/
structure Template where
  name : String
  delegate : Form
  args : List Form

namespace Template

def nameVariable : String := "$name"
def delegateVariable : String := "$delegate"
def argsVariable : String := "$args"

mutual

/-- Fills a template. The arguments make a vector, but as an element of a list they are spliced
into it. -/
def fill (t : Template) : Form → Form
  | .atom (.sym name) s =>
    if name = nameVariable then .str t.name s
    else if name = delegateVariable then t.delegate
    else if name = argsVariable then .vector t.args s
    else .sym name s
  | .atom a s => .atom a s
  | .seq .round items s => .list (fillSpliced t items) s
  | .seq .square items s => .vector (fillAll t items) s

/-- Fills each of some forms. -/
def fillAll (t : Template) : List Form → List Form
  | [] => []
  | f :: fs => fill t f :: fillAll t fs

/-- Fills the elements of a list, splicing in the arguments. -/
def fillSpliced (t : Template) : List Form → List Form
  | [] => []
  | f :: fs =>
    if f.isSymbol argsVariable then t.args ++ fillSpliced t fs
    else fill t f :: fillSpliced t fs

end

end Template

end DeclWeave
