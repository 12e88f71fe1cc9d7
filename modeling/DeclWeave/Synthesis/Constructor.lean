import DeclWeave.Weave.Splice

/-!
# Constructors

Fields bound from constructor parameters, and the initializers of spliced fields, become
statements at the start of the constructor:

    (constructor: [<inherited parameters> <bound fields>]
      (super ...)                 ; stays first
      (set! (get this a) a)       ; bound fields
      (set! (get this b) init)    ; spliced fields
      ...)                        ; what was written by hand

A constructor is made only when there is something for it to do.
-/

namespace DeclWeave

/-- A field bound from the constructor parameter of its name. -/
structure DirectInit where
  field : String
  type : Option TypeRef
  deriving Repr, Inhabited

namespace DirectInit

def ofField (m : Member) : DirectInit :=
  ⟨m.name, m.type⟩

def param (d : DirectInit) : Param :=
  ⟨d.field, d.type⟩

/-- The assignment that binds the field. -/
def statement (d : DirectInit) (s : Span) : Form :=
  .assign (.getOfThis d.field s) (.sym d.field s) s

end DirectInit

namespace Member

/-- The statements of a constructor's body. -/
def statements (m : Member) : List Form :=
  match m.body with
  | some (.list (.sym "do" _ :: rest) _) => rest
  | some body => [body]
  | none => []

/-- Splits off the call of the inherited constructor, if the statements begin with it. -/
def splitSuper (statements : List Form) : List Form × List Form :=
  match statements with
  | first :: rest => if first.head? = some "super" then ([first], rest) else ([], first :: rest)
  | [] => ([], [])

/-- Adds the parameters that bound fields need and are not there. -/
def addParams (params : List Param) (direct : List DirectInit) : List Param :=
  direct.foldl
    (fun params d => if params.any (·.name == d.field) then params else params ++ [d.param])
    params

/-- Puts initializations at the start of a constructor, after the call of the inherited one. -/
def withInits (m : Member) (direct : List DirectInit) (defaults : List DefaultInit) : Member :=
  let (first, written) := splitSuper m.statements
  let inits := direct.map (·.statement m.span) ++ defaults.map (·.statement m.span)
  { m with
    signature := { m.signature with params := addParams m.signature.params direct }
    body := some (.call "do" (first ++ inits ++ written) m.span) }

/-- A constructor that passes the parameters of the inherited one on to it. -/
def derivedConstructor (s : Span) (inherited : Option Member) : Member :=
  let params := (inherited.map (·.signature.params)).getD []
  let call : List Form :=
    if params.isEmpty then [] else [.call "super" (params.map (.sym ·.name s)) s]
  { bareMethod constructorName params s with
    body := some (.call "do" call s)
    origin := .synthesized }

end Member

namespace TypeDecl

/-- Finishes the constructor of a declaration; `inherited` is that of the nearest ancestor. The
flag says whether there was anything to do. -/
def finishConstructor (d : TypeDecl) (direct : List DirectInit) (defaults : List DefaultInit)
    (inherited : Option Member) : TypeDecl × Bool :=
  if direct.isEmpty && defaults.isEmpty then (d, false)
  else
    match d.constructor? with
    | some _ => (d.modifyMember constructorName (·.withInits direct defaults), true)
    | none =>
      let made := ((Member.derivedConstructor d.span inherited).withInits direct defaults).publish
      ({ d with members := d.members ++ [made] }, true)

end TypeDecl

end DeclWeave
