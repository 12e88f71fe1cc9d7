import DeclWeave.Decl.TypeDecl

/-!
# Printing Declarations

A member prints as one form on one line. A declaration prints its head, each option and each
member on lines of their own; above a member that was not written by hand a comment line says
where it came from and how its property is reached. Except for that layout, the text of a
declaration is the text of its form, and it is meant to read back as the same declaration without
its directives.
-/

namespace DeclWeave

namespace Param

/-- A parameter as a form. -/
def toForm (p : Param) : Form :=
  match p.type with
  | some type => .vector [.sym p.name {}, type.toForm {}] {}
  | none => .sym p.name {}

end Param

namespace Access

def noteName : Access → String
  | .plain => "default"
  | .accessor => "accessor"
  | .never => "never"

end Access

namespace Storage

def noteName : Storage → String
  | .physical => "physical"
  | .none => "none"
  | .retained => "retained"

end Storage

namespace Origin

/-- How a note names the origin; what was written by hand needs none. -/
def noteName? : Origin → Option String
  | .explicit => none
  | .inherited => some "inherited"
  | .synthesized => some "synthesized"
  | .spliced => some "spliced"

end Origin

namespace PropertyAccess

def note (p : PropertyAccess) : String :=
  s!"property read={p.read.noteName} write={p.write.noteName} storage={p.storage.noteName}"

end PropertyAccess

namespace Member

/-- The comment above a member, without its semicolon. -/
def note? (m : Member) : Option String :=
  match m.origin.noteName?, m.property.map (·.note) with
  | none, property => property
  | some origin, none => some origin
  | some origin, some property => some (origin ++ ", " ++ property)

/-- The forms that open a member: its kind, and what names it. -/
def headForms (m : Member) : List Form :=
  if m.isConstructor then
    [.sym "constructor:" {}, .vector (m.signature.params.map (·.toForm)) {}]
  else if m.isField then
    [.sym "field:" {}, .sym m.name {}]
  else
    [.sym "method:" {}, .sym m.name {}, .vector (m.signature.params.map (·.toForm)) {}]

/-- The options of a member. -/
def optionForms (m : Member) : List Form :=
  let type := match m.type with
    | some t => [.keyword (if m.isField then "type" else "returns") {}, t.toForm {}]
    | none => []
  let visibility : List Form := match m.visibility with
    | some .exported => [.keyword "public" {}, .bool true {}]
    | some .hidden => [.keyword "private" {}, .bool true {}]
    | none => []
  let inlined : List Form := if m.inlined then [.keyword "inline" {}, .bool true {}] else []
  type ++ visibility ++ inlined

/-- The forms of a body. The block of a constructor is written as its statements. -/
def bodyForms (m : Member) : List Form :=
  match m.body with
  | none => []
  | some (.list (.sym "do" s :: statements) t) =>
    if m.name == constructorName then statements else [.list (.sym "do" s :: statements) t]
  | some body => [body]

/-- A member as a form. Directives are not written. -/
def toForm (m : Member) : Form :=
  .list (m.headForms ++ m.optionForms ++ m.bodyForms) {}

end Member

/-- How a declaration is laid out. -/
structure PrintLayout where
  /-- The number of blanks before an option or member. -/
  indent : Nat := 2
  /-- Whether notes stand above members. -/
  annotate : Bool := true
  deriving DecidableEq, Repr, Inhabited

namespace TypeKind

def headWord : TypeKind → String
  | .classType => "class:"
  | .interfaceType => "interface:"

end TypeKind

namespace TypeDecl

/-- The options of a type, each with its value. -/
def optionForms (d : TypeDecl) : List (List Form) :=
  let params : List (List Form) :=
    if d.typeParams.isEmpty then []
    else [[.keyword "params" {}, .vector (d.typeParams.map (.sym · {})) {}]]
  let superclass : List (List Form) := match d.superclass with
    | some r => [[.keyword "extends" {}, r.toForm {}]]
    | none => []
  let interfaces : List (List Form) :=
    if d.interfaces.isEmpty then []
    else [[.keyword "implements" {}, .vector (d.interfaces.map (·.toForm {})) {}]]
  params ++ superclass ++ interfaces

/-- A declaration as a form. Its flags, used names and capabilities are not written. -/
def toForm (d : TypeDecl) : Form :=
  .list ([.sym d.kind.headWord {}, .sym d.name {}] ++ d.optionForms.flatten ++
    d.members.map (·.toForm)) {}

/-- The line of a note, and the line of its member. -/
def memberLines (layout : PrintLayout) (m : Member) : List (List Char) :=
  let margin := List.replicate layout.indent ' '
  let note := match m.note? with
    | some text => if layout.annotate then [margin ++ "; ".toList ++ text.toList] else []
    | none => []
  note ++ [margin ++ m.toForm.chars]

/-- The lines of a declaration, the closing bracket left out. -/
def lines (layout : PrintLayout) (d : TypeDecl) : List (List Char) :=
  let margin := List.replicate layout.indent ' '
  let head := '(' :: Form.charsOfAll [.sym d.kind.headWord {}, .sym d.name {}]
  head :: d.optionForms.map (fun option => margin ++ Form.charsOfAll option) ++
    d.members.flatMap (memberLines layout)

/-- The text of a declaration. -/
def print (layout : PrintLayout) (d : TypeDecl) : String :=
  String.ofList (['\n'].intercalate (d.lines layout) ++ [')'])

end TypeDecl

namespace SourceUnit

/-- The text of a unit in the usual layout, an empty line between declarations. -/
def print (u : SourceUnit) : String :=
  "\n\n".intercalate (u.types.map (·.print {}))

end SourceUnit

end DeclWeave
