import DeclWeave.Document.Basic
import DeclWeave.Expansion.Basic

/-!
# The Document of an Expansion

Plans and findings as one document for other programs to read. A choice between several forms is
an object with a single field named for the form; a choice that carries nothing is its name.
-/

namespace DeclWeave

namespace Span

def toDocument (s : Span) : Document :=
  .object [("start", .nat s.start), ("end", .nat s.stop), ("line", .nat s.line),
    ("column", .nat s.column)]

end Span

namespace Atom

/-- The name of the kind of an atom and, unless it carries nothing, its value. -/
def toDocument : Atom → String × Option Document
  | .nil => ("Nil", none)
  | .bool value => ("Bool", some (.bool value))
  | .int value => ("Int", some (.int value))
  | .float value => ("Float", some (.float value))
  | .str value => ("String", some (.text value))
  | .sym value => ("Symbol", some (.text value))
  | .keyword value => ("Keyword", some (.text value))

end Atom

namespace Form

mutual

def toDocument : Form → Document
  | .atom a s =>
    match a.toDocument with
    | (kind, some value) => .tagged kind (.array [value, s.toDocument])
    | (kind, none) => .tagged kind s.toDocument
  | .seq .round items s => .tagged "List" (.array [.array (toDocuments items), s.toDocument])
  | .seq .square items s => .tagged "Vector" (.array [.array (toDocuments items), s.toDocument])

/-- The documents of some forms. -/
def toDocuments : List Form → List Document
  | [] => []
  | f :: fs => toDocument f :: toDocuments fs

end

end Form

namespace TypeRef

mutual

def toDocument : TypeRef → Document
  | ⟨name, args⟩ => .object [("name", .text name), ("args", .array (toDocuments args))]

/-- The documents of some references. -/
def toDocuments : List TypeRef → List Document
  | [] => []
  | t :: ts => toDocument t :: toDocuments ts

end

end TypeRef

namespace Signature

def toDocument (s : Signature) : Document :=
  let param (p : Param) : Document :=
    .object [("name", .text p.name), ("ty", .optional TypeRef.toDocument p.type)]
  .object [("params", .array (s.params.map param)), ("ty", .optional TypeRef.toDocument s.type)]

end Signature

namespace SugarFlags

def toDocument (s : SugarFlags) : Document :=
  .object [("opt_in", .bool s.optIn), ("opt_out", .bool s.optOut)]

end SugarFlags

namespace Visibility

def documentName : Visibility → String
  | .exported => "Public"
  | .hidden => "Private"

end Visibility

namespace Origin

def documentName : Origin → String
  | .explicit => "Explicit"
  | .inherited => "Inherited"
  | .synthesized => "Synthesized"
  | .spliced => "Spliced"

end Origin

namespace PropertyAccess

def toDocument (p : PropertyAccess) : Document :=
  .object [("read", access p.read), ("write", access p.write), ("storage", storage p.storage)]
where
  access : Access → Document
    | .plain => .text "Default"
    | .accessor => .text "Accessor"
    | .never => .text "Never"
  storage : Storage → Document
    | .physical => .text "Physical"
    | .none => .text "None"
    | .retained => .text "Retained"

end PropertyAccess

namespace Member

/-- The document of a member of a finished plan. Its directives have been carried out, so their
list is empty. -/
def toDocument (m : Member) : Document :=
  .object
    [("name", .text m.name),
      ("kind", .text (match m.kind with | .field => "Field" | .method => "Method")),
      ("visibility", .optional (fun v => .text v.documentName) m.visibility),
      ("signature", m.signature.toDocument),
      ("body", .optional Form.toDocument m.body),
      ("origin", .text m.origin.documentName),
      ("directives", .array []),
      ("property", .optional PropertyAccess.toDocument m.property),
      ("accessor_for", .optional .text m.accessorFor),
      ("inline", .bool m.inlined),
      ("sugar", m.sugar.toDocument),
      ("span", m.span.toDocument)]

end Member

namespace TypeDecl

def toDocument (d : TypeDecl) : Document :=
  .object
    [("name", .text d.name),
      ("kind", .text (match d.kind with | .classType => "Class" | .interfaceType => "Interface")),
      ("type_params", .texts d.typeParams),
      ("superclass", .optional TypeRef.toDocument d.superclass),
      ("implements", .array (d.interfaces.map (·.toDocument))),
      ("members", .array (d.members.map (·.toDocument))),
      ("using", .texts d.usedNames),
      ("capabilities", .texts d.capabilities),
      ("sugar", d.sugar.toDocument),
      ("span", d.span.toDocument)]

end TypeDecl

namespace Cause

def toDocument : Cause → Document
  | .malformed message line column context =>
    .tagged "ParseError" (.object [("message", .text message), ("line", .nat line),
      ("column", .nat column), ("context", .text context)])
  | .policyConflict target member =>
    .tagged "PolicyConflict" (named [("target", target), ("member", member)])
  | .spliceMismatch target member reason =>
    .tagged "SpliceTypeError"
      (named [("target", target), ("member", member), ("reason", reason)])
  | .invalidFilter message => .tagged "InvalidFilter" (.text message)
  | .conflictingAccessor field reason =>
    .tagged "ConflictingAccessorSpec" (named [("field", field), ("reason", reason)])
  | .unknownType name => .tagged "UnknownType" (.text name)
  | .cyclicDemand donor members =>
    .tagged "CyclicDemand" (.object [("donor", .text donor), ("members", .texts members)])
  | .unknownDependency donor member dependency =>
    .tagged "UnknownDependency"
      (named [("donor", donor), ("member", member), ("dependency", dependency)])
  | .abstractDependency donor member dependency =>
    .tagged "AbstractDependency"
      (named [("donor", donor), ("member", member), ("dependency", dependency)])
  | .unknownMember target member =>
    .tagged "UnknownMember" (named [("target", target), ("member", member)])
  | .unknownCapability name => .tagged "UnknownCapability" (.text name)
  | .directiveIgnored target reason =>
    .tagged "DirectiveIgnored" (named [("target", target), ("reason", reason)])
  | .inheritanceCycle name => .tagged "InheritanceCycle" (.text name)
  | .duplicateType name => .tagged "DuplicateType" (.text name)
  | .io message => .tagged "Io" (.text message)
  | .internal message => .tagged "Internal" (.text message)
where
  named (fields : List (String × String)) : Document :=
    .object (fields.map fun (key, value) => (key, .text value))

end Cause

namespace Place

def toDocument (p : Place) : Document :=
  .object [("source", .optional .text p.source), ("line", .optional .nat p.line),
    ("column", .optional .nat p.column), ("stack", .texts p.frames)]

end Place

namespace Diagnostic

def toDocument (d : Diagnostic) : Document :=
  .object
    [("severity", .text (match d.severity with | .error => "Error" | .warning => "Warning")),
      ("error", .object [("kind", d.fault.cause.toDocument),
        ("context", .optional Place.toDocument d.fault.place)])]

end Diagnostic

namespace Expansion

def toDocument (e : Expansion) : Document :=
  let plan (p : MemberPlan) : Document :=
    .object [("decl", p.decl.toDocument), ("failed", .bool p.failed)]
  .object
    [("plans", .array (e.plans.map plan)),
      ("diagnostics", .object [("entries", .array (e.diagnostics.entries.map (·.toDocument)))])]

end Expansion

end DeclWeave
