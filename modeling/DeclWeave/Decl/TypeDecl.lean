import DeclWeave.Decl.Member
import DeclWeave.Diagnostic.Fault

/-!
# Type Declarations

The same shape describes a declaration as written and the expanded plan made from it. A
`SourceUnit` is everything that is expanded together, in source order.
-/

namespace DeclWeave

/-- A class, or an interface, whose bodied members are donated to the classes that implement
it. -/
inductive TypeKind where
  | classType
  | interfaceType
  deriving DecidableEq, Repr, Inhabited

structure TypeDecl where
  name : String
  kind : TypeKind
  typeParams : List String := []
  superclass : Option TypeRef := none
  /-- The interfaces implemented, or extended by an interface. -/
  interfaces : List TypeRef := []
  members : List Member := []
  /-- Names visible inside this declaration only. -/
  usedNames : List String := []
  /-- Tags of the capabilities declared on the type. -/
  capabilities : List String := []
  sugar : SugarFlags := {}
  span : Span := {}
  deriving Repr, Inhabited

namespace TypeDecl

def isInterface (d : TypeDecl) : Bool :=
  d.kind == .interfaceType

/-- The first member of a name. -/
def member? (d : TypeDecl) (name : String) : Option Member :=
  d.members.find? (·.name == name)

def memberNames (d : TypeDecl) : List String :=
  d.members.map (·.name)

/-- The member that constructs. -/
def constructor? (d : TypeDecl) : Option Member :=
  d.member? constructorName

def hasDirectives (d : TypeDecl) : Bool :=
  d.members.any (!·.directives.isEmpty)

/-- The superclass, then the interfaces: the types that must be known before this one. -/
def supertypes (d : TypeDecl) : List TypeRef :=
  d.superclass.toList ++ d.interfaces

/-- Binds the type parameters to the arguments of a reference to this type. -/
def bindingsFor (d : TypeDecl) (r : TypeRef) : Bindings :=
  .ofParams d.typeParams r.args

/-- Changes the first member of a name. -/
def modifyMember (d : TypeDecl) (name : String) (f : Member → Member) : TypeDecl :=
  let rec go : List Member → List Member
    | [] => []
    | m :: ms => if m.name == name then f m :: ms else m :: go ms
  { d with members := go d.members }

/-- Attributes a cause to this declaration, at a span inside it. -/
def fault (d : TypeDecl) (cause : Cause) (s : Span) : Fault :=
  (Fault.mk cause none).locate d.name s.line s.column

/-- The fault of directives that have no effect. -/
def ignored (d : TypeDecl) (reason : String) (s : Span) : Fault :=
  d.fault (.directiveIgnored d.name reason) s

end TypeDecl

/-- Declarations that are expanded together. -/
structure SourceUnit where
  types : List TypeDecl := []
  deriving Repr, Inhabited

namespace SourceUnit

/-- The first declaration of a name. -/
def find? (u : SourceUnit) (name : String) : Option TypeDecl :=
  u.types.find? (·.name == name)

/-- The declarations of one unit followed by those of another. -/
protected def append (u v : SourceUnit) : SourceUnit :=
  ⟨u.types ++ v.types⟩

instance : Append SourceUnit := ⟨SourceUnit.append⟩

end SourceUnit

end DeclWeave
