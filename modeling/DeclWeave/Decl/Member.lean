import DeclWeave.Decl.TypeRef

/-!
# Members

A `Member` is a field or a method of a type, hand-written or made by expansion. `Directive`s are
the requests that its declaration carries; expansion consumes them.
-/

namespace DeclWeave

/-- The name of the method that constructs. -/
def constructorName : String := "new"

inductive MemberKind where
  | field
  | method
  deriving DecidableEq, Repr, Inhabited

/-- Who sees a member: everyone, or only its own type and those below it. -/
inductive Visibility where
  | exported
  | hidden
  deriving DecidableEq, Repr, Inhabited

/-- Where a member of a plan came from. -/
inductive Origin where
  /-- Written by hand on the type. -/
  | explicit
  /-- Defined on an ancestor. -/
  | inherited
  /-- Made by an accessor, signal, forward or constructor rule. -/
  | synthesized
  /-- Copied from a donor interface. -/
  | spliced
  deriving DecidableEq, Repr, Inhabited

structure Param where
  name : String
  type : Option TypeRef := none
  deriving Repr, Inhabited

/-- The parameters of a method, and the type of a field or of a method's result. A missing type
asks for inference. -/
structure Signature where
  params : List Param := []
  type : Option TypeRef := none
  deriving Repr, Inhabited

namespace Param

/-- Puts arguments in the place of type parameters. -/
def substitute (b : Bindings) (p : Param) : Param :=
  { p with type := p.type.map (·.substitute b) }

end Param

namespace Signature

/-- Puts arguments in the place of type parameters. -/
def substitute (b : Bindings) (s : Signature) : Signature :=
  ⟨s.params.map (·.substitute b), s.type.map (·.substitute b)⟩

end Signature

/-- How a property is read or written. -/
inductive Access where
  /-- As a field. -/
  | plain
  /-- Through the generated accessor. -/
  | accessor
  /-- Not from outside. -/
  | never
  deriving DecidableEq, Repr, Inhabited

/-- Whether a property keeps a field to store its value in. -/
inductive Storage where
  | physical
  /-- The accessors compute the value. -/
  | none
  /-- Custom accessors use the field, so it is kept. -/
  | retained
  deriving DecidableEq, Repr, Inhabited

/-- How a field is reached once its accessors exist. -/
structure PropertyAccess where
  read : Access
  write : Access
  storage : Storage
  deriving DecidableEq, Repr, Inhabited

/-- Opt-in and opt-out marks of one declaration. -/
structure SugarFlags where
  optIn : Bool := false
  optOut : Bool := false
  deriving DecidableEq, Repr, Inhabited

namespace SugarFlags

/-- The marks of a declaration inside another one: marks are inherited downward. -/
def nested (outer inner : SugarFlags) : SugarFlags :=
  ⟨outer.optIn || inner.optIn, outer.optOut || inner.optOut⟩

end SugarFlags

/-- The property asked for on a field. -/
inductive PropertyMode where
  /-- Read only, computed from the initializer, no storage. -/
  | calculated
  /-- Read only, over a field. -/
  | readonly
  /-- Read and written, over a field. -/
  | readwrite
  deriving DecidableEq, Repr, Inhabited

namespace PropertyMode

/-- The option that asks for the mode. -/
def option : PropertyMode → String
  | .calculated => "calculated"
  | .readonly => "readonly"
  | .readwrite => "property"

end PropertyMode

/-- The accessor options of a field as written; whether they go together is checked later. -/
structure AccessorRequest where
  /-- Every mode asked for, in the order given. -/
  modes : List PropertyMode := []
  getter : Option Form := none
  setter : Option Form := none
  guard : Option Form := none
  inlined : Bool := false
  /-- Where the first accessor option stands. -/
  span : Span := {}
  deriving Repr, Inhabited

/-- The two kinds of fields that a trigger stands behind. -/
inductive SignalFlavor where
  | signal
  | future
  deriving DecidableEq, Repr, Inhabited

structure SignalRequest where
  flavor : SignalFlavor
  span : Span
  deriving DecidableEq, Repr, Inhabited

structure ForwardRequest where
  /-- Filters as written; none lets everything through. -/
  filters : List Form
  /-- The method whose body is the template of forwarding methods. -/
  via : Option String := none
  span : Span
  deriving Repr, Inhabited

/-- A request attached to a member. -/
inductive Directive where
  | accessor (request : AccessorRequest)
  | signal (request : SignalRequest)
  | forward (request : ForwardRequest)
  /-- On a donor member: donated only together with one of the named members. -/
  | usedOnlyBy (names : List String)
  /-- On a donor member: the capabilities that the target needs. -/
  | requires (tags : List String)
  /-- The field is bound from a constructor parameter. -/
  | directInit
  /-- The method serves only as a template of forwarding methods. -/
  | template
  deriving Repr, Inhabited

/-- A field or a method. -/
structure Member where
  name : String
  kind : MemberKind
  /-- The visibility as declared; a missing one is settled when the member is published. -/
  visibility : Option Visibility := none
  signature : Signature := {}
  /-- The body of a method or the initializer of a field. -/
  body : Option Form := none
  origin : Origin := .explicit
  directives : List Directive := []
  property : Option PropertyAccess := none
  /-- The field that a generated accessor serves. -/
  accessorFor : Option String := none
  /-- Whether a generated accessor is to be inlined. -/
  inlined : Bool := false
  sugar : SugarFlags := {}
  span : Span := {}
  deriving Repr, Inhabited

namespace Member

/-- A field with nothing but a name. -/
def bareField (name : String) (span : Span) : Member :=
  { name, kind := .field, span }

/-- A method with nothing but a name and parameters. -/
def bareMethod (name : String) (params : List Param) (span : Span) : Member :=
  { name, kind := .method, signature := { params }, span }

def type (m : Member) : Option TypeRef :=
  m.signature.type

def withType (m : Member) (type : Option TypeRef) : Member :=
  { m with signature := { m.signature with type } }

def isField (m : Member) : Bool :=
  m.kind == .field

def isMethod (m : Member) : Bool :=
  m.kind == .method

def isConstructor (m : Member) : Bool :=
  m.isMethod && m.name == constructorName

def isExported (m : Member) : Bool :=
  m.visibility == some .exported

/-- The members that this one is used only by, if it is tagged so. -/
def usedOnlyBy? (m : Member) : Option (List String) :=
  m.directives.findSome? fun
    | .usedOnlyBy names => some names
    | _ => none

/-- The tags of the capabilities that a donated copy needs of its target. -/
def requirements (m : Member) : List String :=
  (m.directives.findSome? fun
    | .requires tags => some tags
    | _ => none).getD []

def accessorRequest? (m : Member) : Option AccessorRequest :=
  m.directives.findSome? fun
    | .accessor request => some request
    | _ => none

def signalRequests (m : Member) : List SignalRequest :=
  m.directives.filterMap fun
    | .signal request => some request
    | _ => none

def forwardRequest? (m : Member) : Option ForwardRequest :=
  m.directives.findSome? fun
    | .forward request => some request
    | _ => none

def isDirectInit (m : Member) : Bool :=
  m.directives.any fun
    | .directInit => true
    | _ => false

def isTemplate (m : Member) : Bool :=
  m.directives.any fun
    | .template => true
    | _ => false

/-- Settles a missing visibility: what is not declared hidden is exported. -/
def publish (m : Member) : Member :=
  { m with visibility := some (m.visibility.getD .exported) }

/-- Hides a member, whatever it declared. -/
def conceal (m : Member) : Member :=
  { m with visibility := some .hidden }

@[simp] theorem name_publish (m : Member) : m.publish.name = m.name := rfl

@[simp] theorem publish_publish (m : Member) : m.publish.publish = m.publish := rfl

@[simp] theorem publish_conceal (m : Member) : m.conceal.publish = m.conceal := rfl

end Member

end DeclWeave
