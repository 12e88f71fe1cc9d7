import DeclWeave.Body.Mention
import DeclWeave.Body.TailReturn
import DeclWeave.Synthesis.Registry

/-!
# Accessors

A property field keeps its place in the plan and is followed by its accessors, `get_f` and, when
it is written too, `set_f`. `PropertySpec.ofRequest` decides what an accessor directive asks for,
or why its options do not go together; `PropertySpec.apply` carries it out.

A field whose accessors are all custom keeps its storage only if they mention it or it has an
initializer.
-/

namespace DeclWeave

/-- How a property is assigned. -/
inductive Assignment where
  /-- The value is stored as it is. -/
  | direct
  /-- What is stored is another expression, over the value. -/
  | guarded (value : Form)
  /-- The setter's body is given. -/
  | custom (body : Form)
  deriving Repr, Inhabited

/-- What a property is read from and written to. -/
inductive PropertyShape where
  | calculated
  | readonly (getter : Option Form)
  | readwrite (getter : Option Form) (assignment : Assignment)
  deriving Repr, Inhabited

/-- A property whose options go together. -/
structure PropertySpec where
  shape : PropertyShape
  /-- Whether the accessors are to be inlined. -/
  inlined : Bool := false
  deriving Repr, Inhabited

/-- Why the accessor and signal options of a member do not go together. -/
inductive AccessorConflict where
  | noMode
  | clashingModes (first second : PropertyMode)
  | calculatedWithParts
  | calculatedWithoutInitializer
  | readonlyWithSetter
  | setterAndGuard
  | notAField
  | signalProperty
  | signalAndFuture
  deriving DecidableEq, Repr

namespace AccessorConflict

def message : AccessorConflict → String
  | .noMode => "accessor arguments given without a property mode"
  | .clashingModes first second => s!"{first.option} and {second.option} are mutually exclusive"
  | .calculatedWithParts => "calculated takes no getter, setter, or guard"
  | .calculatedWithoutInitializer => "calculated requires an initializer"
  | .readonlyWithSetter => "readonly takes no setter or guard"
  | .setterAndGuard => "setter and guard are mutually exclusive"
  | .notAField => "accessor and signal directives apply to fields only"
  | .signalProperty => "a signal field cannot also be a property"
  | .signalAndFuture => "signal and future are mutually exclusive"

end AccessorConflict

/-- The name of the only parameter of a setter. -/
def setterParam : String := "param"

def getterName (field : String) : String := "get_" ++ field

def setterName (field : String) : String := "set_" ++ field

namespace Form

/-- The type that a literal gives a field. -/
def literalType? : Form → Option TypeRef
  | .atom (.int _) _ => some (.named "Int")
  | .atom (.float _) _ => some (.named "Float")
  | .atom (.str _) _ => some (.named "String")
  | .atom (.bool _) _ => some (.named "Bool")
  | _ => none

end Form

namespace Member

/-- The declared type, or else the one that a literal initializer gives. -/
def inferredType (m : Member) : Option TypeRef :=
  m.type <|> m.body.bind (·.literalType?)

end Member

/-- A field changed into a property, the members to stand after it, and the names now taken. -/
structure Synthesized where
  field : Member
  added : List Member
  registry : NameRegistry
  deriving Repr

namespace PropertySpec

/-- The only mode asked for; asking twice in a row is asking once. -/
def modeOf (modes : List PropertyMode) : Except AccessorConflict PropertyMode :=
  match modes with
  | [] => .error .noMode
  | first :: rest =>
    match rest.find? (· != first) with
    | some second => .error (.clashingModes first second)
    | none => .ok first

/-- What the accessor options of a field ask for. -/
def ofRequest (field : Member) (a : AccessorRequest) : Except AccessorConflict PropertySpec := do
  match ← modeOf a.modes with
  | .calculated =>
    if a.getter.isSome || a.setter.isSome || a.guard.isSome then throw .calculatedWithParts
    else if field.body.isNone then throw .calculatedWithoutInitializer
    else return ⟨.calculated, a.inlined⟩
  | .readonly =>
    if a.setter.isSome || a.guard.isSome then throw .readonlyWithSetter
    else return ⟨.readonly a.getter, a.inlined⟩
  | .readwrite =>
    match a.setter, a.guard with
    | some _, some _ => throw .setterAndGuard
    | some setter, none => return ⟨.readwrite a.getter (.custom setter), a.inlined⟩
    | none, some guard => return ⟨.readwrite a.getter (.guarded guard), a.inlined⟩
    | none, none => return ⟨.readwrite a.getter .direct, a.inlined⟩

def mode (p : PropertySpec) : PropertyMode :=
  match p.shape with
  | .calculated => .calculated
  | .readonly _ => .readonly
  | .readwrite _ _ => .readwrite

def getter? (p : PropertySpec) : Option Form :=
  match p.shape with
  | .calculated => none
  | .readonly getter => getter
  | .readwrite getter _ => getter

def setter? (p : PropertySpec) : Option Form :=
  match p.shape with
  | .readwrite _ (.custom setter) => some setter
  | _ => none

def guard? (p : PropertySpec) : Option Form :=
  match p.shape with
  | .readwrite _ (.guarded guard) => some guard
  | _ => none

/-- The accessor bodies that were given, if no accessor is left to be made. -/
def customBodies? (p : PropertySpec) : Option (List Form) :=
  match p.shape with
  | .calculated => none
  | .readonly (some getter) => some [getter]
  | .readwrite (some getter) (.custom setter) => some [getter, setter]
  | _ => none

/-- The storage that a field keeps. -/
def storage (p : PropertySpec) (field : Member) : Storage :=
  if p.mode = .calculated then .none
  else
    match p.customBodies? with
    | none => .physical
    | some bodies =>
      if bodies.any (·.mentions field.name) || field.body.isSome then .retained else .none

/-- The expression that reads the property. -/
def getterBody (p : PropertySpec) (field : Member) : Form :=
  match p.shape with
  | .calculated => field.body.getD (.nil field.span)
  | .readonly getter | .readwrite getter _ => getter.getD (.getOfThis field.name field.span)

/-- Stores a value in the field and returns it. -/
def storing (field : Member) (value : Form) : Form :=
  let place := Form.getOfThis field.name field.span
  .call "do" [.assign place value field.span, .ret place field.span] field.span

/-- The body that writes a property. -/
def setterBody (field : Member) : Assignment → Form
  | .direct => storing field (.sym setterParam field.span)
  | .guarded value => storing field value
  | .custom body => body

/-- A generated accessor of a field. -/
def accessor (p : PropertySpec) (field : Member) (name : String) (params : List Param)
    (body : Form) : Member :=
  { name
    kind := .method
    visibility := some .exported
    signature := ⟨params, field.type⟩
    body := some (body.finish field.sugar.optOut)
    origin := .synthesized
    accessorFor := some field.name
    inlined := p.inlined
    span := field.span }

/-- The field as a property. A calculated field hands its initializer over to its getter. -/
def property (p : PropertySpec) (field : Member) : Member :=
  { field with
    body := if p.mode = .calculated then none else field.body
    property := some
      { read := .accessor
        write := if p.mode = .readwrite then .accessor else .never
        storage := p.storage field } }

/-- Turns a field into a property and makes those of its accessors whose names are free. -/
def apply (p : PropertySpec) (field : Member) (registry : NameRegistry) : Synthesized :=
  let field := field.withType field.inferredType
  let (getters, registry) := registry.accept
    (p.accessor field (getterName field.name) [] (p.getterBody field))
  match p.shape with
  | .readwrite _ assignment =>
    let (setters, registry) := registry.accept
      (p.accessor field (setterName field.name) [⟨setterParam, field.type⟩]
        (setterBody field assignment))
    ⟨p.property field, getters ++ setters, registry⟩
  | _ => ⟨p.property field, getters, registry⟩

end PropertySpec

end DeclWeave
