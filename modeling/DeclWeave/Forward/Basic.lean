import DeclWeave.Body.Substitution
import DeclWeave.Filter.Basic
import DeclWeave.Forward.Delegate
import DeclWeave.Synthesis.Accessor

/-!
# Forwarding

A member tagged to forward gives its host a counterpart of every candidate of the delegate that
the filter selects and whose name is free. A field becomes a property over the delegate's field,
with a setter only if that field can be written. A method becomes a call on the delegate, or a
filled copy of a template's body.
-/

namespace DeclWeave

namespace Candidate

/-- Whether the field can be written through the delegate. A pending field is judged by its
directives; combinations that will be refused leave it a plain field. -/
def isWritable (c : Candidate) : Bool :=
  if !c.pending || c.member.sugar.optOut then
    match c.member.property with
    | some p => p.write != .never
    | none => true
  else
    match c.member.accessorRequest?, c.member.signalRequests.length with
    | none, 1 => false
    | some request, 0 =>
      match PropertySpec.ofRequest c.member request with
      | .ok spec => spec.mode == .readwrite
      | .error _ => true
    | _, _ => true

/-- The type of the field, in terms of the host. -/
def fieldType (c : Candidate) : Option TypeRef :=
  c.member.inferredType.map (·.substitute c.bindings)

end Candidate

namespace Forward

/-- The type that a member forwards to: its declared type. -/
def delegateType (source : Member) : Except Cause TypeRef :=
  match source.type with
  | some type => .ok type
  | none => .error (.unknownType s!"{source.name} (forwarding member has no type)")

/-- The expression that reaches the delegate through a member of the host. -/
def reach (source : Member) : Form :=
  if source.isField then .getOfThis source.name source.span
  else .invoke (.sym "this" source.span) source.name [] source.span

/-- The counterpart of a field: a property over the delegate's field, and its accessors as far
as their names are free. -/
def field (source : Member) (c : Candidate) (registry : NameRegistry) :
    List Member × NameRegistry :=
  let s := source.span
  let target := Form.get (reach source) c.member.name s
  let shape : PropertyShape :=
    if c.isWritable then
      .readwrite (some target) (.custom (.assign target (.sym setterParam s) s))
    else .readonly (some target)
  let plain : Member :=
    { name := c.member.name
      kind := .field
      signature := { type := c.fieldType }
      origin := .synthesized
      sugar := source.sugar
      span := s }
  let made := (PropertySpec.mk shape false).apply plain registry
  (made.field.publish :: made.added, made.registry)

/-- The counterpart of a method: a call on the delegate, or the template filled for it. What
returns nothing gets no return. -/
def method (source : Member) (template : Option Form) (c : Candidate) : Member :=
  let s := source.span
  let signature := c.member.signature.substitute c.bindings
  let args := signature.params.map fun p => Form.sym p.name s
  let call := match template with
    | some body => (Template.mk c.member.name (reach source) args).fill (body.respan s)
    | none => .invoke (reach source) c.member.name args s
  let isVoid := signature.type.any (·.isVoid)
  { name := c.member.name
    kind := .method
    visibility := some .exported
    signature
    body := some (call.finish (isVoid || source.sugar.optOut))
    origin := .synthesized
    span := s }

/-- The counterparts of some candidates, of those whose names are free. -/
def counterparts (source : Member) (template : Option Form) (registry : NameRegistry) :
    List Candidate → List Member × NameRegistry
  | [] => ([], registry)
  | c :: rest =>
    match registry.claim? c.member.name with
    | none => counterparts source template registry rest
    | some registry =>
      let (made, registry) :=
        if c.member.isField then field source c registry
        else ([method source template c], registry)
      let (more, registry) := counterparts source template registry rest
      (made ++ more, registry)

/-- The body of the template that a request names: a bodied method of the host. -/
def templateBody (host : TypeDecl) (request : ForwardRequest) :
    Except Cause (Option Form) :=
  match request.via with
  | none => .ok none
  | some name =>
    match (host.member? name).filter (·.isMethod) |>.bind (·.body) with
    | some body => .ok (some body)
    | none => .error (.unknownMember host.name name)

/-- What a forwarding member gives its host, in the order of the delegate's candidates; each
field is followed by its accessors. -/
def synthesize (host : TypeDecl) (source : Member) (request : ForwardRequest)
    (delegate : Delegate) (registry : NameRegistry) :
    Except Cause (List Member × NameRegistry) := do
  let filter ← (Filter.ofList request.filters).mapError (·.toCause)
  let template ← templateBody host request
  let selected := delegate.candidates.filter fun c =>
    match filter with
    | some f => f.selectsMember c.member.name c.origin
    | none => true
  return counterparts source template registry selected

end Forward

end DeclWeave
