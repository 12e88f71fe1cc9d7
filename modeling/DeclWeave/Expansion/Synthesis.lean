import DeclWeave.Expansion.Ancestry
import DeclWeave.Forward.Basic
import DeclWeave.Synthesis.Constructor
import DeclWeave.Synthesis.Signal
import DeclWeave.Weave.Basic

/-!
# Synthesis of One Type

The plan of one declaration is made in a fixed order. Its names and those it inherits are
registered first. Then each member in turn is published and becomes what its accessor, signal and
constructor directives ask for; then each forwarding member adds its counterparts; then the
donors of a class are woven in, and its constructor is finished.

A directive that cannot be carried out is reported and leaves the member as it is.
-/

namespace DeclWeave

/-- What the synthesis of a type can look at: the settings, the types declared, those finished so
far and the donors registered so far. -/
structure Context where
  settings : Settings
  /-- The first declaration of each name, in source order. -/
  types : List TypeDecl
  /-- Finished plans, as emitted. -/
  finished : List TypeDecl := []
  donors : DonorRegistry := {}

namespace Context

def declared (c : Context) : List String :=
  c.types.map (·.name)

/-- Where names are looked up: a finished plan stands for its declaration. -/
def scope (c : Context) : TypeScope :=
  c.finished ++ c.types

/-- Whether the directives of a declaration are carried out. -/
def sugarEnabled (c : Context) (d : TypeDecl) : Bool :=
  (!c.settings.requireOptIn || d.sugar.optIn) && !d.sugar.optOut

def isFinished (c : Context) (name : String) : Bool :=
  c.finished.any (·.name == name)

end Context

/-- The names taken, the bound fields and the findings so far, while the members of a type are
synthesized one by one. -/
structure Progress where
  registry : NameRegistry
  direct : List DirectInit := []
  found : Diagnostics := {}
  deriving Inhabited

namespace Synthesis

/-- The findings about references to types that nobody declares. -/
def unknownReferences (c : Context) (d : TypeDecl) : List Fault :=
  let unknown := d.supertypes.filter fun r =>
    !(c.declared.contains r.name || c.settings.isBuiltin r.name)
  unknown.map fun r => d.fault (.unknownType r.name) d.span

/-- What can be said about a declaration before it is looked into. -/
def preliminary (c : Context) (d : TypeDecl) : Diagnostics :=
  let errors := (unknownReferences c d).foldl Diagnostics.error {}
  ((CapabilitySet.unknownTags d.capabilities).map (d.fault · d.span)).foldl .warning errors

/-- The finding that the directives of a declaration are ignored, if it has any. -/
def ignoredDirectives (d : TypeDecl) : Diagnostics :=
  if d.hasDirectives then
    let reason :=
      if d.sugar.optOut then "type opts out of sugar" else "type is not marked :sugar true"
    Diagnostics.empty.warning (d.ignored reason d.span)
  else {}

/-- Carries out the accessor and signal directives of a member, or says why they do not go
together. -/
def property (onInterface : Bool) (m : Member) (registry : NameRegistry) :
    Except AccessorConflict Synthesized :=
  match m.accessorRequest?, m.signalRequests with
  | none, [] => .ok ⟨m, [], registry⟩
  | accessor, signals =>
    if !m.isField then .error .notAField
    else
      match accessor, signals with
      | some request, [] => do
        return (← PropertySpec.ofRequest m request).apply m registry
      | none, [signal] => .ok (signal.apply m onInterface registry)
      | some _, _ => .error .signalProperty
      | none, _ => .error .signalAndFuture

/-- Carries out the accessor and signal directives of a member of a declaration. -/
def propertyOf (d : TypeDecl) (m : Member) (p : Progress) : Member × List Member × Progress :=
  let m := if m.isField then m.withType m.inferredType else m
  match property d.isInterface m p.registry with
  | .ok s => (s.field, s.added, { p with registry := s.registry })
  | .error conflict =>
    let fault := d.fault (.conflictingAccessor m.name conflict.message) m.span
    (m, [], { p with found := p.found.error fault })

/-- Binds a field from a constructor parameter, if it asks for that. -/
def directInit (d : TypeDecl) (m : Member) (p : Progress) : Member × Progress :=
  if !m.isDirectInit then (m, p)
  else if d.isInterface || !m.isField then
    let reason := s!"direct-init on {m.name} needs a class field"
    (m, { p with found := p.found.warning (d.ignored reason m.span) })
  else
    let reason := s!"initializer of direct-init field {m.name} dropped"
    let found := if m.body.isSome then p.found.warning (d.ignored reason m.span) else p.found
    ({ m with body := none }, { p with direct := p.direct ++ [.ofField m], found })

/-- The member as it stands in the plan, and the members made from it. -/
def member (d : TypeDecl) (m : Member) (p : Progress) : List Member × Progress :=
  let m := { m.publish with sugar := d.sugar.nested m.sugar }
  if m.isTemplate then ([m], p)
  else if m.sugar.optOut then
    let reason := s!"member {m.name} opts out of sugar"
    let found :=
      if m.directives.isEmpty then p.found else p.found.warning (d.ignored reason m.span)
    ([m], { p with found })
  else
    let (m, added, p) := propertyOf d m p
    let (m, p) := directInit d m p
    (m :: added, p)

/-- The members of a declaration, each with those made from it. -/
def members (d : TypeDecl) (p : Progress) : List Member → List (List Member) × Progress
  | [] => ([], p)
  | m :: rest =>
    let (group, p) := member d m p
    let (groups, p) := members d p rest
    (group :: groups, p)

/-- The counterparts that a forwarding member gives its host. -/
def forward (c : Context) (host : TypeDecl) (source : Member) (request : ForwardRequest)
    (registry : NameRegistry) : Except Cause (List Member × NameRegistry) := do
  let type ← Forward.delegateType source
  match Delegate.resolve? c.scope type with
  | none => throw (.unknownType type.name)
  | some delegate =>
    let delegate := delegate.markPending fun d => !c.isFinished d.name && c.sugarEnabled d
    Forward.synthesize host source request delegate registry

/-- The counterparts that a member gives, if it forwards. -/
def forwardOf (c : Context) (d : TypeDecl) (m : Member) (p : Progress) :
    List Member × Progress :=
  match m.forwardRequest? with
  | none => ([], p)
  | some request =>
    if m.sugar.optOut || m.isTemplate then ([], p)
    else
      match forward c d m request p.registry with
      | .ok (made, registry) => (made, { p with registry })
      | .error cause => ([], { p with found := p.found.error (d.fault cause request.span) })

/-- Adds to each member, as written, and what was made from it the counterparts it forwards. -/
def forwards (c : Context) (d : TypeDecl) (p : Progress) :
    List (Member × List Member) → List Member × Progress
  | [] => ([], p)
  | (m, group) :: rest =>
    let (made, p) := forwardOf c d m p
    let (others, p) := forwards c d p rest
    (group ++ made ++ others, p)

/-- The donors woven into a plan; an interface receives none. -/
def woven (c : Context) (plan : TypeDecl) (ancestry : Ancestry) (p : Progress) :
    Weave :=
  if plan.isInterface then {}
  else
    let capabilities := ancestry.capabilities.union (.declared plan.capabilities)
    (Weave.ofTarget c.settings c.donors c.declared plan capabilities p.registry).1

/-- The plan of a declaration whose directives are carried out. -/
def expanded (c : Context) (d : TypeDecl) (found : Diagnostics) : TypeDecl × Diagnostics :=
  let ancestry := Ancestry.of c.scope d
  let p : Progress := { registry := .ofDecl d ancestry.names, found }
  let (groups, p) := members d p d.members
  let (planned, p) := forwards c d p (d.members.zip groups)
  let plan := { d with members := planned }
  let weave := woven c plan ancestry p
  let found := weave.faults.foldl .error p.found
  let plan := { plan with members := plan.members ++ weave.members }
  if d.isInterface then (plan, found)
  else ((plan.finishConstructor p.direct weave.defaultInits ancestry.constructor?).1, found)

/-- The plan of a declaration, and what there is to say about it. -/
def ofDecl (c : Context) (d : TypeDecl) : TypeDecl × Diagnostics :=
  let found := preliminary c d
  if c.sugarEnabled d then expanded c d found else (d, found ++ ignoredDirectives d)

end Synthesis

end DeclWeave
