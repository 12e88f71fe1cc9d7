import DeclWeave.Body.Scope
import DeclWeave.Weave.Splice

/-!
# Weaving a Target

A class receives the members of all donors in its chain, one donor after the other against the
same names, so that what an earlier donor gave exists for the later ones. When all is copied,
each copy is checked in its new host: the host must have the capabilities it requires, and the
names in its body must mean something there.
-/

namespace DeclWeave

/-- What the donors of a target contribute. -/
structure Weave where
  members : List Member := []
  /-- Initializers of spliced fields, in the order collected. -/
  defaultInits : List DefaultInit := []
  /-- What does not fit, attributed to the target. -/
  faults : List Fault := []
  deriving Inhabited

namespace Weave

/-- Takes one donor through the steps of its weave. -/
def ofDonor (target : TypeDecl) (registry : NameRegistry) (d : Donor) :
    Except Fault Spliced := do
  let (w, _) ← DonorWeave.computeClosure { donor := d } registry
  let (w, members, registry) ← w.splice target registry
  let (_, inits) ← w.finalize
  return ⟨members, inits, registry⟩

/-- Splices donors one after the other. -/
def spliceAll (target : TypeDecl) (registry : NameRegistry) :
    List Donor → Except Fault Spliced
  | [] => .ok ⟨[], [], registry⟩
  | d :: rest => do
    let first ← ofDonor target registry d
    let others ← spliceAll target first.registry rest
    return ⟨first.members ++ others.members, first.inits ++ others.inits, others.registry⟩

/-- Whether a name means something in a target into which donors have been spliced. -/
def isVisible (settings : Settings) (declared : List String) (donors : List Donor)
    (target : TypeDecl) (registry : NameRegistry) (name : String) : Bool :=
  registry.contains name || settings.isBuiltin name || declared.contains name ||
    target.typeParams.contains name || target.usedNames.contains name ||
    donors.any (·.unboundParams.contains name)

/-- The fault of a copy that does not fit. -/
def mismatch (target : TypeDecl) (member reason : String) : Fault :=
  target.fault (.spliceMismatch target.name member reason) target.span

/-- What names the checks of a copy look into: its body, or the initializer it left to the
constructor. -/
def checkedBody (inits : List DefaultInit) (m : Member) : Option Form :=
  match m.body with
  | some body => some body
  | none => if m.isField then (inits.find? (·.field == m.name)).map (·.init) else none

/-- The faults of one copy: capabilities the target lacks, then names that mean nothing. -/
def check (settings : Settings) (target : TypeDecl) (available : CapabilitySet)
    (visible : String → Bool) (inits : List DefaultInit) (s : SplicedMember) : List Fault :=
  let missing := available.missing s.requires
  let unresolved :=
    if settings.checkScope then
      match checkedBody inits s.member with
      | some body => body.unresolvedNames (s.member.signature.params.map (·.name)) visible
      | none => []
    else []
  let fault (word : String) (items : List String) : List Fault :=
    if items.isEmpty then []
    else
      let listed := ", ".intercalate items
      [mismatch target s.member.name s!"{word} {listed} from {s.donor}"]
  fault "requires" (missing.map (·.tag)) ++ fault "unresolved" unresolved

/-- Weaves the donors of a target into it, step by step. `declared` are the names of all types,
and `capabilities` what the target has before; what its members and the copies provide counts
too. -/
def perform (settings : Settings) (donors : DonorRegistry) (declared : List String)
    (target : TypeDecl) (capabilities : CapabilitySet) (registry : NameRegistry) :
    Except Fault (Weave × NameRegistry) := do
  let chain := donors.chain target.interfaces
  let spliced ← spliceAll target registry chain
  let copies := spliced.members.map (·.member)
  let available := capabilities.union (.infer (target.members ++ copies))
  let visible := isVisible settings declared chain target spliced.registry
  let faults := spliced.members.flatMap (check settings target available visible spliced.inits)
  return ({ members := copies, defaultInits := spliced.inits, faults }, spliced.registry)

/-- What the donors of a target contribute. A step that fails leaves only its fault, at the
target. -/
def ofTarget (settings : Settings) (donors : DonorRegistry) (declared : List String)
    (target : TypeDecl) (capabilities : CapabilitySet) (registry : NameRegistry) :
    Weave × NameRegistry :=
  match perform settings donors declared target capabilities registry with
  | .ok result => result
  | .error f =>
    ({ faults := [f.locate target.name target.span.line target.span.column] }, registry)

end Weave

end DeclWeave
