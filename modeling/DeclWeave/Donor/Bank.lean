import DeclWeave.Diagnostic.Stream
import DeclWeave.Graph.DepthFirst
import DeclWeave.Synthesis.Capability
import DeclWeave.Synthesis.Registry
import DeclWeave.Synthesis.Settings

/-!
# Donor Banks

An interface donates its fields and its bodied methods to the classes that implement it. Its
`DonorBank` numbers them in the order declared. A member tagged as used only by others *demands*
one of them: it is donated only together with a member that it names.
-/

namespace DeclWeave

/-- The members that an interface donates. A member is known by its place in the list, its
handle. -/
structure DonorBank where
  name : String
  typeParams : List String
  interfaces : List TypeRef
  span : Span
  members : List Member
  /-- For each member, the handles of those it is used only by, if it is tagged so. -/
  demands : List (Option (List Nat))
  /-- Whether a circle of demands made the donor unusable. -/
  rejected : Bool
  deriving Repr, Inhabited

namespace DonorBank

/-- Whether a member of an interface is donated. -/
def isDonated (m : Member) : Bool :=
  !m.isConstructor && (m.isField || m.body.isSome)

/-- The handle of the last member of a name. -/
def handle? (members : List Member) (name : String) : Option Nat :=
  (members.zipIdx.reverse.find? (·.1.name == name)).map (·.2)

/-- The handles that a member demands, if it is tagged. -/
def demandOf (members : List Member) (m : Member) : Option (List Nat) :=
  m.usedOnlyBy?.map fun names => names.filterMap (handle? members)

/-- The findings about names in a member's tag that are not donated: the interface may have such
a member without a body, or none. -/
def danglingDemands (plan : TypeDecl) (members : List Member) (m : Member) : List Fault :=
  let dangling := (m.usedOnlyBy?.getD []).filter fun name => (handle? members name).isNone
  dangling.map fun name =>
    let cause : Cause :=
      if (plan.member? name).isSome then .abstractDependency plan.name m.name name
      else .unknownDependency plan.name m.name name
    plan.fault cause plan.span

/-- The members demanded by handle `i`; none if it is untagged. -/
def demand (b : DonorBank) (i : Nat) : Option (List Nat) :=
  b.demands.getD i none

/-- The handles of the members that demand `i`, once for each time they name it. -/
def dependents (b : DonorBank) (i : Nat) : List Nat :=
  (List.range b.members.length).flatMap fun j =>
    List.replicate (((b.demand j).getD []).count i) j

def handles (b : DonorBank) : List Nat :=
  List.range b.members.length

/-- What handle `i` requires of its target. -/
def requirements (b : DonorBank) (i : Nat) : CapabilitySet :=
  match b.members[i]? with
  | some m => .declared m.requirements
  | none => .empty

/-- The first circle of demands that a search in the order of handles closes. It begins and ends
at the same handle. -/
def findCycle (b : DonorBank) : Option (List Nat) :=
  let edges (i : Nat) : List (Nat × Unit) := ((b.demand i).getD []).map (·, ())
  match DepthFirst.backEdges (DepthFirst.trace b.handles edges) with
  | (path, _) :: _ => some (path ++ path.take 1)
  | [] => none

/-- The bank of an interface, and what there is to say about it. Unknown requirements and
demands are dropped; a circle is handled as the settings say. -/
def ofDecl (settings : Settings) (plan : TypeDecl) : DonorBank × Diagnostics :=
  let members := plan.members.filter isDonated
  let bank : DonorBank :=
    { name := plan.name
      typeParams := plan.typeParams
      interfaces := plan.interfaces
      span := plan.span
      members
      demands := members.map (demandOf members)
      rejected := false }
  let unknownTags := members.flatMap fun m =>
    (CapabilitySet.unknownTags m.requirements).map (plan.fault · plan.span)
  let dangling := members.flatMap (danglingDemands plan members)
  let found : Diagnostics := (unknownTags ++ dangling).foldl .warning {}
  match bank.findCycle with
  | none => (bank, found)
  | some cycle =>
    let names := cycle.filterMap fun i => members[i]?.map (·.name)
    let fault := plan.fault (.cyclicDemand plan.name names) plan.span
    match settings.cyclePolicy with
    | .reject => ({ bank with rejected := true }, found.error fault)
    | .leastFixpoint => (bank, found.warning fault)

end DonorBank

end DeclWeave
