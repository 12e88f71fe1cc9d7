import DeclWeave.Body.Substitution
import DeclWeave.Donor.Chain
import DeclWeave.Donor.Inclusion

/-!
# Splicing One Donor

A donor is woven into a target in three steps: its included members are computed against the
names the target has, they are copied in, and the initializers held back while copying are handed
over to the constructor. A `DonorWeave` goes through these steps once; a step taken out of turn
fails and changes nothing.
-/

namespace DeclWeave

/-- The initializer of a spliced field, run at the start of the constructor. -/
structure DefaultInit where
  field : String
  init : Form
  deriving Repr, Inhabited

namespace DefaultInit

/-- The assignment that initializes the field. -/
def statement (d : DefaultInit) (s : Span) : Form :=
  .assign (.getOfThis d.field s) d.init s

end DefaultInit

/-- A member copied from a donor. -/
structure SplicedMember where
  member : Member
  /-- What it requires of its new host. -/
  requires : CapabilitySet
  /-- The name of the donor. -/
  donor : String
  deriving Inhabited

/-- What splicing gives: the copies, the initializers held back, and the names now taken. -/
structure Spliced where
  members : List SplicedMember
  inits : List DefaultInit
  registry : NameRegistry

namespace Donor

/-- The copy of a member in a target: type parameters bound, everything at the target's place,
directives consumed. A field loses its initializer. -/
def copy (d : Donor) (target : TypeDecl) (m : Member) : Member :=
  let body := m.body.map fun body => (body.substituteTypes d.bindings).respan target.span
  Member.publish
    { m with
      signature := m.signature.substitute d.bindings
      body := if m.isField then none else body
      origin := .spliced
      directives := []
      span := target.span }

/-- The initializer that a copied field leaves to the constructor. -/
def initOf (d : Donor) (target : TypeDecl) (m : Member) : Option DefaultInit :=
  if m.isField then
    m.body.map fun init => ⟨m.name, (init.substituteTypes d.bindings).respan target.span⟩
  else none

/-- The fault of a handle that no member has. -/
def noMember (d : Donor) (i : Nat) : Fault :=
  let donor := d.bank.name
  ⟨.internal s!"donor {donor} has no member {i}", none⟩

/-- Copies the members with the given handles, each if its name is free. -/
def splice (d : Donor) (target : TypeDecl) (registry : NameRegistry) :
    List Nat → Except Fault Spliced
  | [] => .ok ⟨[], [], registry⟩
  | i :: rest =>
    match d.bank.members[i]? with
    | none => .error (d.noMember i)
    | some m =>
      match registry.claim? m.name with
      | none => d.splice target registry rest
      | some registry => do
        let s ← d.splice target registry rest
        return { s with
          members := ⟨d.copy target m, d.bank.requirements i, d.bank.name⟩ :: s.members
          inits := (d.initOf target m).toList ++ s.inits }

/-- The handles included in a target with the given names. -/
def includedIn (d : Donor) (registry : NameRegistry) : List Nat :=
  d.bank.included registry.contains

/-- The parameters that no argument is given for. -/
def unboundParams (d : Donor) : List String :=
  d.bank.typeParams.filter fun p => (d.bindings.find? p).isNone

end Donor

/-- How far the weave of a donor has come, and what it holds for the next step. -/
inductive WeaveStage where
  | unresolved
  | closureComputed (included : List Nat)
  | spliced (pending : List DefaultInit)
  | finalized
  deriving Repr, Inhabited

namespace WeaveStage

def name : WeaveStage → String
  | .unresolved => "unresolved"
  | .closureComputed _ => "closure-computed"
  | .spliced _ => "spliced"
  | .finalized => "finalized"

end WeaveStage

/-- The weave of one donor into one target. -/
structure DonorWeave where
  donor : Donor
  stage : WeaveStage := .unresolved
  deriving Inhabited

namespace DonorWeave

/-- The fault of a step that is not the next one. -/
def outOfTurn (w : DonorWeave) (step : String) (expected : WeaveStage) : Fault :=
  let donor := w.donor.bank.name
  let stage := w.stage.name
  ⟨.internal s!"{step} on donor {donor} in state {stage}, expected {expected.name}", none⟩

/-- Computes the included members against the names that exist. -/
def computeClosure (w : DonorWeave) (registry : NameRegistry) :
    Except Fault (DonorWeave × List Nat) :=
  match w.stage with
  | .unresolved =>
    let included := w.donor.includedIn registry
    .ok ({ w with stage := .closureComputed included }, included)
  | _ => .error (w.outOfTurn "compute_closure" .unresolved)

/-- Copies the included members into the target. -/
def splice (w : DonorWeave) (target : TypeDecl) (registry : NameRegistry) :
    Except Fault (DonorWeave × List SplicedMember × NameRegistry) :=
  match w.stage with
  | .closureComputed included => do
    let s ← w.donor.splice target registry included
    return ({ w with stage := .spliced s.inits }, s.members, s.registry)
  | _ => .error (w.outOfTurn "splice" (.closureComputed []))

/-- Hands over the initializers held back. -/
def finalize (w : DonorWeave) : Except Fault (DonorWeave × List DefaultInit) :=
  match w.stage with
  | .spliced pending => .ok ({ w with stage := .finalized }, pending)
  | _ => .error (w.outOfTurn "finalize" (.spliced []))

end DonorWeave

end DeclWeave
