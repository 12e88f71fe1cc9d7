import DeclWeave.Decl.Member
import DeclWeave.Diagnostic.Fault

/-!
# Capabilities

A capability says what can be done with a type. A type declares capabilities by tags and has
those that its members provide; a donated member can require some of its target. Only the tags
are compared, never the structure of the members behind them.
-/

namespace DeclWeave

inductive Capability where
  /-- The type can be looped over. -/
  | iterable
  /-- Elements can be read by one argument. -/
  | indexable
  /-- The type knows its size. -/
  | sized
  deriving DecidableEq, Repr, Inhabited

namespace Capability

/-- Every capability, in the order in which sets list them. -/
def all : List Capability := [.iterable, .indexable, .sized]

def tag : Capability → String
  | .iterable => "iterable"
  | .indexable => "indexable"
  | .sized => "sized"

/-- The capability with a tag. -/
def ofTag? (tag : String) : Option Capability :=
  all.find? (·.tag == tag)

/-- The capability that a member provides. -/
def providedBy? (m : Member) : Option Capability :=
  if m.name = "iterator" then some .iterable
  else if m.name = "get" then
    if m.isMethod && m.signature.params.length == 1 then some .indexable else none
  else if m.name = "length" then some .sized
  else none

end Capability

/-- The capabilities of one type. -/
structure CapabilitySet where
  contains : Capability → Bool

namespace CapabilitySet

def empty : CapabilitySet := ⟨fun _ => false⟩

instance : Inhabited CapabilitySet := ⟨empty⟩

def ofList (caps : List Capability) : CapabilitySet :=
  ⟨fun c => caps.contains c⟩

def toList (s : CapabilitySet) : List Capability :=
  Capability.all.filter s.contains

def isEmpty (s : CapabilitySet) : Bool :=
  s.toList.isEmpty

def union (s t : CapabilitySet) : CapabilitySet :=
  ⟨fun c => s.contains c || t.contains c⟩

/-- What is required and not there. -/
def missing (s required : CapabilitySet) : List Capability :=
  required.toList.filter (!s.contains ·)

/-- What some members provide. -/
def infer (members : List Member) : CapabilitySet :=
  ofList (members.filterMap Capability.providedBy?)

/-- The capabilities that some tags declare; an unknown tag declares none. -/
def declared (tags : List String) : CapabilitySet :=
  ofList (tags.filterMap Capability.ofTag?)

/-- The faults of the tags that are unknown. -/
def unknownTags (tags : List String) : List Cause :=
  (tags.filter (Capability.ofTag? · |>.isNone)).map .unknownCapability

end CapabilitySet

end DeclWeave
