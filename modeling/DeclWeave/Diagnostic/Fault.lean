/-!
# Faults

A `Fault` is a cause together with the place it is attributed to. `Cause` lists everything that
reading and expanding declarations can complain about; `Cause.message` gives each its wording.
-/

namespace DeclWeave

/-- What went wrong, with the names needed to say so. -/
inductive Cause where
  /-- A text that is no form, or a form that is no declaration. -/
  | malformed (message : String) (line column : Nat) (sourceLine : String)
  /-- A member that was to be made exists already. -/
  | policyConflict (target member : String)
  /-- A donated member does not fit its new host. -/
  | spliceMismatch (target member reason : String)
  | invalidFilter (message : String)
  | conflictingAccessor (field reason : String)
  | unknownType (name : String)
  /-- The members of a donor that are used only by one another, along the cycle. -/
  | cyclicDemand (donor : String) (members : List String)
  | unknownDependency (donor member dependency : String)
  /-- The member said to use another has no body, so it is never donated. -/
  | abstractDependency (donor member dependency : String)
  | unknownMember (target member : String)
  | unknownCapability (tag : String)
  | directiveIgnored (target reason : String)
  | inheritanceCycle (name : String)
  | duplicateType (name : String)
  | io (message : String)
  | internal (message : String)
  deriving DecidableEq, Repr

namespace Cause

/-- The wording of a cause. -/
def message : Cause → String
  | .malformed text line column _ => s!"parse error at {line}:{column}: {text}"
  | .policyConflict target member => s!"member {member} already exists on {target}"
  | .spliceMismatch target member reason =>
    s!"spliced member {member} does not resolve in {target}: {reason}"
  | .invalidFilter text => s!"invalid filter: {text}"
  | .conflictingAccessor field reason =>
    s!"conflicting accessor specification on {field}: {reason}"
  | .unknownType name => s!"unknown type: {name}"
  | .cyclicDemand donor members =>
    s!"cyclic usedOnlyBy dependency in {donor}: " ++ " -> ".intercalate members
  | .unknownDependency donor member dependency =>
    s!"{member} in {donor} is used only by unknown member {dependency}"
  | .abstractDependency donor member dependency =>
    s!"{member} in {donor} is used only by abstract member {dependency}"
  | .unknownMember target member => s!"{target} has no member {member}"
  | .unknownCapability tag => s!"unknown capability: {tag}"
  | .directiveIgnored target reason => s!"directives on {target} ignored: {reason}"
  | .inheritanceCycle name => s!"inheritance cycle through {name}"
  | .duplicateType name => s!"duplicate type declaration: {name}"
  | .io text => s!"io error: {text}"
  | .internal text => s!"internal error: {text}"

/-- Whether the cause is a member that exists already: a reason to skip, not a failure. -/
def isPolicyConflict : Cause → Bool
  | .policyConflict _ _ => true
  | _ => false

end Cause

/-- Where a fault belongs: a declaration or file, a position in it, and the declarations under
work when it arose, outermost first. -/
structure Place where
  source : Option String := none
  line : Option Nat := none
  column : Option Nat := none
  frames : List String := []
  deriving DecidableEq, Repr, Inhabited

namespace Place

/-- The line and column, when both are known. -/
def position (p : Place) : Option (Nat × Nat) :=
  match p.line, p.column with
  | some line, some column => some (line, column)
  | _, _ => none

/-- The text of a place: the source with its position, then one line for each frame. -/
def text (p : Place) : String :=
  let head := match p.source, p.position with
    | some source, some (line, column) => s!"at {source}:{line}:{column}"
    | some source, none => s!"at {source}"
    | none, _ => ""
  let tail :=
    if p.frames.isEmpty then "" else "\n" ++ String.join (p.frames.map fun f => s!"  in {f}\n")
  head ++ tail

end Place

/-- A cause and, once it is attributed, its place. -/
structure Fault where
  cause : Cause
  place : Option Place := none
  deriving DecidableEq, Repr

namespace Fault

/-- The text of a fault is the wording of its cause. -/
def message (f : Fault) : String :=
  f.cause.message

/-- Attributes a fault to a position in a source; frames already noted stay. -/
def locate (f : Fault) (source : String) (line column : Nat) : Fault :=
  let place : Place := f.place.getD {}
  ⟨f.cause, some ⟨some source, some line, some column, place.frames⟩⟩

/-- The source that a fault is attributed to. -/
def source? (f : Fault) : Option String :=
  f.place.bind (·.source)

/-- The position that a fault is attributed to. -/
def position? (f : Fault) : Option (Nat × Nat) :=
  f.place.bind (·.position)

@[simp] theorem source?_locate (f : Fault) (s : String) (l c : Nat) :
    (f.locate s l c).source? = some s := rfl

@[simp] theorem position?_locate (f : Fault) (s : String) (l c : Nat) :
    (f.locate s l c).position? = some (l, c) := rfl

@[simp] theorem cause_locate (f : Fault) (s : String) (l c : Nat) :
    (f.locate s l c).cause = f.cause := rfl

end Fault

end DeclWeave
