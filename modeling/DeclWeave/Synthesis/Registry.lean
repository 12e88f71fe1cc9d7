import DeclWeave.Decl.TypeDecl

/-!
# Name Registries

Every rule that makes a member first claims its name. A name that exists already, on the type
itself or on an ancestor, always wins, and the claim fails; the caller then makes nothing.
-/

namespace DeclWeave

/-- The member names known on one type, each once. -/
structure NameRegistry where
  target : String
  names : List String := []
  deriving DecidableEq, Repr, Inhabited

namespace NameRegistry

/-- The names of a declaration's members, and those it inherits. -/
def ofDecl (d : TypeDecl) (inherited : List String) : NameRegistry :=
  ⟨d.name, (inherited ++ d.memberNames).foldl (fun known name => known.insert name) []⟩

def contains (r : NameRegistry) (name : String) : Bool :=
  r.names.contains name

/-- Takes a free name. -/
def claim? (r : NameRegistry) (name : String) : Option NameRegistry :=
  if r.contains name then none else some { r with names := name :: r.names }

/-- Takes a name, or says that it exists. -/
def claim (r : NameRegistry) (name : String) : Except Fault NameRegistry :=
  match r.claim? name with
  | some r => .ok r
  | none => .error ⟨.policyConflict r.target name, none⟩

/-- Keeps a member if its name is free, and takes the name. -/
def accept (r : NameRegistry) (m : Member) : List Member × NameRegistry :=
  match r.claim? m.name with
  | some r => ([m], r)
  | none => ([], r)

def size (r : NameRegistry) : Nat :=
  r.names.length

theorem claim?_eq_none_iff {r : NameRegistry} {name : String} :
    r.claim? name = none ↔ name ∈ r.names := by
  simp [claim?, contains]

theorem names_of_claim? {r r' : NameRegistry} {name : String} (h : r.claim? name = some r') :
    r'.names = name :: r.names := by
  unfold claim? at h
  split at h
  · simp at h
  · simp only [Option.some.injEq] at h
    exact h ▸ rfl

end NameRegistry

end DeclWeave
