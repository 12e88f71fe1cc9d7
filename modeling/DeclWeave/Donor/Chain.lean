import DeclWeave.Donor.Bank

/-!
# Donor Chains

Interfaces implement interfaces. The donors of a class are found depth-first in the order
declared, each name once; a rejected donor is left out, but the interfaces behind it are not.
Type arguments are carried along: a donor's parameters are bound by the reference that first
reaches it.
-/

namespace DeclWeave

open DeclWeave.Graph (fresh)

/-- A donor with its type parameters bound. -/
structure Donor where
  bank : DonorBank
  bindings : Bindings
  deriving Repr, Inhabited

/-- The donors known, each name once. -/
structure DonorRegistry where
  banks : List DonorBank := []
  deriving Repr, Inhabited

namespace DonorRegistry

def find? (r : DonorRegistry) (name : String) : Option DonorBank :=
  r.banks.find? (·.name == name)

/-- Adds a bank, in the place of one of the same name. -/
def insert (r : DonorRegistry) (bank : DonorBank) : DonorRegistry :=
  ⟨r.banks.filter (·.name != bank.name) ++ [bank]⟩

/-- Builds and adds the bank of an interface. -/
def register (r : DonorRegistry) (settings : Settings) (plan : TypeDecl) :
    DonorRegistry × Diagnostics :=
  let (bank, found) := DonorBank.ofDecl settings plan
  (r.insert bank, found)

def names (r : DonorRegistry) : List String :=
  r.banks.map (·.name)

theorem mem_names_of_find? {r : DonorRegistry} {name : String} {bank : DonorBank}
    (h : r.find? name = some bank) : name ∈ r.names := by
  have hname := List.find?_some h
  simp only [beq_iff_eq] at hname
  exact hname ▸ List.mem_map_of_mem (List.mem_of_find?_eq_some h)

/-- The donors reached from some references when the donors `visited` are left out. -/
def chainFrom (r : DonorRegistry) (visited : List String) (refs : List TypeRef) : List Donor :=
  match refs with
  | [] => []
  | ref :: rest =>
    if _hv : ref.name ∈ visited then r.chainFrom visited rest
    else
      match _h : r.find? ref.name with
      | none => r.chainFrom visited rest
      | some bank =>
        let bindings := Bindings.ofParams bank.typeParams ref.args
        let parents := bank.interfaces.map (·.substitute bindings)
        (if bank.rejected then [] else [⟨bank, bindings⟩]) ++
          r.chainFrom (ref.name :: visited) (parents ++ rest)
termination_by ((fresh r.names visited).length, refs.length)
decreasing_by
  · exact Prod.Lex.right _ (by simp)
  · exact Prod.Lex.right _ (by simp)
  · exact Prod.Lex.left _ _
      (Graph.fresh_length_lt_cons (Graph.mem_fresh.2 ⟨mem_names_of_find? _h, _hv⟩))

/-- The donors of a type that implements the given interfaces. -/
def chain (r : DonorRegistry) (interfaces : List TypeRef) : List Donor :=
  r.chainFrom [] interfaces

end DonorRegistry

end DeclWeave
