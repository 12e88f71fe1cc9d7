import DeclWeave.Expansion.Ancestry
import DeclWeave.Proofs.DepthFirstOrder
import DeclWeave.Proofs.SynthesisLocality
import DeclWeave.Proofs.SynthesizedNames

/-!
# Marks of Members

A member carries marks that opt it in and out, and expansion hands the marks of a declaration down
to its members. `unmarked` forgets the marks of members, and keeps those of the declaration. What
a type inherits, and which members the donors of its chain have, is not a matter of the marks: it
is the same up to marks where what is found under each name is.

## Main results

* `Ancestry.names_congr`: inherited names.
* `DonorBank.ofDecl_of_untagged`: the bank of an interface of which no member has a directive.
* `DonorRegistry.map_unmarked_chainFrom`: the donors of a chain.
-/

namespace DeclWeave

namespace Member

/-- A member without its marks. -/
def unmarked (m : Member) : Member :=
  { m with sugar := {} }

end Member

namespace TypeDecl

/-- A declaration whose members have no marks. -/
def unmarked (d : TypeDecl) : TypeDecl :=
  { d with members := d.members.map Member.unmarked }

variable {d e : TypeDecl}

theorem header_eq_of_unmarked (h : d.unmarked = e.unmarked) : d.header = e.header :=
  (congrArg header h : d.unmarked.header = e.unmarked.header)

theorem members_eq_of_unmarked (h : d.unmarked = e.unmarked) :
    d.members.map Member.unmarked = e.members.map Member.unmarked :=
  (congrArg members h : d.unmarked.members = e.unmarked.members)

/-- Declarations that are the same up to marks have the same members up to them. -/
theorem exists_mem_of_unmarked (h : d.unmarked = e.unmarked) {m : Member} (hm : m ∈ d.members) :
    ∃ m' ∈ e.members, m'.unmarked = m.unmarked :=
  List.mem_map.mp (members_eq_of_unmarked h ▸ List.mem_map_of_mem hm)

end TypeDecl

/-! ### What is inherited -/

namespace TypeScope

variable {scope scope' : TypeScope} {seen : List String} {start : Option TypeRef}

/-- Two scopes agree up to marks. -/
def AgreeUnmarked (scope scope' : TypeScope) : Prop :=
  ∀ name, (scope.find? name).map TypeDecl.unmarked = (scope'.find? name).map TypeDecl.unmarked

/-- **Lines of superclasses** are the same up to marks in scopes that agree up to them. -/
theorem map_unmarked_lineage (h : scope.AgreeUnmarked scope') :
    (scope.lineage (fun d _ => d.superclass) seen start).map (·.1.unmarked) =
      (scope'.lineage (fun d _ => d.superclass) seen start).map (·.1.unmarked) := by
  have hfind : ∀ name,
      Option.Rel (fun d d' => d.unmarked = d'.unmarked) (scope.find? name) (scope'.find? name) := by
    intro name
    have hname := h name
    cases hd : scope.find? name <;> cases hd' : scope'.find? name <;> rw [hd, hd'] at hname
    · exact .none
    · exact absurd hname (by simp)
    · exact absurd hname (by simp)
    · exact .some (Option.some.inj hname)
  rw [← List.forall₂_eq_eq_eq, List.forall₂_map_left_iff, List.forall₂_map_right_iff]
  exact forall₂_lineage hfind
    (fun d d' hsame => TypeDecl.superclass_eq_of_header (TypeDecl.header_eq_of_unmarked hsame)) _ _

end TypeScope

/-- **Inherited names** are no matter of marks. -/
theorem Ancestry.names_congr {scope scope' : TypeScope} (h : scope.AgreeUnmarked scope')
    (d : TypeDecl) : (Ancestry.of scope d).names = (Ancestry.of scope' d).names := by
  have hnames : ∀ scope : TypeScope, (Ancestry.of scope d).names =
      ((superclasses scope d).map TypeDecl.unmarked).flatMap fun c =>
        (c.members.filter (!·.isConstructor)).map (·.name) := by
    intro scope
    rw [List.flatMap_map]
    refine List.flatMap_congr fun c _ => ?_
    rw [TypeDecl.unmarked, List.filter_map, List.map_map]
    rfl
  have hline : (superclasses scope d).map TypeDecl.unmarked =
      (superclasses scope' d).map TypeDecl.unmarked := by
    rw [superclasses, superclasses, List.map_map, List.map_map]
    exact TypeScope.map_unmarked_lineage h
  rw [hnames, hnames, hline]

/-! ### What donors have -/

namespace DonorBank

/-- A bank whose members have no marks. -/
def unmarked (b : DonorBank) : DonorBank :=
  { b with members := b.members.map Member.unmarked }

/-- Without demands there is no circle of them. -/
theorem findCycle_of_untagged {b : DonorBank} (h : ∀ i, b.demand i = none) :
    b.findCycle = none := by
  have hnone : DepthFirst.backEdges (DepthFirst.trace b.handles fun i =>
      ((b.demand i).getD []).map (·, ())) = [] := by
    refine List.eq_nil_iff_forall_not_mem.mpr fun (path, label) hback => ?_
    have hcircle := DepthFirst.isCircle_of_mem_backEdges hback
    obtain ⟨-, first, last, -, -, -, hedge⟩ := hcircle
    simp [h] at hedge
  rw [findCycle, hnone]

/-- **The bank of an untagged interface**: none of its members demands another one. -/
theorem ofDecl_of_untagged (settings : Settings) {plan : TypeDecl}
    (h : ∀ m ∈ plan.members, m.directives = []) :
    (ofDecl settings plan).1 =
      { name := plan.name
        typeParams := plan.typeParams
        interfaces := plan.interfaces
        span := plan.span
        members := plan.members.filter isDonated
        demands := (plan.members.filter isDonated).map fun _ => none
        rejected := false } := by
  have hdemands : (plan.members.filter isDonated).map
      (demandOf (plan.members.filter isDonated)) =
        (plan.members.filter isDonated).map fun _ => none := by
    refine List.map_congr_left fun m hm => ?_
    rw [demandOf, Member.usedOnlyBy?, h m (List.mem_filter.mp hm).1]
    rfl
  rw [ofDecl]
  dsimp only
  rw [hdemands, findCycle_of_untagged]
  intro i
  rw [demand, List.getD_eq_getElem?_getD, List.getElem?_map]
  cases (plan.members.filter isDonated)[i]? <;> rfl

/-- Up to marks, such a bank is that of the interface without marks. -/
theorem unmarked_ofDecl_congr (settings : Settings) {plan plan' : TypeDecl}
    (h : ∀ m ∈ plan.members, m.directives = []) (hsame : plan'.unmarked = plan.unmarked) :
    (ofDecl settings plan').1.unmarked = (ofDecl settings plan).1.unmarked := by
  have hmembers := TypeDecl.members_eq_of_unmarked hsame
  have hheader := TypeDecl.header_eq_of_unmarked hsame
  have h' : ∀ m ∈ plan'.members, m.directives = [] := by
    intro m hm
    obtain ⟨m₀, hm₀, heq⟩ := TypeDecl.exists_mem_of_unmarked hsame hm
    have hdirectives : m₀.directives = m.directives := congrArg (·.directives) heq
    rw [← hdirectives, h m₀ hm₀]
  have hdonated : ∀ members : List Member, (members.filter isDonated).map Member.unmarked =
      (members.map Member.unmarked).filter isDonated := by
    intro members
    rw [List.filter_map]
    rfl
  have hdemands : ∀ members : List Member,
      ((members.filter isDonated).map fun _ => (none : Option (List ℕ))) =
        ((members.map Member.unmarked).filter isDonated).map fun _ => none := by
    intro members
    rw [← hdonated, List.map_map]
    rfl
  rw [ofDecl_of_untagged settings h, ofDecl_of_untagged settings h', unmarked, unmarked]
  dsimp only
  rw [hdonated, hdonated, hdemands, hdemands plan.members, hmembers,
    TypeDecl.name_eq_of_header hheader, TypeDecl.typeParams_eq_of_header hheader,
    TypeDecl.interfaces_eq_of_header hheader]
  congr 1
  exact congrArg (·.span) hheader

end DonorBank

/-- A donor whose members have no marks. -/
def Donor.unmarked (d : Donor) : Donor :=
  { d with bank := d.bank.unmarked }

namespace DonorRegistry

variable {r r' : DonorRegistry} {visited : List String} {refs : List TypeRef}

/-- **The donors of a chain** are the same up to marks in registries that agree up to them. -/
theorem map_unmarked_chainFrom
    (h : ∀ name, (r.find? name).map DonorBank.unmarked = (r'.find? name).map DonorBank.unmarked) :
    (r.chainFrom visited refs).map Donor.unmarked =
      (r'.chainFrom visited refs).map Donor.unmarked :=
  map_chainFrom_congr DonorBank.unmarked (fun _ => rfl) (fun _ => rfl) (fun _ => rfl) h

end DonorRegistry

end DeclWeave
