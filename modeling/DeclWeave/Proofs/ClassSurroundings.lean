import DeclWeave.Proofs.NoClobber
import DeclWeave.Proofs.SecondExpansion

/-!
# What a Class Builds On

A class inherits what the scope of its turn has above it: finished plans of what was expanded
before, and declarations as written of the rest. The result of an expansion has a plan for each of
these, and the line of superclasses in it is the same, type by type. Where no circle is reported,
everything above a class was expanded before, so that what it inherits is what the plans above its
plan have. Its donors are those of the whole unit: all interfaces come before it, and no class is a
donor.

## Main results

* `Expansion.forall₂_superclasses_turn`: what a class saw above it, against the plans above it.
* `Expansion.superclasses_turn_eq`: the same without circles.
* `Expansion.chain_turn_eq`: the donors of a class.
-/

namespace DeclWeave

/-- Registries in which the same is found have the same chains. -/
theorem DonorRegistry.chainFrom_eq_of_find? {r r' : DonorRegistry}
    (h : ∀ name, r.find? name = r'.find? name) {visited : List String} {refs : List TypeRef} :
    r.chainFrom visited refs = r'.chainFrom visited refs := by
  fun_induction chainFrom r visited refs with
  | case1 visited => rw [chainFrom]
  | case2 visited ref rest hv ih => rw [chainFrom_of_mem_visited hv, ih]
  | case3 visited ref rest hv hnone ih => rw [chainFrom_of_find?_eq_none (h _ ▸ hnone), ih]
  | case4 visited ref rest hv bank hbank bindings parents ih =>
    rw [chainFrom_of_find? hv (h _ ▸ hbank), ih]

open Relation (ReflTransGen TransGen)

namespace Expansion

open Pass

/-- The plans of the superclasses of a plan, the nearest first. -/
def above (e : Expansion) (plan : TypeDecl) : List TypeDecl :=
  Ancestry.superclasses e.toUnit.types plan

variable {settings : Settings} {u : SourceUnit} {d : TypeDecl}

theorem header_planOf (settings : Settings) (types : List TypeDecl) (d : TypeDecl) :
    (planOf settings types d).header = d.header :=
  Synthesis.header_ofDecl _ d

theorem isInterface_planOf (settings : Settings) (types : List TypeDecl) (d : TypeDecl) :
    (planOf settings types d).emit.isInterface = d.isInterface := by
  rw [TypeDecl.isInterface, TypeDecl.isInterface,
    ← TypeDecl.kind_eq_of_header (header_planOf settings types d)]
  rfl

theorem types_toUnit_expand (settings : Settings) (hnames : (u.types.map (·.name)).Nodup) :
    (expand settings u).toUnit.types =
      u.types.map fun d => (planOf settings u.types d).emit := by
  rw [toUnit, plans_expand settings hnames, List.map_map]
  rfl

theorem find?_toUnit_expand (settings : Settings) (hnames : (u.types.map (·.name)).Nodup)
    (name : String) : TypeScope.find? (expand settings u).toUnit.types name =
      (u.find? name).map fun d => (planOf settings u.types d).emit := by
  have hname : ((fun d : TypeDecl => d.name == name) ∘ fun d =>
      (planOf settings u.types d).emit) = fun d => d.name == name := by
    funext d
    rw [Function.comp_apply, TypeDecl.name_emit, planOf, Synthesis.name_ofDecl]
  rw [TypeScope.find?, types_toUnit_expand settings hnames, List.find?_map, hname]
  rfl

/-- What a declaration of a name is seen as at a turn, against its plan. -/
def SeenAs (settings : Settings) (types : List TypeDecl) (name : String) (seen plan : TypeDecl) :
    Prop :=
  ∃ e ∈ types, plan = (planOf settings types e).emit ∧
    ((e ∈ before types name ∧ seen = plan) ∨ (e ∉ before types name ∧ seen = e))

theorem SeenAs.superclass_eq {types : List TypeDecl} {name : String} {seen plan : TypeDecl}
    (h : SeenAs settings types name seen plan) : seen.superclass = plan.superclass := by
  obtain ⟨e, -, rfl, ⟨-, rfl⟩ | ⟨-, rfl⟩⟩ := h
  · rfl
  · rw [← TypeDecl.superclass_eq_of_header (header_planOf settings types seen)]
    rfl

theorem SeenAs.name_eq {types : List TypeDecl} {name : String} {seen plan : TypeDecl}
    (h : SeenAs settings types name seen plan) : seen.name = plan.name := by
  obtain ⟨e, -, rfl, ⟨-, rfl⟩ | ⟨-, rfl⟩⟩ := h
  · rfl
  · exact (Synthesis.name_ofDecl _ seen).symm

/-- **What is above a type** at its turn are the plans above its plan, as far as they were made by
then. -/
theorem forall₂_superclasses_turn (hnames : (u.types.map (·.name)).Nodup) (hd : d ∈ u.types) :
    List.Forall₂ (SeenAs settings u.types d.name)
      (Ancestry.superclasses (turn settings u.types d.name).scope d)
      ((expand settings u).above (planOf settings u.types d).emit) := by
  have hfind : ∀ name, Option.Rel (SeenAs settings u.types d.name)
      ((turn settings u.types d.name).scope.find? name)
      (TypeScope.find? (expand settings u).toUnit.types name) := by
    intro name
    rw [find?_toUnit_expand settings hnames]
    by_cases hmem : name ∈ (before u.types d.name).map (·.name)
    · obtain ⟨e, he, rfl⟩ := List.mem_map.mp hmem
      have he' := mem_of_mem_before he
      rw [find?_scope_turn settings hnames hd he, SourceUnit.find?,
        TypeDecl.find?_name_eq_some hnames he']
      exact .some ⟨e, he', rfl, .inl ⟨he, rfl⟩⟩
    · rw [turn, find?_scope_after_of_not_mem settings hmem, SourceUnit.find?]
      cases hfind : u.types.find? (·.name == name) with
      | none => exact .none
      | some e =>
        obtain rfl := TypeDecl.name_of_find? hfind
        exact .some ⟨e, List.mem_of_find?_eq_some hfind, rfl,
          .inr ⟨fun he => hmem (List.mem_map_of_mem he), rfl⟩⟩
  have hsuper : (planOf settings u.types d).emit.superclass = d.superclass :=
    TypeDecl.superclass_eq_of_header (header_planOf settings u.types d)
  have hname : (planOf settings u.types d).emit.name = d.name := Synthesis.name_ofDecl _ d
  rw [above, Ancestry.superclasses, Ancestry.superclasses, hsuper, hname,
    List.forall₂_map_left_iff, List.forall₂_map_right_iff]
  exact TypeScope.forall₂_lineage hfind (fun _ _ => SeenAs.superclass_eq) _ _

/-- References lead from a type to what is above it. -/
theorem extends_of_mem_superclasses (hnames : (u.types.map (·.name)).Nodup) (hd : d ∈ u.types)
    {c : TypeDecl}
    (hc : c ∈ Ancestry.superclasses (turn settings u.types d.name).scope d) :
    TransGen (TypeScope.Extends u.types) d.name c.name := by
  have hfaithful : Faithful (turn settings u.types d.name) :=
    faithful_after settings u.types hnames fun _ => mem_of_mem_before
  obtain ⟨x, hx, rfl⟩ := List.mem_map.mp hc
  obtain ⟨hfind, r, hr, hreach⟩ := TypeScope.extends_of_mem_lineage hx
  rw [extends_scope_eq hfaithful, types_turn] at hreach
  have hsuper : d.superclass = some r := hr
  have hd' : TypeScope.find? u.types d.name = some d := TypeDecl.find?_name_eq_some hnames hd
  have hfound : ∃ e, TypeScope.find? u.types r.name = some e := by
    have hx' := header_find?_scope hfaithful x.1.name
    rw [hfind, types_turn] at hx'
    obtain ⟨e, he, -⟩ := Option.map_eq_some_iff.mp hx'.symm
    obtain heq | ⟨y, ⟨e', -, he', -⟩, -⟩ := ReflTransGen.cases_head hreach
    · exact ⟨e, heq ▸ he⟩
    · exact ⟨e', he'⟩
  obtain ⟨e, he⟩ := hfound
  exact .head' ⟨d, e, hd', he, by rw [hsuper]; rfl⟩ hreach

/-- **Without circles** a class inherits from the plans above its plan. -/
theorem superclasses_turn_eq (hnames : (u.types.map (·.name)).Nodup)
    (hcyclic : Order.cyclic u.types = []) (hd : d ∈ u.types) (hclass : d.isInterface = false) :
    Ancestry.superclasses (turn settings u.types d.name).scope d =
      (expand settings u).above (planOf settings u.types d).emit := by
  obtain ⟨k₁, k₂, hsorted⟩ := List.append_of_mem ((Order.mem_sorted hnames).mpr hd)
  have hd' : TypeScope.find? u.types d.name = some d := TypeDecl.find?_name_eq_some hnames hd
  -- Whatever is above the class comes before it, so that it was seen as its plan.
  have hseen : ∀ c a, TransGen (TypeScope.Extends u.types) d.name c.name ∧
      SeenAs settings u.types d.name c a → c = a := by
    rintro c a ⟨hreach, hsees⟩
    rw [hsees.name_eq] at hreach
    obtain ⟨e, he, rfl, ⟨-, hc⟩ | ⟨hbefore, -⟩⟩ := hsees
    · exact hc
    · rw [TypeDecl.name_emit, planOf, Synthesis.name_ofDecl] at hreach
      obtain ⟨e', he', hfind⟩ := Order.mem_before_of_extends hnames hcyclic hreach hd' hsorted
      obtain rfl : e = e' :=
        Option.some.inj ((TypeDecl.find?_name_eq_some hnames he).symm.trans hfind)
      exact absurd ((mem_before_iff hsorted he').mpr (by simp [hclass])) hbefore
  rw [← List.forall₂_eq_eq_eq]
  exact ((List.forall₂_and_left _ _).mpr ⟨fun c hc => extends_of_mem_superclasses hnames hd hc,
    forall₂_superclasses_turn hnames hd⟩).imp hseen

/-! ### Donors -/

/-- The donors of a plan among those that a unit has. -/
def donorsOf (settings : Settings) (u : SourceUnit) (plan : TypeDecl) : List Donor :=
  (run settings (markFirst [] u.types)).context.donors.chain plan.interfaces

/-- **The donors of a class** are those that the unit has for it in the end. -/
theorem chain_turn_eq (hnames : (u.types.map (·.name)).Nodup) (hd : d ∈ u.types)
    (hclass : d.isInterface = false) :
    (turn settings u.types d.name).donors.chain d.interfaces =
      donorsOf settings u (planOf settings u.types d).emit := by
  have hinterfaces : (planOf settings u.types d).emit.interfaces = d.interfaces :=
    TypeDecl.interfaces_eq_of_header (header_planOf settings u.types d)
  rw [donorsOf, markFirst_eq_of_nodup hnames (by simp), run_eq_after, hinterfaces]
  refine DonorRegistry.chainFrom_eq_of_find? fun name => ?_
  rw [find?_donors_turn_of_class hnames hd hclass]
  cases hfind : u.types.find? (·.name == name) with
  | none =>
    have hmem : name ∉ (queue u.types).map (·.name) := fun hmem => by
      obtain ⟨e, he, rfl⟩ := List.mem_map.mp hmem
      rw [TypeDecl.find?_name_eq_some hnames (mem_of_mem_queue he)] at hfind
      exact absurd hfind (by simp)
    rw [find?_donors_after_of_not_mem settings hmem]
    rfl
  | some e =>
    obtain rfl := TypeDecl.name_of_find? hfind
    have he := List.mem_of_find?_eq_some hfind
    obtain ⟨rest, hqueue⟩ := exists_queue_eq hnames he
    rw [after, find?_donors (nodup_map_name_queue u.types) hqueue, context_start,
      Option.filter_some]
    have hdonates : donates ((before u.types e.name).foldl expandType
        (start settings (u.types.map (·, true)))).context e =
        (e.isInterface && settings.carriesOut e) := by
      rw [donates, Context.sugarEnabled, settings_foldl, context_start]
      rfl
    rw [hdonates]
    split <;> rfl

/-- Each donor of a class is the bank of an interface of the unit, made from its plan. -/
theorem exists_of_mem_donorsOf (hnames : (u.types.map (·.name)).Nodup) (hd : d ∈ u.types)
    (hclass : d.isInterface = false) {donor : Donor}
    (h : donor ∈ donorsOf settings u (planOf settings u.types d).emit) :
    ∃ e ∈ u.types, e.isInterface = true ∧ settings.carriesOut e = true ∧
      donor.bank = (DonorBank.ofDecl settings (planOf settings u.types e)).1 := by
  rw [← chain_turn_eq hnames hd hclass] at h
  obtain ⟨name, hfind⟩ := DonorRegistry.exists_find?_of_mem_chainFrom h
  rw [find?_donors_turn_of_class hnames hd hclass] at hfind
  obtain ⟨e, he, hbank⟩ := Option.map_eq_some_iff.mp hfind
  obtain ⟨hfind', hdonates⟩ := Option.filter_eq_some_iff.mp he
  obtain ⟨hinterface, hsugar⟩ := Bool.and_eq_true_iff.mp hdonates
  exact ⟨e, List.mem_of_find?_eq_some hfind', hinterface, hsugar, hbank.symm⟩

end Expansion

end DeclWeave
