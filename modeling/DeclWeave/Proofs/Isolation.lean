import DeclWeave.Proofs.ExpansionPass
import DeclWeave.Proofs.SynthesisLocality

/-!
# Isolation of Types

What becomes of a type is fixed by the types that its references lead to. In two units that
declare these alike, the type has the same plan and the same findings, whatever else is declared
and in whatever order.

Two runs are compared turn by turn. When it is the turn of a type, those that its references lead
to have either been expanded, and then to the same plans by induction along the dependency order,
or they are still as written; and which of the two does not depend on the unit: before a class all
of them have been expanded, before an interface just the interfaces. So the two turns cannot be
told apart, and synthesis, which looks at nothing else, does the same in both.

## Main results

* `Expansion.turn_agreeOn`: two turns of a type agree on what its references lead to.
* `Expansion.sameAt_of_mem_sees`: what those names mean at the turns, where plans are the same.
* `Expansion.ofDecl_turn_congr`: the plans made at the two turns, by induction.
* `Expansion.expand_isolated`: the plan of a type and the findings about it in two units.
-/

namespace DeclWeave

open Relation (ReflTransGen TransGen)

/-! ### References among declared types -/

namespace SourceUnit

/-- A declared type refers to another one: it has it as superclass, implements it, or forwards to
it. -/
def References (u : SourceUnit) (a b : String) : Prop :=
  ∃ d e, u.find? a = some d ∧ u.find? b = some e ∧
    ∃ r ∈ d.supertypes ++ d.delegateTypes, r.name = b

/-- A unit whose references are in order: names are distinct, references make no circle, and no
type has a type parameter of its own as supertype. -/
structure Layered (u : SourceUnit) : Prop where
  nodup_names : (u.types.map (·.name)).Nodup
  acyclic : ∀ a, ¬TransGen u.References a a
  plain : ∀ d ∈ u.types, ∀ r ∈ d.supertypes, r.name ∉ d.typeParams

variable {u : SourceUnit} {d e : TypeDecl} {a b : String}

theorem mem_names_iff : a ∈ u.types.map (·.name) ↔ ∃ d, u.find? a = some d :=
  TypeDecl.mem_map_name_iff

theorem mem_dependencies {d : TypeDecl} {name : String} :
    (∃ dep, (name, dep) ∈ d.dependencies) ↔
      ∃ r ∈ d.supertypes ++ d.delegateTypes, r.name = name := by
  simp only [TypeDecl.dependencies, List.mem_append, List.mem_map, Prod.mk.injEq]
  constructor
  · rintro ⟨dep, ⟨r, hr, hname, -⟩ | ⟨r, hr, hname, -⟩⟩
    · exact ⟨r, .inl hr, hname⟩
    · exact ⟨r, .inr hr, hname⟩
  · rintro ⟨r, hr | hr, hname⟩
    · exact ⟨.strong, .inl ⟨r, hr, hname, rfl⟩⟩
    · exact ⟨.weak, .inr ⟨r, hr, hname, rfl⟩⟩

/-- References are the edges that the search for the dependency order follows. -/
theorem references_of_depends (h : Order.Depends u.types a b) : u.References a b := by
  obtain ⟨hb, label, hedge⟩ := h
  obtain ⟨e, he⟩ := mem_names_iff.mp hb
  rw [Order.edges] at hedge
  split at hedge
  · rename_i d hd
    exact ⟨d, e, hd, he, mem_dependencies.mp ⟨label, hedge⟩⟩
  · exact absurd hedge List.not_mem_nil

namespace Layered

theorem not_transGen_depends (h : u.Layered) (a : String) :
    ¬TransGen (Order.Depends u.types) a a :=
  fun hcircle => h.acyclic a (TransGen.mono (fun _ _ => references_of_depends) _ _ hcircle)

theorem cyclic_eq_nil (h : u.Layered) : Order.cyclic u.types = [] :=
  Order.cyclic_eq_nil h.not_transGen_depends

theorem find?_name (h : u.Layered) (hd : d ∈ u.types) : u.find? d.name = some d :=
  TypeDecl.find?_name_eq_some h.nodup_names hd

/-- **What references lead to** comes first. -/
theorem mem_before_of_references (h : u.Layered) (hreach : TransGen u.References a b)
    (hd : u.find? a = some d) {k₁ k₂ : List TypeDecl}
    (hsorted : Order.sorted u.types = k₁ ++ d :: k₂) : ∃ e ∈ k₁, u.find? b = some e := by
  refine Order.mem_before_of_transGen (fun hstep hd hsorted => ?_) hreach hd hsorted
  obtain ⟨d', e, hd', he, href⟩ := hstep
  obtain rfl := Option.some.inj (hd'.symm.trans hd)
  obtain ⟨dep, hdep⟩ := mem_dependencies.mpr href
  rw [← TypeDecl.name_of_find? he] at hdep
  exact ⟨e, Order.mem_before_of_acyclic h.nodup_names h.not_transGen_depends hsorted hdep
    (List.mem_of_find?_eq_some he), he⟩

/-- The order of declarations does not matter to what a name means. -/
theorem find?_of_perm (h : u.Layered) {v : SourceUnit} (hperm : v.types.Perm u.types)
    (name : String) : v.find? name = u.find? name := by
  have hnames : (v.types.map (·.name)).Nodup := (hperm.map _).nodup_iff.mpr h.nodup_names
  cases hfind : u.find? name with
  | some d =>
    obtain rfl : d.name = name := TypeDecl.name_of_find? hfind
    exact TypeDecl.find?_name_eq_some hnames
      (hperm.mem_iff.mpr (List.mem_of_find?_eq_some hfind))
  | none =>
    refine TypeDecl.find?_name_eq_none_iff.mpr fun hmem => ?_
    exact TypeDecl.find?_name_eq_none_iff.mp hfind ((hperm.map _).mem_iff.mp hmem)

theorem of_perm (h : u.Layered) {v : SourceUnit} (hperm : v.types.Perm u.types) :
    v.Layered where
  nodup_names := (hperm.map _).nodup_iff.mpr h.nodup_names
  acyclic a hcircle := by
    refine h.acyclic a (TransGen.mono (fun x y hstep => ?_) _ _ hcircle)
    obtain ⟨d, e, hd, he, href⟩ := hstep
    rw [h.find?_of_perm hperm] at hd he
    exact ⟨d, e, hd, he, href⟩
  plain d hd := h.plain d (hperm.mem_iff.mp hd)

end Layered

/-- References from a type are the same where it, and all that they lead to, is declared alike. -/
theorem transGen_references_congr {v : SourceUnit} {y : String}
    (hsame : ∀ b, ReflTransGen u.References y b → u.find? b = v.find? b)
    (h : TransGen u.References y b) : TransGen v.References y b := by
  have hstep : ∀ {a b : String}, ReflTransGen u.References y a → u.References a b →
      v.References a b := by
    intro a b ha href
    have ha' := hsame a ha
    have hb' := hsame b (ha.tail href)
    obtain ⟨d, e, hd, he, hrefs⟩ := href
    exact ⟨d, e, ha' ▸ hd, hb' ▸ he, hrefs⟩
  induction h with
  | single href => exact .single (hstep .refl href)
  | tail hreach href ih => exact ih.tail (hstep hreach.to_reflTransGen href)

/-- The names that a type can see: those that its references lead to, and those of no type. -/
def Sees (u : SourceUnit) (y : String) : Set String :=
  {b | u.find? b = none ∨ ReflTransGen u.References y b}

/-- Whatever a type that is seen refers to is seen. -/
theorem mem_sees_of_ref {y : String} (hd : u.find? a = some d) (ha : a ∈ u.Sees y) {r : TypeRef}
    (hr : r ∈ d.supertypes ++ d.delegateTypes) : r.name ∈ u.Sees y := by
  obtain hnone | hreach := ha
  · exact absurd (hnone.symm.trans hd) (by simp)
  · cases hfind : u.find? r.name with
    | none => exact .inl hfind
    | some e => exact .inr (hreach.tail ⟨d, e, hd, hfind, r, hr, rfl⟩)

end SourceUnit

/-! ### Two turns of a type -/

namespace Expansion

open Pass SourceUnit

variable {settings : Settings} {u v : SourceUnit} {d : TypeDecl}

/-- What is found under a name when it is the turn of a type stands for a declared type with the
same header. -/
theorem exists_of_find?_scope_turn (hu : u.Layered) {name y : String} {e : TypeDecl}
    (he : (turn settings u.types y).scope.find? name = some e) :
    ∃ e', u.find? name = some e' ∧ e'.header = e.header := by
  have hfaithful : Faithful (turn settings u.types y) :=
    faithful_after settings u.types hu.nodup_names fun _ => mem_of_mem_before
  have hheader := header_find?_scope hfaithful name
  rw [he, types_turn] at hheader
  exact Option.map_eq_some_iff.mp hheader.symm

theorem exists_of_find?_donors_turn (hu : u.Layered) (hd : d ∈ u.types) {name : String}
    {bank : DonorBank}
    (hbank : (turn settings u.types d.name).donors.find? name = some bank) :
    ∃ e, u.find? name = some e ∧ bank.interfaces = e.interfaces ∧
      bank.typeParams = e.typeParams := by
  by_cases hmem : name ∈ (before u.types d.name).map (·.name)
  · obtain ⟨e, he, rfl⟩ := List.mem_map.mp hmem
    rw [find?_donors_turn settings hu.nodup_names hd he] at hbank
    split at hbank
    · obtain rfl := Option.some.inj hbank
      have hheader := Synthesis.header_ofDecl (turn settings u.types e.name) e
      refine ⟨e, hu.find?_name (mem_of_mem_before he), ?_, ?_⟩
      · rw [DonorBank.interfaces_ofDecl, TypeDecl.interfaces_eq_of_header hheader]
      · rw [DonorBank.typeParams_ofDecl, TypeDecl.typeParams_eq_of_header hheader]
    · exact absurd hbank (by simp)
  · rw [turn, find?_donors_after_of_not_mem settings hmem] at hbank
    exact absurd hbank (by simp)

/-- No reference leads out of what a type sees. -/
theorem closed_turn (hu : u.Layered) (hd : d ∈ u.types) :
    (turn settings u.types d.name).Closed (u.Sees d.name) where
  supertypes name hname e he r hr := by
    obtain ⟨e', he', hheader⟩ := exists_of_find?_scope_turn hu he
    have hsupertypes : e.supertypes = e'.supertypes := by
      rw [TypeDecl.supertypes, TypeDecl.supertypes, TypeDecl.superclass_eq_of_header hheader,
        TypeDecl.interfaces_eq_of_header hheader]
    rw [hsupertypes] at hr
    rw [← TypeDecl.typeParams_eq_of_header hheader]
    exact ⟨mem_sees_of_ref he' hname (List.mem_append_left _ hr),
      hu.plain e' (List.mem_of_find?_eq_some he') r hr⟩
  donors name hname bank hbank r hr := by
    obtain ⟨e, he, hinterfaces, htypeParams⟩ := exists_of_find?_donors_turn hu hd hbank
    rw [hinterfaces] at hr
    rw [htypeParams]
    have hr' : r ∈ e.supertypes := List.mem_append_right _ hr
    exact ⟨mem_sees_of_ref he hname (List.mem_append_left _ hr'),
      hu.plain e (List.mem_of_find?_eq_some he) r hr'⟩

/-- What a name means at the turns of a type in two units: it is still as written in both, or it
has been expanded to the same plan in both. -/
def SameAt (settings : Settings) (u v : SourceUnit) (y name : String) : Prop :=
  (u.find? name = v.find? name ∧ name ∉ (before u.types y).map (·.name) ∧
    name ∉ (before v.types y).map (·.name)) ∨
  ∃ e ∈ before u.types y, e ∈ before v.types y ∧ e.name = name ∧
    Synthesis.ofDecl (turn settings u.types name) e =
      Synthesis.ofDecl (turn settings v.types name) e

/-- **Two turns agree** on names that mean the same at both. -/
theorem turn_agreeOn (hu : u.Layered) (hv : v.Layered)
    (hdeclared : ∀ name, name ∈ u.types.map (·.name) ↔ name ∈ v.types.map (·.name))
    (hdu : d ∈ u.types) (hdv : d ∈ v.types) {names : Set String}
    (hsame : ∀ name ∈ names, SameAt settings u v d.name name) :
    (turn settings u.types d.name).AgreeOn (turn settings v.types d.name) names where
  settings_eq := by rw [settings_turn, settings_turn]
  declared_iff name := by
    rw [Context.declared, Context.declared, types_turn, types_turn]
    exact hdeclared name
  find?_eq name hname := by
    obtain ⟨hfind, hnot, hnot'⟩ | ⟨e, he, he', rfl, hplan⟩ := hsame name hname
    · rw [turn, turn, find?_scope_after_of_not_mem settings hnot,
        find?_scope_after_of_not_mem settings hnot']
      exact hfind
    · rw [find?_scope_turn settings hu.nodup_names hdu he,
        find?_scope_turn settings hv.nodup_names hdv he', hplan]
  isFinished_eq name hname := by
    rw [Bool.eq_iff_iff, turn, turn, isFinished_after_iff, isFinished_after_iff]
    obtain ⟨hfind, hnot, hnot'⟩ | ⟨e, he, he', rfl, hplan⟩ := hsame name hname
    · exact iff_of_false hnot hnot'
    · exact iff_of_true (List.mem_map_of_mem he) (List.mem_map_of_mem he')
  donor?_eq name hname := by
    obtain ⟨hfind, hnot, hnot'⟩ | ⟨e, he, he', rfl, hplan⟩ := hsame name hname
    · rw [turn, turn, find?_donors_after_of_not_mem settings hnot,
        find?_donors_after_of_not_mem settings hnot']
    · have hdonates : donates (turn settings u.types e.name) e =
          donates (turn settings v.types e.name) e := by
        rw [donates, donates, Context.sugarEnabled, Context.sugarEnabled, settings_turn,
          settings_turn]
      rw [find?_donors_turn settings hu.nodup_names hdu he,
        find?_donors_turn settings hv.nodup_names hdv he', hplan, hdonates]

theorem name_mem_before_iff (hu : u.Layered) {y : String} {e : TypeDecl} (he : e ∈ u.types) :
    e.name ∈ (before u.types y).map (·.name) ↔ e ∈ before u.types y := by
  refine ⟨fun hmem => ?_, List.mem_map_of_mem⟩
  obtain ⟨e', he', hname⟩ := List.mem_map.mp hmem
  have hfind := hu.find?_name (mem_of_mem_before he')
  rw [hname, hu.find?_name he] at hfind
  exact Option.some.inj hfind ▸ he'

/-- A name that is not declared means nothing in either unit. -/
theorem sameAt_of_find?_eq_none
    (hdeclared : ∀ name, name ∈ u.types.map (·.name) ↔ name ∈ v.types.map (·.name))
    {y name : String} (hnone : u.find? name = none) : SameAt settings u v y name := by
  have hu : name ∉ u.types.map (·.name) := TypeDecl.find?_name_eq_none_iff.mp hnone
  have hv : name ∉ v.types.map (·.name) := fun hmem => hu ((hdeclared name).mpr hmem)
  refine .inl ⟨hnone.trans (TypeDecl.find?_name_eq_none_iff.mpr hv).symm, fun hmem => ?_,
    fun hmem => ?_⟩
  · exact hu (List.map_subset _ (fun _ => mem_of_mem_before) hmem)
  · exact hv (List.map_subset _ (fun _ => mem_of_mem_before) hmem)

/-- **What a type sees** is the same at its two turns, if what it refers to has the same plans. -/
theorem sameAt_of_mem_sees (hu : u.Layered) (hv : v.Layered)
    (hdeclared : ∀ name, name ∈ u.types.map (·.name) ↔ name ∈ v.types.map (·.name))
    (hd : u.find? d.name = some d)
    (hsame : ∀ b, ReflTransGen u.References d.name b → u.find? b = v.find? b)
    (hplans : ∀ e, u.find? e.name = some e → TransGen u.References d.name e.name →
      Synthesis.ofDecl (turn settings u.types e.name) e =
        Synthesis.ofDecl (turn settings v.types e.name) e)
    {name : String} (hname : name ∈ u.Sees d.name) : SameAt settings u v d.name name := by
  have hd' : v.find? d.name = some d := hsame d.name .refl ▸ hd
  rcases hname with hnone | hreach
  · exact sameAt_of_find?_eq_none hdeclared hnone
  rcases Relation.reflTransGen_iff_eq_or_transGen.mp hreach with rfl | htrans
  · exact .inl ⟨hsame _ hreach, not_mem_map_name_before _, not_mem_map_name_before _⟩
  obtain ⟨k₁, k₂, hsorted⟩ :=
    List.append_of_mem ((Order.mem_sorted hu.nodup_names).mpr (List.mem_of_find?_eq_some hd))
  obtain ⟨k₁', k₂', hsorted'⟩ :=
    List.append_of_mem ((Order.mem_sorted hv.nodup_names).mpr (List.mem_of_find?_eq_some hd'))
  obtain ⟨e, he, hfind⟩ := hu.mem_before_of_references htrans hd hsorted
  obtain ⟨e', he', hfind'⟩ := hv.mem_before_of_references
    (transGen_references_congr hsame htrans) hd' hsorted'
  obtain rfl : e = e' := by
    rw [hsame name hreach, hfind'] at hfind
    exact (Option.some.inj hfind).symm
  obtain rfl : e.name = name := TypeDecl.name_of_find? hfind
  -- In both units, the kinds of the two types decide which is expanded first.
  have hbefore := mem_before_iff hsorted he
  have hbefore' := mem_before_iff hsorted' he'
  by_cases hexpanded : d.isInterface → e.isInterface
  · exact .inr ⟨e, hbefore.mpr hexpanded, hbefore'.mpr hexpanded, rfl, hplans e hfind htrans⟩
  · refine .inl ⟨hsame _ hreach, ?_, ?_⟩
    · rw [name_mem_before_iff hu (List.mem_of_find?_eq_some hfind), hbefore]
      exact hexpanded
    · rw [name_mem_before_iff hv (List.mem_of_find?_eq_some hfind'), hbefore']
      exact hexpanded

/-- **The same plan at both turns**, by induction along the dependency order of the first unit. -/
theorem ofDecl_turn_congr (settings : Settings) (hu : u.Layered) (hv : v.Layered)
    (hdeclared : ∀ name, name ∈ u.types.map (·.name) ↔ name ∈ v.types.map (·.name))
    (hd : u.find? d.name = some d)
    (hsame : ∀ b, ReflTransGen u.References d.name b → u.find? b = v.find? b) :
    Synthesis.ofDecl (turn settings u.types d.name) d =
      Synthesis.ofDecl (turn settings v.types d.name) d := by
  have hdu : d ∈ u.types := List.mem_of_find?_eq_some hd
  obtain ⟨k₁, k₂, hsorted⟩ := List.append_of_mem ((Order.mem_sorted hu.nodup_names).mpr hdu)
  induction hlength : k₁.length using Nat.strong_induction_on generalizing d k₁ k₂ with
  | h n ih =>
    subst hlength
    have hdv : d ∈ v.types := List.mem_of_find?_eq_some (hsame d.name .refl ▸ hd)
    have hplans : ∀ e, u.find? e.name = some e → TransGen u.References d.name e.name →
        Synthesis.ofDecl (turn settings u.types e.name) e =
          Synthesis.ofDecl (turn settings v.types e.name) e := by
      intro e hfind htrans
      obtain ⟨e', he, hfind'⟩ := hu.mem_before_of_references htrans hd hsorted
      obtain rfl : e = e' := Option.some.inj (hfind.symm.trans hfind')
      obtain ⟨j₁, j₂, rfl⟩ := List.append_of_mem he
      rw [List.append_assoc, List.cons_append] at hsorted
      exact ih j₁.length (by simp) hfind
        (fun b hb => hsame b (htrans.to_reflTransGen.trans hb))
        (List.mem_of_find?_eq_some hfind) j₁ _ hsorted rfl
    have hagree := turn_agreeOn hu hv hdeclared hdu hdv fun name =>
      sameAt_of_mem_sees hu hv hdeclared hd hsame hplans
    refine Synthesis.ofDecl_congr hagree (closed_turn hu hdu) (fun r hr => ?_) fun r hr => ?_
    · exact mem_sees_of_ref hd (.inr .refl) (List.mem_append_left _ hr)
    · exact mem_sees_of_ref hd (.inr .refl) (List.mem_append_right _ hr)

theorem findings_turn_congr {y : String} (h : Synthesis.ofDecl (turn settings u.types y) d =
      Synthesis.ofDecl (turn settings v.types y) d) :
    findings (turn settings u.types y) d = findings (turn settings v.types y) d := by
  rw [findings, findings, donates, donates, Context.sugarEnabled, Context.sugarEnabled, h,
    settings_turn, settings_turn]

/-- A type that is declared alike in two units, as are all that its references lead to, has the
same plan in both, and the same findings about it. -/
theorem expand_congr (hu : u.Layered) (hv : v.Layered)
    (hdeclared : ∀ name, name ∈ u.types.map (·.name) ↔ name ∈ v.types.map (·.name))
    {y : String} (hy : y ∈ u.types.map (·.name))
    (hsame : ∀ b, ReflTransGen u.References y b → u.find? b = v.find? b) (settings : Settings) :
    (∃ plan, (expand settings u).plan? y = some plan ∧ (expand settings v).plan? y = some plan) ∧
      about y (expand settings u).diagnostics = about y (expand settings v).diagnostics := by
  obtain ⟨d, hd⟩ := mem_names_iff.mp hy
  obtain rfl : d.name = y := TypeDecl.name_of_find? hd
  have hd' : v.find? d.name = some d := hsame d.name .refl ▸ hd
  have hplan := ofDecl_turn_congr settings hu hv hdeclared hd hsame
  have hfindings := findings_turn_congr hplan
  constructor
  · rw [plan?_expand settings hu.nodup_names hu.cyclic_eq_nil,
      plan?_expand settings hv.nodup_names hv.cyclic_eq_nil, hd, hd', Option.map_some,
      Option.map_some, hplan, hfindings]
    exact ⟨_, rfl, rfl⟩
  · rw [about_expand settings hu.nodup_names hu.cyclic_eq_nil (List.mem_of_find?_eq_some hd),
      about_expand settings hv.nodup_names hv.cyclic_eq_nil (List.mem_of_find?_eq_some hd'),
      hfindings]

/-- **Isolation.** Two units declare the same names, and their references are in order. A type
that is declared alike in both, as are all that its references lead to, has the same plan in both,
with the same flag, and the same findings about it in the same order. In particular, the order of
the declarations does not matter to any plan. -/
theorem expand_isolated (hu : u.Layered) (settings : Settings) :
    (∀ v : SourceUnit, v.Layered →
      (∀ name, name ∈ u.types.map (·.name) ↔ name ∈ v.types.map (·.name)) →
      ∀ y ∈ u.types.map (·.name),
        (∀ b, ReflTransGen u.References y b → u.find? b = v.find? b) →
        (∃ plan, (expand settings u).plan? y = some plan ∧
          (expand settings v).plan? y = some plan) ∧
        about y (expand settings u).diagnostics = about y (expand settings v).diagnostics) ∧
    ∀ v : SourceUnit, v.types.Perm u.types →
      ∀ y, (expand settings v).plan? y = (expand settings u).plan? y := by
  refine ⟨fun v hv hdeclared y hy hsame => expand_congr hu hv hdeclared hy hsame settings,
    fun v hperm y => ?_⟩
  have hv := hu.of_perm hperm
  by_cases hy : y ∈ u.types.map (·.name)
  · obtain ⟨⟨plan, hplan, hplan'⟩, -⟩ := expand_congr hu hv
      (fun name => ((hperm.map _).mem_iff).symm) hy
      (fun b _ => (hu.find?_of_perm hperm b).symm) settings
    rw [hplan, hplan']
  · rw [plan?_expand settings hu.nodup_names hu.cyclic_eq_nil,
      plan?_expand settings hv.nodup_names hv.cyclic_eq_nil, hu.find?_of_perm hperm]
    have hnone : u.find? y = none := TypeDecl.find?_name_eq_none_iff.mpr hy
    rw [hnone, Option.map_none, Option.map_none]

/-- A class with a property, the class that it extends, and another type beside them. -/
def pairedUnit (other : TypeDecl) : SourceUnit :=
  let level : Member :=
    { Member.bareField "level" {} with directives := [.accessor { modes := [.readonly] }] }
  ⟨[{ name := "Derived"
      kind := .classType
      superclass := some (.named "Base")
      members := [level] },
    { name := "Base", kind := .classType },
    other]⟩

section Paired

variable {other : TypeDecl}

theorem references_pairedUnit (hsupertypes : other.supertypes = []) (hmembers : other.members = [])
    {a b : String} (h : (pairedUnit other).References a b) : a = "Derived" ∧ b = "Base" := by
  obtain ⟨d, e, hd, he, r, hr, rfl⟩ := h
  have hname := TypeDecl.name_of_find? hd
  have hmem := List.mem_of_find?_eq_some hd
  simp only [pairedUnit, List.mem_cons, List.not_mem_nil, or_false] at hmem
  obtain rfl | rfl | rfl := hmem
  · have hbase : r = .named "Base" := by
      simpa [TypeDecl.supertypes, TypeDecl.delegateTypes, Member.bareField,
        Member.forwardRequest?] using hr
    exact ⟨hname.symm, by rw [hbase]; rfl⟩
  · simp [TypeDecl.supertypes, TypeDecl.delegateTypes] at hr
  · simp [hsupertypes, TypeDecl.delegateTypes, hmembers] at hr

theorem layered_pairedUnit (hname : other.name = "Other") (hsupertypes : other.supertypes = [])
    (hmembers : other.members = []) : (pairedUnit other).Layered where
  nodup_names := by simp [pairedUnit, hname]
  acyclic a h := by
    obtain ⟨b, hab, -⟩ := TransGen.head'_iff.mp h
    obtain ⟨c, -, hca⟩ := TransGen.tail'_iff.mp h
    have hderived := (references_pairedUnit hsupertypes hmembers hab).1
    have hbase := (references_pairedUnit hsupertypes hmembers hca).2
    exact absurd (hderived.symm.trans hbase) (by decide)
  plain d hd := by
    simp only [pairedUnit, List.mem_cons, List.not_mem_nil, or_false] at hd
    obtain rfl | rfl | rfl := hd
    · simp
    · simp
    · simp [hsupertypes]

end Paired

/-- What is declared beside a class does not change its plan. -/
theorem expand_isolated_paired :
    let beside : TypeDecl := { name := "Other", kind := .classType }
    let beside' : TypeDecl := { name := "Other", kind := .interfaceType, typeParams := ["T"] }
    (pairedUnit beside).Layered ∧ (pairedUnit beside').Layered ∧
      pairedUnit beside ≠ pairedUnit beside' ∧
      ∃ plan, (expand { requireOptIn := false } (pairedUnit beside)).plan? "Derived" = some plan ∧
        (expand { requireOptIn := false } (pairedUnit beside')).plan? "Derived" = some plan ∧
        plan.decl.memberNames = ["level", "get_level"] := by
  intro beside beside'
  have hu : (pairedUnit beside).Layered := layered_pairedUnit rfl rfl rfl
  have hv : (pairedUnit beside').Layered := layered_pairedUnit rfl rfl rfl
  refine ⟨hu, hv, fun heq => ?_, ?_⟩
  · exact absurd (congrArg (fun u : SourceUnit => u.types.map (·.kind)) heq) (by decide)
  have hsame : ∀ b, ReflTransGen (pairedUnit beside).References "Derived" b →
      (pairedUnit beside).find? b = (pairedUnit beside').find? b := by
    intro b hb
    rcases ReflTransGen.cases_tail hb with rfl | ⟨c, -, hcb⟩
    · rfl
    · obtain rfl := (references_pairedUnit rfl rfl hcb).2
      rfl
  obtain ⟨⟨plan, hplan, hplan'⟩, -⟩ := (expand_isolated hu { requireOptIn := false }).1
    (pairedUnit beside') hv (by simp [pairedUnit, beside, beside']) "Derived"
    (by simp [pairedUnit]) hsame
  have hnames : ((expand { requireOptIn := false } (pairedUnit beside)).plan? "Derived").map
      (·.decl.memberNames) = some ["level", "get_level"] := by cbv
  rw [hplan] at hnames
  exact ⟨plan, hplan, hplan', Option.some.inj hnames⟩

end Expansion

end DeclWeave
