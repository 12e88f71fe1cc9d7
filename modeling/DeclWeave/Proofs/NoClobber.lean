import DeclWeave.Proofs.ExpansionPass
import DeclWeave.Proofs.LinesOfDescent
import DeclWeave.Proofs.ReadDeclarations

/-!
# No Member Is Clobbered

Expansion never makes a member of a name that exists. In one plan this is the doing of the
registry. Between a class and the types above it, it also needs their order: when no circle is
reported, each type above a class is expanded before it, so that its finished plan is on the line
of descent that the class inherits from.

## Main results

* `Order.mem_before_of_extends`: what superclass references lead to comes first.
* `Expansion.expand_noClobber`: no plan of a unit has a name twice, and none makes a member of a
  name that a type above it has.
-/

namespace DeclWeave

open Relation (ReflTransGen TransGen)

/-! ### Types above a type -/

namespace Order

variable {types : List TypeDecl}

/-- **What superclass references lead to** comes first where no circle is reported. -/
theorem mem_before_of_extends (hnames : (types.map (·.name)).Nodup)
    (hcyclic : cyclic types = []) {a b : String} (h : TransGen (TypeScope.Extends types) a b)
    {d : TypeDecl} (hd : TypeScope.find? types a = some d) {k₁ k₂ : List TypeDecl}
    (hsorted : sorted types = k₁ ++ d :: k₂) :
    ∃ e ∈ k₁, TypeScope.find? types b = some e := by
  refine mem_before_of_transGen (fun hstep hd hsorted => ?_) h hd hsorted
  obtain ⟨d', e, hd', he, hsuper⟩ := hstep
  obtain rfl := Option.some.inj (hd'.symm.trans hd)
  obtain ⟨r, hr, hname⟩ := Option.map_eq_some_iff.mp hsuper
  have hmem : r ∈ d'.supertypes := List.mem_append_left _ (by simp [hr])
  refine ⟨e, mem_before_of_supertypes hnames hsorted (by simp [hcyclic]) hmem
    (List.mem_of_find?_eq_some he) ?_, he⟩
  rw [hname, TypeDecl.name_of_find? he]

/-- Superclass references make no circle where none is reported. -/
theorem not_transGen_extends (hnames : (types.map (·.name)).Nodup) (hcyclic : cyclic types = [])
    (a : String) : ¬TransGen (TypeScope.Extends types) a a := by
  intro h
  obtain ⟨x, ⟨d, -, hd, -⟩, -⟩ := TransGen.head'_iff.mp h
  have hmem : d ∈ sorted types := (mem_sorted hnames).mpr (List.mem_of_find?_eq_some hd)
  obtain ⟨k₁, k₂, hsorted⟩ := List.append_of_mem hmem
  obtain ⟨e, he, hfind⟩ := mem_before_of_extends hnames hcyclic h hd hsorted
  obtain rfl : e = d := Option.some.inj (hfind.symm.trans hd)
  exact not_mem_before_self hsorted he

end Order

/-! ### What a class inherits -/

namespace Expansion

open Pass

variable {c : Context}

theorem extends_iff_header {scope : TypeScope} {a b : String} : scope.Extends a b ↔
    ∃ d e, (scope.find? a).map (·.header) = some d ∧ (scope.find? b).map (·.header) = some e ∧
      d.superclass.map (·.name) = some b := by
  constructor
  · rintro ⟨d, e, hd, he, hsuper⟩
    exact ⟨d.header, e.header, by rw [hd]; rfl, by rw [he]; rfl, hsuper⟩
  · rintro ⟨dHeader, eHeader, hd, he, hsuper⟩
    obtain ⟨d, hd', rfl⟩ := Option.map_eq_some_iff.mp hd
    obtain ⟨e, he', rfl⟩ := Option.map_eq_some_iff.mp he
    exact ⟨d, e, hd', he', hsuper⟩

/-- Superclass references lead to the same names whether types are finished or not. -/
theorem extends_scope_eq (h : Faithful c) : c.scope.Extends = TypeScope.Extends c.types := by
  funext a b
  rw [extends_iff_header, extends_iff_header, header_find?_scope h, header_find?_scope h]
  rfl

/-- **What is above is inherited**: the names of the members of every type that superclass
references lead to, constructors apart. -/
theorem name_mem_ancestry (h : Faithful c)
    (hacyclic : ∀ a, ¬TransGen (TypeScope.Extends c.types) a a) {d above : TypeDecl} {a : String}
    (hd : c.types.find? (·.name == d.name) = some d)
    (hreach : TransGen (TypeScope.Extends c.types) d.name a)
    (habove : c.scope.find? a = some above) {m : Member} (hm : m ∈ above.members)
    (hconstructor : m.isConstructor = false) : m.name ∈ (Ancestry.of c.scope d).names := by
  have hline : above ∈ Ancestry.superclasses c.scope d := by
    obtain ⟨x, ⟨d', e, hd', he, hsuper⟩, hrest⟩ := TransGen.head'_iff.mp hreach
    obtain rfl : d' = d := Option.some.inj (hd'.symm.trans hd)
    obtain ⟨r, hr, rfl⟩ := Option.map_eq_some_iff.mp hsuper
    have hback : ¬ReflTransGen (TypeScope.Extends c.types) r.name d'.name := fun hback =>
      hacyclic d'.name (.head' ⟨d', e, hd', he, hsuper⟩ hback)
    rw [← extends_scope_eq h] at hacyclic hrest hback
    rw [Ancestry.superclasses, hr]
    exact TypeScope.mem_lineage hacyclic hrest habove (by simpa using hback)
  refine List.mem_flatMap.mpr ⟨above, hline, List.mem_map.mpr ⟨m, ?_, rfl⟩⟩
  exact List.mem_filter.mpr ⟨hm, by rw [hconstructor]; rfl⟩

/-! ### The plans of a unit -/

variable {u : SourceUnit}

/-- Without a report of a repeated name or a circle, there is none. -/
theorem nodup_of_not_reported (settings : Settings)
    (h : ∀ entry ∈ (expand settings u).diagnostics.entries, ∀ name,
      entry.fault.cause ≠ .duplicateType name ∧ entry.fault.cause ≠ .inheritanceCycle name) :
    (u.types.map (·.name)).Nodup ∧ Order.cyclic u.types = [] := by
  obtain ⟨more, hentries, -⟩ := exists_entries_expand_eq settings u
  rw [hentries, entries_start] at h
  have hnames : (u.types.map (·.name)).Nodup := by
    refine (nodup_of_markFirst [] fun entry hentry => ?_).1
    by_contra hfirst
    have hrepeated : entry.1 ∈ ((markFirst [] u.types).filter (!·.2)).map (·.1) :=
      List.mem_map_of_mem (List.mem_filter.mpr ⟨hentry, by simpa using hfirst⟩)
    exact (h _ (List.mem_append_left _ (List.mem_append_left _
      (List.mem_map_of_mem hrepeated))) entry.1.name).1 rfl
  refine ⟨hnames, List.eq_nil_iff_forall_not_mem.mpr fun d hd => ?_⟩
  rw [markFirst_eq_of_nodup hnames (by simp), firsts_eq] at h
  exact (h _ (List.mem_append_left _ (List.mem_append_right _ (List.mem_map_of_mem hd)))
    d.name).2 rfl

/-- **Distinct names** in every plan of a unit that was read. -/
theorem nodup_memberNames_of_mem_plans (h : u.IsRead) {settings : Settings} {plan : MemberPlan}
    (hplan : plan ∈ (expand settings u).plans) : plan.decl.memberNames.Nodup := by
  obtain ⟨e, heq, he | ⟨c, d, hd, rfl⟩⟩ := exists_eq_emit_of_mem_plans hplan
  · rw [heq]
    exact TypeDecl.nodup_memberNames_emit (h.nodup he)
  · rw [heq]
    exact TypeDecl.nodup_memberNames_emit (Synthesis.nodup_memberNames_ofDecl (h.nodup hd))

/-- **No member is clobbered.** The member names of every plan are distinct. And unless a repeated
type or a circle is reported, what expansion makes for a class, its constructor apart, has no name
of a member that a type above the class has, constructors apart. -/
theorem expand_noClobber (h : u.IsRead) (settings : Settings) :
    (∀ plan ∈ (expand settings u).plans, plan.decl.memberNames.Nodup) ∧
    ((∀ entry ∈ (expand settings u).diagnostics.entries, ∀ name,
        entry.fault.cause ≠ .duplicateType name ∧ entry.fault.cause ≠ .inheritanceCycle name) →
      ∀ plan ∈ (expand settings u).plans, plan.decl.isInterface = false →
        ∀ above ∈ (expand settings u).plans,
          TransGen (TypeScope.Extends u.types) plan.decl.name above.decl.name →
            ∀ m ∈ plan.decl.members, m.origin = .synthesized ∨ m.origin = .spliced →
              m.isConstructor = false →
                ∀ m' ∈ above.decl.members, m'.isConstructor = false → m.name ≠ m'.name) := by
  refine ⟨fun plan => nodup_memberNames_of_mem_plans h, ?_⟩
  intro hreports plan hplan hclass above habove hreach m hm horigin hconstructor m' hm' hconstructor'
  obtain ⟨hnames, hcyclic⟩ := nodup_of_not_reported settings hreports
  rw [plans_expand settings hnames] at hplan habove
  obtain ⟨d, hd, rfl⟩ := List.mem_map.mp hplan
  obtain ⟨e, he, rfl⟩ := List.mem_map.mp habove
  dsimp only at hclass hreach hm hm'
  rw [TypeDecl.name_emit, TypeDecl.name_emit, Synthesis.name_ofDecl, Synthesis.name_ofDecl]
    at hreach
  have hclass' : d.isInterface = false := by
    rw [← hclass, TypeDecl.isInterface, TypeDecl.isInterface,
      TypeDecl.kind_eq_of_header (Synthesis.header_ofDecl (turn settings u.types d.name) d).symm]
    rfl
  -- The type above comes before the class in dependency order, so also in the queue.
  obtain ⟨k₁, k₂, hsorted⟩ := List.append_of_mem ((Order.mem_sorted hnames).mpr hd)
  obtain ⟨e', he', hfind⟩ := Order.mem_before_of_extends hnames hcyclic hreach
    (TypeDecl.find?_name_eq_some hnames hd) hsorted
  obtain rfl : e = e' :=
    Option.some.inj ((TypeDecl.find?_name_eq_some hnames he).symm.trans hfind)
  have hbefore : e ∈ before u.types d.name := (mem_before_iff hsorted he').mpr (by simp [hclass'])
  have hinherited :
      m'.name ∈ (Ancestry.of (turn settings u.types d.name).scope d).names := by
    refine name_mem_ancestry (faithful_after settings u.types hnames fun _ => mem_of_mem_before)
      ?_ ?_ ?_ (find?_scope_turn settings hnames hd hbefore) hm' hconstructor'
    · rw [types_after]
      exact Order.not_transGen_extends hnames hcyclic
    · rw [types_after]
      exact TypeDecl.find?_name_eq_some hnames hd
    · rwa [types_after]
  obtain ⟨m₀, hm₀, hlabel⟩ := TypeDecl.exists_label_eq_of_mem_emit hm
  have hfree := Synthesis.name_not_mem_ancestry hm₀
    (by rw [Member.isConstructor_eq_of_label hlabel, hconstructor]) fun m'' hm'' => by
      rw [h.origin hd m'' hm'', Member.origin_eq_of_label hlabel]
      rcases horigin with horigin | horigin <;> simp [horigin]
  rw [Member.name_eq_of_label hlabel] at hfree
  exact fun heq => hfree (heq ▸ hinherited)

/-- A class whose donor offers a field that its superclass has already, and another one. -/
def inheritingForms : List Form :=
  let cache : Form := .list [.sym "field:" {}, .sym "cache" {}] {}
  let stamp : Form := .list [.sym "field:" {}, .sym "stamp" {}] {}
  [.list [.sym "class:" {}, .sym "Derived" {},
      .atom (.keyword "extends") {}, .sym "Base" {},
      .atom (.keyword "implements") {}, .vector [.sym "Store" {}] {}] {},
    .list [.sym "class:" {}, .sym "Base" {}, cache] {},
    .list [.sym "interface:" {}, .sym "Store" {}, cache, stamp] {}]

def inheritingUnit : SourceUnit :=
  ⟨[{ name := "Derived"
      kind := .classType
      superclass := some (.named "Base")
      interfaces := [.named "Store"] },
    { name := "Base", kind := .classType, members := [.bareField "cache" {}] },
    { name := "Store"
      kind := .interfaceType
      members := [.bareField "cache" {}, .bareField "stamp" {}] }]⟩

/-- The class receives what its superclass lacks, and nothing under a name that it has. -/
theorem expand_noClobber_inheriting :
    SourceUnit.ofForms inheritingForms = .ok inheritingUnit ∧
    ∃ derived above store,
      (expand { requireOptIn := false } inheritingUnit).plans = [derived, above, store] ∧
      derived.decl.memberNames = ["stamp"] ∧ above.decl.memberNames = ["cache"] ∧
      derived.decl.memberNames.Nodup ∧
      ∀ m ∈ derived.decl.members, m.origin = .synthesized ∨ m.origin = .spliced →
        m.isConstructor = false →
          ∀ m' ∈ above.decl.members, m'.isConstructor = false → m.name ≠ m'.name := by
  have hread : SourceUnit.ofForms inheritingForms = .ok inheritingUnit := by cbv
  obtain ⟨hdistinct, hfree⟩ :=
    expand_noClobber (SourceUnit.isRead_of_ofForms hread) { requireOptIn := false }
  obtain ⟨derived, above, store, hplans⟩ : ∃ derived above store,
      (expand { requireOptIn := false } inheritingUnit).plans = [derived, above, store] :=
    List.length_eq_three.mp (by cbv)
  have hnames : (expand { requireOptIn := false } inheritingUnit).plans.map
      (fun plan => (plan.decl.name, plan.decl.isInterface, plan.decl.memberNames)) =
        [("Derived", false, ["stamp"]), ("Base", false, ["cache"]),
          ("Store", true, ["cache", "stamp"])] := by cbv
  have hreports : (expand { requireOptIn := false } inheritingUnit).diagnostics.entries = [] := by
    cbv
  rw [hplans] at hnames hdistinct hfree
  simp only [List.map_cons, List.map_nil, List.cons.injEq, Prod.mk.injEq] at hnames
  obtain ⟨⟨hderived, hclass, hmembers⟩, ⟨habove, -, hmembers'⟩, -⟩ := hnames
  refine ⟨hread, derived, above, store, hplans, hmembers, hmembers',
    hdistinct derived (by simp), ?_⟩
  refine hfree (by simp [hreports]) derived (by simp) hclass above (by simp) ?_
  rw [hderived, habove]
  exact .single ⟨_, _, rfl, rfl, rfl⟩

end Expansion

end DeclWeave
