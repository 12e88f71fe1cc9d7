import DeclWeave.Proofs.ClassSurroundings
import DeclWeave.Proofs.PlanMembers

/-!
# Accessors and Their Fields

An accessor is made together with the field that it serves, but the two can part when a donor gives
them: the field stays behind where its name is taken, or where it is tagged as used only by members
that the donor does not give. No other accessor is without its field. What is planned for a type is
self-served, so that the bank of an interface is; a class then has the fields of its own accessors,
and of those that it was given it lacks just the fields that were kept back.

## Main results

* `Synthesis.selfServed_planned`: what is planned for a type.
* `Synthesis.accessor_cases`: an accessor in the finished plan of a class.
* `Expansion.expand_servesAccessors`: the plans of a unit.
-/

namespace DeclWeave

namespace Synthesis

variable {c : Context} {d : TypeDecl} {m : Member} {found : Diagnostics}

/-- Each accessor among some members serves a field that is one of them, and no template. -/
def SelfServed (ms : List Member) : Prop :=
  ∀ m ∈ ms, ∀ f ∈ m.accessorFor, ∃ x ∈ ms, x.isField = true ∧ x.name = f ∧ x.isTemplate = false

/-! ### What is planned -/

/-- **A field with what it was given** is self-served. -/
theorem selfServed_cons {field : Member} {added : List Member} (hfield : field.accessorFor = none)
    (hadded : ∀ m ∈ added, field.isField = true ∧ field.isTemplate = false ∧
      (m.accessorFor = none ∨ m.accessorFor = some field.name)) :
    SelfServed (field :: added) := by
  intro m hm f hf
  rcases List.mem_cons.mp hm with rfl | hm
  · exact absurd hf (by simp [hfield])
  · obtain ⟨hkind, htemplate, hserves⟩ := hadded m hm
    rcases hserves with hserves | hserves
    · exact absurd hf (by simp [hserves])
    · rw [hserves] at hf
      exact ⟨field, List.mem_cons_self, hkind, Option.some.inj hf, htemplate⟩

theorem selfServed_member (hm : m.accessorFor = none) (p : Progress) :
    SelfServed (member d m p).1 := by
  obtain hgroup | ⟨htemplate, kept, hkept, hgroup⟩ := member_cases d m p
  · rw [hgroup]
    exact selfServed_cons hm (by simp)
  · rw [hgroup]
    refine selfServed_cons (hkept.accessorFor_eq.trans hm) fun m' hm' => ?_
    obtain ⟨s, hs, hm'⟩ := exists_property_of_mem_propertyOf hm'
    obtain ⟨hfield, -, -, hserves⟩ := accessorFor_of_mem_added hs hm'
    have hlabel : (if (takenUp d m).isField then
        (takenUp d m).withType (takenUp d m).inferredType else takenUp d m).label =
          kept.label := by
      rw [hkept.label_eq]
      split <;> rfl
    rw [Member.name_eq_of_label hlabel] at hserves
    rw [Member.isField_eq_of_label hlabel] at hfield
    refine ⟨hfield, ?_, hserves⟩
    rw [Member.isTemplate, hkept.directives_eq]
    exact htemplate

theorem selfServed_field (source : Member) (cand : Candidate) (r : NameRegistry) :
    SelfServed (Forward.field source cand r).1 := by
  obtain ⟨spec, plain, hlabel, hdirectives, haccessor, hfield⟩ := exists_field_eq source cand r
  have hreshapes := spec.reshapes_apply plain r
  rw [hfield]
  refine selfServed_cons (hreshapes.accessorFor_eq.trans haccessor) fun m hm => ⟨?_, ?_, .inr ?_⟩
  · have hkind : (spec.apply plain r).field.kind = .field :=
      congrArg (·.2.1) (hreshapes.label_eq.trans hlabel)
    exact beq_iff_eq.mpr hkind
  · show (spec.apply plain r).field.isTemplate = false
    rw [Member.isTemplate, hreshapes.directives_eq, hdirectives]
    rfl
  · rw [(PropertySpec.accessorFor_of_mem_added hm).1]
    exact congrArg some (Member.name_eq_of_label hreshapes.label_eq).symm

theorem selfServed_forwardOf (c : Context) (d : TypeDecl) (m : Member) (p : Progress) :
    SelfServed (forwardOf c d m p).1 := by
  obtain hnone | ⟨-, -, -, template, -, selected, -, -, -, -, -, hmade⟩ := forwardOf_cases c d m p
  · rw [hnone]
    exact fun m hm => absurd hm List.not_mem_nil
  · rw [hmade]
    intro m' hm' f hf
    obtain ⟨cand, -, ⟨rfl, -⟩ | ⟨-, r, hm', hsubset⟩⟩ := exists_part_of_mem_counterparts hm'
    · exact absurd hf (by simp [Forward.method])
    · obtain ⟨x, hx, hserved⟩ := selfServed_field m cand r m' hm' f hf
      exact ⟨x, hsubset hx, hserved⟩

/-- **What is planned for a type** is self-served, as each group is. -/
theorem selfServed_planned (hd : ∀ m ∈ d.members, m.accessorFor = none) :
    SelfServed (planned c d found).1 := by
  intro m hm f hf
  obtain ⟨group, ⟨source, hsource, p, hgroup⟩, hmem, hsubset⟩ := exists_group_of_mem_planned hm
  have hserved : SelfServed group := by
    rcases hgroup with rfl | rfl
    · exact selfServed_member (hd source hsource) p
    · exact selfServed_forwardOf c d source p
  obtain ⟨x, hx, hserved⟩ := hserved m hmem f hf
  exact ⟨x, hsubset hx, hserved⟩

end Synthesis

/-! ### What donors give -/

/-- A donor has the field of each accessor that it gives. -/
theorem DonorBank.exists_field_of_accessor {settings : Settings} {plan : TypeDecl}
    (hplan : Synthesis.SelfServed plan.members) {m : Member}
    (hm : m ∈ (ofDecl settings plan).1.members) {f : String} (hf : m.accessorFor = some f) :
    ∃ x ∈ (ofDecl settings plan).1.members, x.isField = true ∧ x.name = f := by
  rw [members_ofDecl] at hm ⊢
  obtain ⟨x, hx, hfield, hname, -⟩ := hplan m (List.mem_filter.mp hm).1 f hf
  refine ⟨x, List.mem_filter.mpr ⟨hx, ?_⟩, hfield, hname⟩
  have hkind : x.kind = .field := beq_iff_eq.mp hfield
  simp [isDonated, Member.isConstructor, Member.isMethod, Member.isField, hkind]

namespace Weave

variable {taken : Set String} {gifts : List (Donor × List ℕ)} {g : Donor × List ℕ}

/-- The names against which one of some donors gives: those that there were, and names of what
other donors gave. -/
theorem Gifts.exists_gives (h : Gifts taken gifts) (hg : g ∈ gifts) :
    ∃ taken', g.1.bank.Gives taken' g.2 ∧ ∀ name ∈ taken',
      name ∈ taken ∨ ∃ g' ∈ gifts, name ∈ (g'.1.given g'.2).map (·.name) := by
  induction gifts generalizing taken with
  | nil => exact absurd hg List.not_mem_nil
  | cons first gifts ih =>
    obtain ⟨hgives, hrest⟩ := h
    rcases List.mem_cons.mp hg with rfl | hg
    · exact ⟨taken, hgives, fun name hname => .inl hname⟩
    · obtain ⟨taken', hgives', htaken'⟩ := ih hrest hg
      refine ⟨taken', hgives', fun name hname => ?_⟩
      obtain (hname | hname) | ⟨g', hg', hname⟩ := htaken' name hname
      · exact .inl hname
      · exact .inr ⟨first, List.mem_cons_self, hname⟩
      · exact .inr ⟨g', List.mem_cons_of_mem _ hg', hname⟩

/-- Why a donor keeps a member back: its name is taken, or it is tagged, and nothing that its tag
names is given. -/
theorem kept_back (h : Gifts taken gifts) (hg : g ∈ gifts) {x : Member}
    (hx : x ∈ g.1.bank.members) (hkept : x.name ∉ (g.1.given g.2).map (·.name)) :
    x.name ∈ taken ∨ (∃ g' ∈ gifts, x.name ∈ (g'.1.given g'.2).map (·.name)) ∨
      ∃ names, x.usedOnlyBy? = some names ∧ ∀ y ∈ g.1.given g.2, y.name ∉ names := by
  obtain ⟨taken', hgives, htaken'⟩ := h.exists_gives hg
  by_cases hname : x.name ∈ taken'
  · rcases htaken' _ hname with hname | hname
    · exact .inl hname
    · exact .inr (.inl hname)
  · obtain ⟨i, hi⟩ := List.getElem?_of_mem hx
    have hinside : i ∉ g.2 := fun hinside =>
      hkept (List.mem_map_of_mem (List.mem_map_of_mem (DonorBank.mem_entries.mpr ⟨hinside, hi⟩)))
    rw [hgives.mem_iff] at hinside
    cases htag : x.usedOnlyBy? with
    | none => exact absurd ⟨x, hi, hname, .inl htag⟩ hinside
    | some names =>
      refine .inr (.inr ⟨names, rfl, fun y hy hnamed => hinside ?_⟩)
      obtain ⟨⟨j, y'⟩, he, rfl⟩ := List.mem_map.mp hy
      obtain ⟨hj, hy'⟩ := DonorBank.mem_entries.mp he
      exact ⟨x, hi, hname, .inr ⟨names, htag, j, hj, y', hy', hnamed⟩⟩

end Weave

/-! ### The plan of a class -/

namespace Synthesis

variable {c : Context} {d : TypeDecl} {found : Diagnostics}

/-- What a class is given stands in its plan, as all that is spliced. -/
structure Receives (c : Context) (d : TypeDecl) (found : Diagnostics)
    (gifts : List (Donor × List ℕ)) : Prop where
  map_fst_eq : gifts.map Prod.fst = c.donors.chain d.interfaces
  inTurn : Weave.Gifts {name | name ∈ (planned c d found).2.registry.names} gifts
  members_eq : (contributed c d found).members =
    gifts.flatMap fun g => (g.1.given g.2).map
      (g.1.copy { d with members := (planned c d found).1 })

theorem exists_receives (hclass : d.isInterface = false)
    (hdonors : ∀ donor ∈ c.donors.chain d.interfaces, donor.bank.IsOfDecl)
    (found : Diagnostics) : ∃ gifts, Receives c d found gifts := by
  have hclass' : { d with members := (planned c d found).1 : TypeDecl }.isInterface = false :=
    hclass
  obtain ⟨gifts, spliced, available, hfst, hgifts, hmembers, -, -, hwoven⟩ :=
    exists_woven_eq c hclass' hdonors (Ancestry.of c.scope d) (planned c d found).2
  refine ⟨gifts, hfst, hgifts, ?_⟩
  rw [contributed, hwoven]
  exact hmembers

variable {gifts : List (Donor × List ℕ)}

theorem Receives.exists_of_mem (h : Receives c d found gifts) {m : Member}
    (hm : m ∈ (contributed c d found).members) :
    ∃ g ∈ gifts, ∃ source ∈ g.1.given g.2,
      m = g.1.copy { d with members := (planned c d found).1 } source := by
  rw [h.members_eq] at hm
  obtain ⟨g, hg, hm⟩ := List.mem_flatMap.mp hm
  obtain ⟨source, hsource, rfl⟩ := List.mem_map.mp hm
  exact ⟨g, hg, source, hsource, rfl⟩

theorem Receives.copy_mem (h : Receives c d found gifts) {g : Donor × List ℕ} (hg : g ∈ gifts)
    {source : Member} (hsource : source ∈ g.1.given g.2) :
    g.1.copy { d with members := (planned c d found).1 } source ∈ assembled c d found := by
  refine List.mem_append_right _ ?_
  rw [h.members_eq]
  exact List.mem_flatMap.mpr ⟨g, hg, List.mem_map_of_mem hsource⟩

/-- **What is spliced** into a class is what its donors give. -/
theorem Receives.spliced_iff (h : Receives c d found gifts) (hclass : d.isInterface = false)
    (hd : ∀ m ∈ d.members, m.origin ≠ .spliced) (name : String) :
    (∃ m ∈ (expanded c d found).1.emit.members, m.origin = .spliced ∧ m.name = name) ↔
      ∃ g ∈ gifts, name ∈ (g.1.given g.2).map (·.name) := by
  have hplanned : ∀ m ∈ (planned c d found).1, m.origin ≠ .spliced := by
    intro m hm
    obtain ⟨source, hsource, hlabel, -⟩ | ⟨-, horigin⟩ := of_mem_planned hm
    · rw [Member.origin_eq_of_label hlabel]
      exact hd source hsource
    · simp [horigin]
  have hassembled : ∀ m ∈ assembled c d found, m.origin = .spliced →
      ∃ g ∈ gifts, m.name ∈ (g.1.given g.2).map (·.name) := by
    intro m hm horigin
    rcases List.mem_append.mp hm with hm | hm
    · exact absurd horigin (hplanned m hm)
    · obtain ⟨g, hg, source, hsource, rfl⟩ := h.exists_of_mem hm
      exact ⟨g, hg, List.mem_map.mpr ⟨source, hsource, rfl⟩⟩
  constructor
  · rintro ⟨m, hm, horigin, rfl⟩
    obtain ⟨m', -, rfl, hm' | ⟨old, hold, -, rfl⟩ | rfl⟩ := exists_of_mem_emit_expanded hclass hm
    · exact hassembled m' hm' horigin
    · exact hassembled old hold horigin
    · exact absurd horigin (by simp [Member.emit, Member.publish, initialized, Member.withInits,
        Member.derivedConstructor])
  · rintro ⟨g, hg, hname⟩
    obtain ⟨source, hsource, rfl⟩ := List.mem_map.mp hname
    obtain ⟨m, hm, hlabel⟩ := exists_mem_emit_expanded hclass (h.copy_mem hg hsource) rfl
    exact ⟨m, hm, (Member.origin_eq_of_label hlabel : m.origin = .spliced),
      (Member.name_eq_of_label hlabel).trans rfl⟩

/-- A name that is taken before donors give is inherited, or borne by a member that was planned: one
of the finished plan, or a template. -/
theorem cases_of_mem_registry (hclass : d.isInterface = false) {name : String}
    (h : name ∈ (planned c d found).2.registry.names) :
    (∃ y ∈ (expanded c d found).1.emit.members, y.name = name) ∨
      name ∈ (Ancestry.of c.scope d).names ∨
      ∃ t ∈ d.members, t.isTemplate = true ∧ t.name = name := by
  obtain ⟨made, hperm, hclaims⟩ := (grows_planned c d found).names_perm
  have hplanned : name ∈ (Ancestry.of c.scope d).names ∨
      name ∈ (planned c d found).1.map (·.name) := by
    rw [hperm.mem_iff, List.mem_append, ← or_assoc]
    rcases hclaims.mem_names_iff.mp h with h | h
    · exact .inl (NameRegistry.mem_names_ofDecl.mp h)
    · exact .inr h
  rcases hplanned with hname | hname
  · exact .inr (.inl hname)
  · obtain ⟨y, hy, rfl⟩ := List.mem_map.mp hname
    cases htemplate : y.isTemplate with
    | false =>
      obtain ⟨m, hm, hlabel⟩ :=
        exists_mem_emit_expanded hclass (List.mem_append_left _ hy) htemplate
      exact .inl ⟨m, hm, Member.name_eq_of_label hlabel⟩
    | true =>
      obtain ⟨t, ht, hlabel, hdirectives⟩ | ⟨hno, -⟩ := of_mem_planned hy
      · refine .inr (.inr ⟨t, ht, ?_, (Member.name_eq_of_label hlabel).symm⟩)
        rwa [Member.isTemplate, ← hdirectives]
      · rw [hno] at htemplate
        exact absurd htemplate (by decide)

/-- **An accessor in the plan of a class** serves a field there, or was given by a donor that has
its field and kept it back. -/
theorem Receives.accessor_cases (h : Receives c d found gifts) (hclass : d.isInterface = false)
    (hd : ∀ m ∈ d.members, m.accessorFor = none)
    (hdonors : ∀ donor ∈ c.donors.chain d.interfaces, donor.bank.IsOfDecl ∧
      ∀ m ∈ donor.bank.members, ∀ f, m.accessorFor = some f →
        ∃ x ∈ donor.bank.members, x.isField = true ∧ x.name = f)
    {m : Member} (hm : m ∈ (expanded c d found).1.emit.members) {f : String}
    (hf : m.accessorFor = some f) :
    (∃ x ∈ (expanded c d found).1.emit.members, x.isField = true ∧ x.name = f) ∨
    m.origin = .spliced ∧ ∃ g ∈ gifts,
      (∃ source ∈ g.1.given g.2, source.name = m.name ∧ source.accessorFor = some f) ∧
      f ∉ (g.1.given g.2).map (·.name) ∧
      ∃ x ∈ g.1.bank.members, x.isField = true ∧ x.name = f ∧
        ((∃ y ∈ (expanded c d found).1.emit.members, y.name = f) ∨
          f ∈ (Ancestry.of c.scope d).names ∨ (∃ t ∈ d.members, t.isTemplate = true ∧ t.name = f) ∨
          ∃ names, x.usedOnlyBy? = some names ∧ ∀ y ∈ g.1.given g.2, y.name ∉ names) := by
  -- Finishing the constructor changes neither which field a member serves nor its label.
  obtain ⟨old, hold, hlabel, hserves⟩ : ∃ old ∈ assembled c d found,
      m.label = old.label ∧ old.accessorFor = some f := by
    obtain ⟨m', -, rfl, hm' | ⟨old, hold, -, rfl⟩ | rfl⟩ := exists_of_mem_emit_expanded hclass hm
    · exact ⟨m', hm', rfl, hf⟩
    · exact ⟨old, hold, rfl, hf⟩
    · exact absurd hf (by simp [Member.emit, Member.publish, initialized, Member.withInits,
        Member.derivedConstructor, Member.bareMethod])
  rcases List.mem_append.mp hold with hold | hold
  · obtain ⟨x, hx, hfield, hname, htemplate⟩ := selfServed_planned hd old hold f hserves
    obtain ⟨x', hx', hlabel'⟩ :=
      exists_mem_emit_expanded hclass (List.mem_append_left _ hx) htemplate
    exact .inl ⟨x', hx', (Member.isField_eq_of_label hlabel').trans hfield,
      (Member.name_eq_of_label hlabel').trans hname⟩
  · obtain ⟨g, hg, source, hsource, rfl⟩ := h.exists_of_mem hold
    have hdonor : g.1 ∈ c.donors.chain d.interfaces := h.map_fst_eq ▸ List.mem_map_of_mem hg
    obtain ⟨hbank, hserved⟩ := hdonors g.1 hdonor
    have hgiven : g.1.given g.2 ⊆ g.1.bank.members := g.1.given_subset g.2
    obtain ⟨x, hx, hfield, rfl⟩ := hserved source (hgiven hsource) f hserves
    by_cases hkept : x.name ∈ (g.1.given g.2).map (·.name)
    · -- A member of the donor is known by its name, so it is the field that was given.
      obtain ⟨x', hx', hname⟩ := List.mem_map.mp hkept
      obtain rfl := List.inj_on_of_nodup_map hbank.nodup (hgiven hx') hx hname
      obtain ⟨y, hy, hlabel'⟩ := exists_mem_emit_expanded hclass (h.copy_mem hg hx') rfl
      exact .inl ⟨y, hy, (Member.isField_eq_of_label hlabel').trans hfield,
        (Member.name_eq_of_label hlabel').trans rfl⟩
    · refine .inr ⟨Member.origin_eq_of_label hlabel, g, hg,
        ⟨source, hsource, (Member.name_eq_of_label hlabel).symm, hserves⟩, hkept, x, hx, hfield,
        rfl, ?_⟩
      rcases Weave.kept_back h.inTurn hg hx hkept with hname | ⟨g', hg', hname⟩ | htag
      · rcases cases_of_mem_registry hclass hname with hname | hname | hname
        · exact .inl hname
        · exact .inr (.inl hname)
        · exact .inr (.inr (.inl hname))
      · obtain ⟨y, hy, hname⟩ := List.mem_map.mp hname
        obtain ⟨y', hy', hlabel'⟩ := exists_mem_emit_expanded hclass (h.copy_mem hg' hy) rfl
        exact .inl ⟨y', hy', (Member.name_eq_of_label hlabel').trans hname⟩
      · exact .inr (.inr (.inr htag))

end Synthesis

/-! ### The plans of a unit -/

namespace Expansion

open Pass

variable {settings : Settings} {u : SourceUnit} {d : TypeDecl}

/-- The members of a plan and of the plans above it. -/
def membersUpwards (e : Expansion) (plan : TypeDecl) : List Member :=
  plan.members ++ (e.above plan).flatMap (·.members)

/-- Why a class lacks a field of a donor that has given it the members `given`: the name is that of
something else, of a member of the class or above it or of a template of the class, or the field is
tagged as used only by members, of which none was given. -/
def KeepsBack (e : Expansion) (u : SourceUnit) (plan : TypeDecl) (given : List Member)
    (field : Member) : Prop :=
  (∃ m ∈ e.membersUpwards plan, m.name = field.name ∧ m.isField = false) ∨
  (∃ d ∈ u.types, d.name = plan.name ∧ ∃ t ∈ d.members, t.isTemplate = true ∧ t.name = field.name) ∨
  ∃ names, field.usedOnlyBy? = some names ∧ ∀ m ∈ given, m.name ∉ names

/-- The donors of a class, in the context of its turn, have the fields of their accessors. -/
theorem of_mem_chain_turn (hread : u.IsRead) (hnames : (u.types.map (·.name)).Nodup)
    (hd : d ∈ u.types) (hclass : d.isInterface = false) {donor : Donor}
    (h : donor ∈ (turn settings u.types d.name).donors.chain d.interfaces) :
    donor.bank.IsOfDecl ∧ ∀ m ∈ donor.bank.members, ∀ f, m.accessorFor = some f →
      ∃ x ∈ donor.bank.members, x.isField = true ∧ x.name = f := by
  rw [chain_turn_eq hnames hd hclass] at h
  obtain ⟨e, he, hinterface, hsugar, hbank⟩ := exists_of_mem_donorsOf hnames hd hclass h
  rw [← sugarEnabled_turn settings u.types e.name e] at hsugar
  have hserved : Synthesis.SelfServed (planOf settings u.types e).members := by
    rw [planOf_eq_expanded hsugar, Synthesis.members_expanded_of_interface hinterface]
    exact Synthesis.selfServed_planned (hread.accessorFor he)
  refine ⟨⟨settings, _, Synthesis.nodup_memberNames_ofDecl (hread.nodup he), hbank⟩, ?_⟩
  intro m hm f hf
  rw [hbank] at hm ⊢
  exact DonorBank.exists_field_of_accessor hserved hm hf

/-- The names that a class inherits are those of members above its plan. -/
theorem exists_upwards_of_inherited (hok : (expand settings u).isOk = true) (hd : d ∈ u.types)
    (hclass : d.isInterface = false) {name : String}
    (h : name ∈ (Ancestry.of (turn settings u.types d.name).scope d).names) :
    ∃ y ∈ (expand settings u).membersUpwards (planOf settings u.types d).emit, y.name = name := by
  obtain ⟨hnames, hcyclic⟩ := nodup_of_isOk hok
  obtain ⟨above, hline, hname⟩ := List.mem_flatMap.mp h
  obtain ⟨y, hy, rfl⟩ := List.mem_map.mp hname
  have hline' : above ∈ Ancestry.superclasses (turn settings u.types d.name).scope d := hline
  rw [superclasses_turn_eq hnames hcyclic hd hclass] at hline'
  exact ⟨y, List.mem_append_right _
    (List.mem_flatMap.mpr ⟨above, hline', (List.mem_filter.mp hy).1⟩), rfl⟩

/-- A class whose directives are carried out. -/
theorem accessor_cases_of_enabled (hread : u.IsRead) (hok : (expand settings u).isOk = true)
    (hd : d ∈ u.types) (hclass : d.isInterface = false)
    (hsugar : (turn settings u.types d.name).sugarEnabled d = true)
    {gifts : List (Donor × List ℕ)}
    (hgifts : Synthesis.Receives (turn settings u.types d.name) d
      (Synthesis.preliminary (turn settings u.types d.name) d) gifts)
    {m : Member} (hm : m ∈ (planOf settings u.types d).emit.members) {f : String}
    (hf : m.accessorFor = some f) :
    (∃ x ∈ (expand settings u).membersUpwards (planOf settings u.types d).emit,
      x.isField = true ∧ x.name = f) ∨
    m.origin = .spliced ∧ ∃ g ∈ gifts,
      (∃ source ∈ g.1.given g.2, source.name = m.name ∧ source.accessorFor = some f) ∧
      f ∉ (g.1.given g.2).map (·.name) ∧
      ∃ x ∈ g.1.bank.members, x.isField = true ∧ x.name = f ∧
        KeepsBack (expand settings u) u (planOf settings u.types d).emit (g.1.given g.2) x := by
  have hnames := (nodup_of_isOk hok).1
  have hdonors := fun donor => @of_mem_chain_turn settings u d hread hnames hd hclass donor
  have hexpanded := planOf_eq_expanded hsugar
  by_cases hserved : ∃ x ∈ (expand settings u).membersUpwards (planOf settings u.types d).emit,
      x.isField = true ∧ x.name = f
  · exact .inl hserved
  · -- No member of the name is a field, here or above.
    have hother : ∀ y ∈ (expand settings u).membersUpwards (planOf settings u.types d).emit,
        y.name = f → y.isField = false := fun y hy hname => by
      rw [← Bool.not_eq_true]
      exact fun hfield => hserved ⟨y, hy, hfield, hname⟩
    rw [hexpanded] at hm
    obtain ⟨x, hx, hfield, hname⟩ | ⟨horigin, g, hg, hsource, hkept, x, hx, hfield, rfl, hwhy⟩ :=
      hgifts.accessor_cases hclass (hread.accessorFor hd) hdonors hm hf
    · rw [← hexpanded] at hx
      exact absurd ⟨x, List.mem_append_left _ hx, hfield, hname⟩ hserved
    · refine .inr ⟨horigin, g, hg, hsource, hkept, x, hx, hfield, rfl, ?_⟩
      rcases hwhy with ⟨y, hy, hname⟩ | hname | ⟨t, ht, htemplate, hname⟩ | htag
      · rw [← hexpanded] at hy
        exact .inl ⟨y, List.mem_append_left _ hy, hname,
          hother y (List.mem_append_left _ hy) hname⟩
      · obtain ⟨y, hy, hname⟩ := exists_upwards_of_inherited hok hd hclass hname
        exact .inl ⟨y, hy, hname, hother y hy hname⟩
      · exact .inr (.inl ⟨d, hd, (Synthesis.name_ofDecl _ d).symm, t, ht, htemplate, hname⟩)
      · exact .inr (.inr htag)

/-- **Accessors and their fields.** In an expansion without errors, each accessor of a class serves
a field of the class or of one above it, unless a donor gave it that has the field and kept it
back. What is spliced into a class is what its donors give. -/
theorem expand_servesAccessors (hread : u.IsRead) (hok : (expand settings u).isOk = true) :
    ∀ plan ∈ (expand settings u).plans, plan.decl.isInterface = false →
      ∃ gifts : List (Donor × List ℕ),
        (∀ g ∈ gifts, g.1 ∈ donorsOf settings u plan.decl) ∧
        (∀ name, (∃ m ∈ plan.decl.members, m.origin = .spliced ∧ m.name = name) ↔
          ∃ g ∈ gifts, name ∈ (g.1.given g.2).map (·.name)) ∧
        ∀ m ∈ plan.decl.members, ∀ f, m.accessorFor = some f →
          (∃ x ∈ (expand settings u).membersUpwards plan.decl, x.isField = true ∧ x.name = f) ∨
          m.origin = .spliced ∧ ∃ g ∈ gifts,
            (∃ source ∈ g.1.given g.2, source.name = m.name ∧ source.accessorFor = some f) ∧
            f ∉ (g.1.given g.2).map (·.name) ∧
            ∃ x ∈ g.1.bank.members, x.isField = true ∧ x.name = f ∧
              KeepsBack (expand settings u) u plan.decl (g.1.given g.2) x := by
  intro plan hplan hclass
  have hnames := (nodup_of_isOk hok).1
  rw [plans_expand settings hnames] at hplan
  obtain ⟨d, hd, rfl⟩ := List.mem_map.mp hplan
  have hclass' : d.isInterface = false := (isInterface_planOf settings u.types d).symm.trans hclass
  show ∃ gifts : List (Donor × List ℕ),
    (∀ g ∈ gifts, g.1 ∈ donorsOf settings u (planOf settings u.types d).emit) ∧
      (∀ name, (∃ m ∈ (planOf settings u.types d).emit.members, _) ↔ _) ∧ _
  cases hsugar : (turn settings u.types d.name).sugarEnabled d with
  | false =>
    -- Nothing is made for the class, so that all its members are as written.
    have hwritten : ∀ m ∈ (planOf settings u.types d).emit.members,
        m.origin = .explicit ∧ m.accessorFor = none := by
      intro m hm
      rw [planOf, Synthesis.ofDecl, if_neg (by simp [hsugar])] at hm
      obtain ⟨m', hm', rfl⟩ := List.mem_map.mp hm
      have hm' := (List.mem_filter.mp hm').1
      exact ⟨hread.origin hd m' hm', hread.accessorFor hd m' hm'⟩
    refine ⟨[], by simp, fun name => ⟨?_, by simp⟩, fun m hm f hf => ?_⟩
    · rintro ⟨m, hm, horigin, -⟩
      rw [(hwritten m hm).1] at horigin
      exact absurd horigin (by decide)
    · rw [(hwritten m hm).2] at hf
      exact absurd hf (by simp)
  | true =>
    obtain ⟨gifts, hgifts⟩ := Synthesis.exists_receives (c := turn settings u.types d.name) hclass'
      (fun donor hdonor => (of_mem_chain_turn hread hnames hd hclass' hdonor).1)
      (Synthesis.preliminary (turn settings u.types d.name) d)
    refine ⟨gifts, fun g hg => ?_, fun name => ?_, fun m hm f hf =>
      accessor_cases_of_enabled hread hok hd hclass' hsugar hgifts hm hf⟩
    · rw [← chain_turn_eq hnames hd hclass', ← hgifts.map_fst_eq]
      exact List.mem_map_of_mem hg
    · rw [planOf_eq_expanded hsugar]
      exact hgifts.spliced_iff hclass' (fun m hm => by simp [hread.origin hd m hm]) name

/-- An interface with three properties, the first of which is tagged as used only by its method,
and a class that implements it and has the members `own`. -/
def servingForms (own : List Form) : List Form :=
  let property (name : String) (options : List Form) : Form :=
    .list ([.sym "field:" {}, .sym name {}, .keyword "property" {}, .bool true {}] ++ options) {}
  let run : Form := .list [.sym "method:" {}, .sym "m" {}, .vector [] {}, .atom (.int 1) {}] {}
  [.list [.sym "interface:" {}, .sym "Donor" {},
      property "x" [.keyword "used-only-by" {}, .vector [.sym "m" {}] {}], run,
      property "y" [], property "z" []] {},
    .list ([.sym "class:" {}, .sym "Host" {}, .keyword "implements" {},
      .vector [.sym "Donor" {}] {}] ++ own) {}]

def servingUnit (own : List Member) : SourceUnit :=
  let accessor : Directive := .accessor { modes := [.readwrite] }
  ⟨[{ name := "Donor"
      kind := .interfaceType
      members :=
        [{ Member.bareField "x" {} with directives := [.usedOnlyBy ["m"], accessor] },
          { Member.bareMethod "m" [] {} with body := some (.atom (.int 1) {}) },
          { Member.bareField "y" {} with directives := [accessor] },
          { Member.bareField "z" {} with directives := [accessor] }] },
    { name := "Host"
      kind := .classType
      interfaces := [.named "Donor"]
      members := own }]⟩

/-- A class without members receives all fields, and the donor gives their accessors. -/
theorem expand_servesAccessors_given :
    let e := expand { requireOptIn := false } (servingUnit [])
    SourceUnit.ofForms (servingForms []) = .ok (servingUnit []) ∧ e.isOk = true ∧
      e.memberNames[1]? =
        some ["x", "get_x", "set_x", "m", "y", "get_y", "set_y", "z", "get_z", "set_z"] ∧
      ∀ plan ∈ e.plans, plan.decl.isInterface = false →
        ∀ m ∈ plan.decl.members, m.origin = .spliced →
          ∃ donor ∈ donorsOf { requireOptIn := false } (servingUnit []) plan.decl,
            ∃ inside, m.name ∈ (donor.given inside).map (·.name) := by
  have hread : SourceUnit.ofForms (servingForms []) = .ok (servingUnit []) := by cbv
  have hok : (expand { requireOptIn := false } (servingUnit [])).isOk = true := by cbv
  refine ⟨hread, hok, by cbv, fun plan hplan hclass m hm horigin => ?_⟩
  obtain ⟨gifts, hdonors, hspliced, -⟩ :=
    expand_servesAccessors (SourceUnit.isRead_of_ofForms hread) hok plan hplan hclass
  obtain ⟨g, hg, hname⟩ := (hspliced m.name).mp ⟨m, hm, horigin, rfl⟩
  exact ⟨g.1, hdonors g hg, g.2, hname⟩

/-- The members of a class that stand in the way of the three fields: a method that the tag of the
first names, a method that has the name of the second, and a template that has that of the third. -/
def obstacleForms : List Form :=
  let method (name : String) (options : List Form) : Form :=
    .list ([.sym "method:" {}, .sym name {}, .vector [] {}] ++ options ++ [.atom (.int 2) {}]) {}
  [method "m" [], method "y" [], method "z" [.keyword "template" {}, .bool true {}]]

def obstacles : List Member :=
  let method (name : String) (directives : List Directive) : Member :=
    { Member.bareMethod name [] {} with body := some (.atom (.int 2) {}), directives }
  [method "m" [], method "y" [], method "z" [.template]]

/-- **Accessors outlive their fields.** The accessors of all three fields are spliced into such a
class, and it has none of the fields. -/
theorem expand_orphansAccessors :
    let e := expand { requireOptIn := false } (servingUnit obstacles)
    SourceUnit.ofForms (servingForms obstacleForms) = .ok (servingUnit obstacles) ∧
      e.isOk = true ∧ ∃ plan ∈ e.plans, plan.decl.isInterface = false ∧
        plan.decl.members.map (fun m => (m.name, m.isField, m.accessorFor)) =
          [("m", false, none), ("y", false, none),
            ("get_x", false, some "x"), ("set_x", false, some "x"),
            ("get_y", false, some "y"), ("set_y", false, some "y"),
            ("get_z", false, some "z"), ("set_z", false, some "z")] ∧
        ∀ m ∈ e.membersUpwards plan.decl, m.isField = false := by
  have hread : SourceUnit.ofForms (servingForms obstacleForms) = .ok (servingUnit obstacles) := by
    cbv
  have hok : (expand { requireOptIn := false } (servingUnit obstacles)).isOk = true := by cbv
  obtain ⟨donor, host, hplans⟩ : ∃ donor host,
      (expand { requireOptIn := false } (servingUnit obstacles)).plans = [donor, host] :=
    List.length_eq_two.mp (by cbv)
  have hdata : (expand { requireOptIn := false } (servingUnit obstacles)).plans.map (fun plan =>
        (plan.decl.isInterface, plan.decl.superclass.isSome,
          plan.decl.members.map fun m => (m.name, m.isField, m.accessorFor))) =
      [(true, false, [("x", true, none), ("get_x", false, some "x"), ("set_x", false, some "x"),
          ("m", false, none),
          ("y", true, none), ("get_y", false, some "y"), ("set_y", false, some "y"),
          ("z", true, none), ("get_z", false, some "z"), ("set_z", false, some "z")]),
        (false, false, [("m", false, none), ("y", false, none),
          ("get_x", false, some "x"), ("set_x", false, some "x"),
          ("get_y", false, some "y"), ("set_y", false, some "y"),
          ("get_z", false, some "z"), ("set_z", false, some "z")])] := by cbv
  rw [hplans] at hdata
  simp only [List.map_cons, List.map_nil, List.cons.injEq, Prod.mk.injEq] at hdata
  obtain ⟨-, ⟨hclass, hsuper, hmembers⟩, -⟩ := hdata
  have habove :
      (expand { requireOptIn := false } (servingUnit obstacles)).above host.decl = [] := by
    have hnone : host.decl.superclass = none := by simpa using hsuper
    rw [above, Ancestry.superclasses, hnone, TypeScope.lineage_none, List.map_nil]
  refine ⟨hread, hok, host, by simp [hplans], hclass, hmembers, fun m hm => ?_⟩
  rw [membersUpwards, habove, List.flatMap_nil, List.append_nil] at hm
  have hmem := List.mem_map_of_mem (f := fun m : Member => (m.name, m.isField, m.accessorFor)) hm
  rw [hmembers] at hmem
  simp only [List.mem_cons, Prod.mk.injEq, List.not_mem_nil, or_false] at hmem
  tauto

end Expansion

end DeclWeave
