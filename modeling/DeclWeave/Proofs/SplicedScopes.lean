import DeclWeave.Proofs.DonatedAccessors
import DeclWeave.Proofs.FailureAccounts
import DeclWeave.Proofs.ShieldedScopes

/-!
# The Scopes of Spliced Methods

The names in the body of a copy are checked while its host is put together, and what the host ends
up with differs in two ways. Templates are dropped, so that a name may have meant one; and shields
are taken off, which may make what looked like a call bind, or the other way round. But for these,
the check is sound: whatever else a registry knows is borne by a member of the plan or of a plan
above it.

## Main results

* `Synthesis.unresolvedNames_spliced`: what the check says of a copy.
* `Expansion.cases_of_inherited`: what a class inherits is in a plan above, or a template.
* `Expansion.expand_resolvesSplices`: the plans of a unit.
-/

namespace DeclWeave

open Relation (TransGen)

/-! ### One check -/

theorem Diagnostics.hasErrors_foldl_error {ds : Diagnostics} {faults : List Fault}
    (h : (faults.foldl Diagnostics.error ds).hasErrors = false) : faults = [] := by
  have hentries : ∀ (fs : List Fault) (ds : Diagnostics), (fs.foldl Diagnostics.error ds).entries =
      ds.entries ++ fs.map (Diagnostic.mk .error) := by
    intro fs
    induction fs with
    | nil => simp
    | cons f fs ih => simp [ih, Diagnostics.error]
  rw [hasErrors, hentries, List.any_eq_false] at h
  refine List.eq_nil_iff_forall_not_mem.mpr fun f hf => ?_
  exact h ⟨.error, f⟩ (List.mem_append_right _ (List.mem_map_of_mem hf)) rfl

namespace Weave

/-- What a name means does not lie with the registry, unless the registry has the name. -/
theorem isVisible_of_not_mem {settings : Settings} {declared : List String} {donors : List Donor}
    {target : TypeDecl} {r : NameRegistry} {name : String}
    (h : isVisible settings declared donors target r name = true) (hname : name ∉ r.names)
    (r' : NameRegistry) : isVisible settings declared donors target r' name = true := by
  simp only [isVisible, Bool.or_eq_true, NameRegistry.contains_eq_false_iff.mpr hname,
    Bool.false_eq_true, false_or] at h ⊢
  tauto

/-- A copy without faults has no name in its body that means nothing. -/
theorem unresolvedNames_of_check {settings : Settings} {target : TypeDecl}
    {available : CapabilitySet} {visible : String → Bool} {inits : List DefaultInit}
    {s : SplicedMember} (h : check settings target available visible inits s = [])
    (hcheck : settings.checkScope = true) {body : Form} (hbody : s.member.body = some body) :
    body.unresolvedNames (s.member.signature.params.map (·.name)) visible = [] := by
  have hfault := (List.append_eq_nil_iff.mp h).2
  rw [if_pos hcheck, checkedBody, hbody] at hfault
  dsimp only at hfault
  split at hfault
  · rwa [List.isEmpty_iff] at *
  · exact absurd hfault (by simp)

end Weave

/-- Of its target, a copy takes the place. -/
theorem Donor.copy_congr (donor : Donor) {target target' : TypeDecl}
    (h : target.span = target'.span) (m : Member) : donor.copy target m = donor.copy target' m := by
  rw [copy, copy, h]

namespace Synthesis

variable {c : Context} {d : TypeDecl} {found : Diagnostics} {m : Member}

variable {gifts : List (Donor × List ℕ)}

/-- A copy keeps no directives. -/
theorem Receives.isTemplate_eq (h : Receives c d found gifts)
    (hm : m ∈ (contributed c d found).members) : m.isTemplate = false := by
  obtain ⟨g, -, source, -, rfl⟩ := h.exists_of_mem hm
  rfl

/-- No donor gives a constructor. -/
theorem Receives.isConstructor_eq (h : Receives c d found gifts)
    (hdonors : ∀ donor ∈ c.donors.chain d.interfaces, donor.bank.IsOfDecl)
    (hm : m ∈ (contributed c d found).members) : m.isConstructor = false := by
  obtain ⟨g, hg, source, hsource, rfl⟩ := h.exists_of_mem hm
  obtain ⟨settings, plan, -, hbank⟩ := hdonors g.1 (h.map_fst_eq ▸ List.mem_map_of_mem hg)
  have hmem := g.1.given_subset g.2 hsource
  rw [hbank, DonorBank.members_ofDecl] at hmem
  have hdonated := (List.mem_filter.mp hmem).2
  exact (Bool.not_eq_true' _).mp (Bool.and_eq_true_iff.mp hdonated).1

/-- **A spliced method** of the finished plan is a copy without its shields. -/
theorem exists_copy_of_spliced (hclass : d.isInterface = false)
    (hd : ∀ m ∈ d.members, m.origin ≠ .spliced)
    (hcontributed : ∀ m ∈ (contributed c d found).members, m.isConstructor = false)
    (hm : m ∈ (expanded c d found).1.emit.members) (horigin : m.origin = .spliced)
    (hmethod : m.isMethod = true) :
    ∃ copy ∈ (contributed c d found).members, m = copy.emit false := by
  -- What is planned was not spliced.
  have hassembled : ∀ m' ∈ assembled c d found, m'.origin = .spliced →
      m' ∈ (contributed c d found).members := by
    intro m' hm' hspliced
    refine (List.mem_append.mp hm').resolve_left fun hplanned => ?_
    obtain ⟨source, hsource, hlabel, -⟩ | ⟨-, hmade⟩ := of_mem_planned hplanned
    · exact hd source hsource ((Member.origin_eq_of_label hlabel).symm.trans hspliced)
    · rw [hspliced] at hmade
      exact absurd hmade (by decide)
  obtain ⟨m', -, rfl, hm' | ⟨old, hold, hname, rfl⟩ | rfl⟩ := exists_of_mem_emit_expanded hclass hm
  · exact ⟨m', hassembled m' hm' horigin, rfl⟩
  · have hconstructor : old.isConstructor = true :=
      Bool.and_eq_true_iff.mpr ⟨hmethod, beq_iff_eq.mpr hname⟩
    rw [hcontributed old (hassembled old hold horigin)] at hconstructor
    exact absurd hconstructor (by decide)
  · have hmade : Origin.synthesized = Origin.spliced := horigin
    exact absurd hmade (by decide)

/-- **What the checks say**: against what was known when all was copied, no copy uses a name that
means nothing. -/
theorem exists_known (hclass : d.isInterface = false)
    (hdonors : ∀ donor ∈ c.donors.chain d.interfaces, donor.bank.IsOfDecl)
    (hcheck : c.settings.checkScope = true) (hfine : (expanded c d found).2.hasErrors = false) :
    ∃ known : NameRegistry,
      (∀ name ∈ known.names, name ∈ (planned c d found).2.registry.names ∨
        ∃ copy ∈ (contributed c d found).members, copy.name = name) ∧
      ∀ copy ∈ (contributed c d found).members, ∀ body, copy.body = some body →
        body.unresolvedNames (copy.signature.params.map (·.name)) (Weave.isVisible c.settings
          c.declared (c.donors.chain d.interfaces) d known) = [] := by
  have hclass' : { d with members := (planned c d found).1 : TypeDecl }.isInterface = false :=
    hclass
  obtain ⟨gifts, spliced, available, -, -, hmembers, -, hclaims, hwoven⟩ :=
    exists_woven_eq c hclass' hdonors (Ancestry.of c.scope d) (planned c d found).2
  have hcontributed : contributed c d found = _ := hwoven
  have hfaults : (contributed c d found).faults = [] := by
    rw [expanded] at hfine
    dsimp only at hfine
    rw [if_neg (by simp [hclass])] at hfine
    exact Diagnostics.hasErrors_foldl_error hfine
  rw [hcontributed] at hfaults ⊢
  refine ⟨spliced.registry, fun name hname => ?_, fun copy hcopy body hbody => ?_⟩
  · rcases hclaims.mem_names_iff.mp hname with hname | hname
    · exact .inl hname
    · obtain ⟨source, hsource, rfl⟩ := List.mem_map.mp hname
      obtain ⟨g, hg, hsource⟩ := List.mem_flatMap.mp hsource
      have hcopy : g.1.copy { d with members := (planned c d found).1 } source ∈
          spliced.members.map (·.member) :=
        hmembers ▸ List.mem_flatMap.mpr ⟨g, hg, List.mem_map_of_mem hsource⟩
      exact .inr ⟨_, hcopy, rfl⟩
  · obtain ⟨s, hs, rfl⟩ := List.mem_map.mp hcopy
    exact Weave.unresolvedNames_of_check (List.flatMap_eq_nil_iff.mp hfaults s hs) hcheck hbody

/-- A declared member of a class that is no template has its name in the finished plan. -/
theorem exists_of_mem_members (hclass : d.isInterface = false) (hnodup : d.memberNames.Nodup)
    (hm : m ∈ d.members) (htemplate : m.isTemplate = false) :
    ∃ y ∈ (ofDecl c d).1.emit.members, y.name = m.name := by
  rw [ofDecl]
  split
  · obtain ⟨made, hperm, -⟩ := (grows_planned c d (preliminary c d)).names_perm
    have hname : m.name ∈ (planned c d (preliminary c d)).1.map (·.name) :=
      hperm.mem_iff.mpr (List.mem_append_left _ (List.mem_map_of_mem hm))
    obtain ⟨y, hy, hname⟩ := List.mem_map.mp hname
    have hplain : y.isTemplate = false := by
      obtain ⟨source, hsource, hlabel, hdirectives⟩ | ⟨hplain, -⟩ := of_mem_planned hy
      · obtain rfl := List.inj_on_of_nodup_map hnodup hsource hm
          ((Member.name_eq_of_label hlabel).symm.trans hname)
        rwa [Member.isTemplate, hdirectives]
      · exact hplain
    obtain ⟨y', hy', hlabel⟩ := exists_mem_emit_expanded hclass (List.mem_append_left _ hy) hplain
    exact ⟨y', hy', (Member.name_eq_of_label hlabel).trans hname⟩
  · refine ⟨m.emit d.isInterface, List.mem_map_of_mem (List.mem_filter.mpr ⟨hm, ?_⟩), rfl⟩
    rw [TypeDecl.keeps, htemplate, hclass]
    rfl

end Synthesis

/-! ### The plans of a unit -/

namespace Expansion

open Pass

variable {settings : Settings} {u : SourceUnit} {d : TypeDecl} {name : String}

/-- Whether a name means something in a finished plan: against the members of it and above it, with
the donors that the unit has for it. -/
def resolves (settings : Settings) (u : SourceUnit) (plan : TypeDecl) : String → Bool :=
  Weave.isVisible settings (u.types.map (·.name)) (donorsOf settings u plan) plan
    ⟨plan.name, ((expand settings u).membersUpwards plan).map (·.name)⟩

/-- A name that stood for a template: of the declaration of a plan, or of one above it that was not
finished by then. -/
def NamesTemplate (u : SourceUnit) (plan : TypeDecl) (name : String) : Prop :=
  ∃ d ∈ u.types, (d.name = plan.name ∨
      TransGen (TypeScope.Extends u.types) plan.name d.name ∧ d ∉ before u.types plan.name) ∧
    ∃ t ∈ d.members, t.isTemplate = true ∧ t.name = name

/-- **What a class inherits** by name is borne by a member above its plan, or was a template. -/
theorem cases_of_inherited (hread : u.IsRead) (hnames : (u.types.map (·.name)).Nodup)
    (hd : d ∈ u.types) (hclass : d.isInterface = false)
    (h : name ∈ (Ancestry.of (turn settings u.types d.name).scope d).names) :
    (∃ y ∈ (expand settings u).membersUpwards (planOf settings u.types d).emit, y.name = name) ∨
      NamesTemplate u (planOf settings u.types d).emit name := by
  obtain ⟨seen, hline, hname⟩ := List.mem_flatMap.mp h
  obtain ⟨m, hm, rfl⟩ := List.mem_map.mp hname
  have hm := (List.mem_filter.mp hm).1
  have hreach := extends_of_mem_superclasses hnames hd hline
  obtain ⟨plan, habove, e, he, rfl, ⟨-, rfl⟩ | ⟨hbefore, rfl⟩⟩ :=
    exists_of_mem_forall₂ (forall₂_superclasses_turn hnames hd).flip hline
  · exact .inl ⟨m, List.mem_append_right _ (List.mem_flatMap.mpr ⟨_, habove, hm⟩), rfl⟩
  · -- What was not finished by then is a class, and its plan has all but the templates.
    have hclass' : seen.isInterface = false := by
      rw [← Bool.not_eq_true]
      exact fun hinterface => hbefore (mem_before_of_interface hnames hd hclass he hinterface)
    have hname : (planOf settings u.types d).emit.name = d.name := Synthesis.name_ofDecl _ d
    cases htemplate : m.isTemplate with
    | true =>
      refine .inr ⟨seen, he, .inr ?_, m, hm, htemplate, rfl⟩
      rw [hname]
      exact ⟨hreach, hbefore⟩
    | false =>
      obtain ⟨y, hy, hname⟩ :=
        Synthesis.exists_of_mem_members hclass' (hread.nodup he) hm htemplate
      exact .inl ⟨y, List.mem_append_right _ (List.mem_flatMap.mpr ⟨_, habove, hy⟩), hname⟩

/-- A type that no error is attributed to has none among the findings of its turn. -/
theorem hasErrors_findings_of_not_blames (hnames : (u.types.map (·.name)).Nodup) (hd : d ∈ u.types)
    (h : ¬(expand settings u).diagnostics.Blames d.name) :
    (findings (turn settings u.types d.name) d).hasErrors = false := by
  obtain ⟨rest, hqueue⟩ := exists_queue_eq hnames hd
  have habout := about_foldl (p := start settings (u.types.map (·, true)))
    (nodup_map_name_queue u.types) hqueue
  rw [← Bool.not_eq_true, Diagnostics.hasErrors, List.any_eq_true]
  rintro ⟨entry, hentry, herror⟩
  have hmem := habout ▸ List.mem_append_right _ hentry
  refine h ⟨entry, ?_, beq_iff_eq.mp herror, (about_findings _ _ entry hentry).source?_eq⟩
  rw [diagnostics_expand settings hnames]
  exact (List.mem_filter.mp hmem).1

/-- What a name means to the checks of a class lies with the header of its plan. -/
theorem isVisible_turn (hnames : (u.types.map (·.name)).Nodup) (hd : d ∈ u.types)
    (hclass : d.isInterface = false) (r : NameRegistry) :
    Weave.isVisible (turn settings u.types d.name).settings (turn settings u.types d.name).declared
        ((turn settings u.types d.name).donors.chain d.interfaces) d r =
      Weave.isVisible settings (u.types.map (·.name))
        (donorsOf settings u (planOf settings u.types d).emit)
        (planOf settings u.types d).emit r := by
  have hheader : (planOf settings u.types d).emit.header = d.header :=
    header_planOf settings u.types d
  have hparams : (planOf settings u.types d).emit.typeParams = d.typeParams :=
    TypeDecl.typeParams_eq_of_header hheader
  have hused : (planOf settings u.types d).emit.usedNames = d.usedNames :=
    congrArg (·.usedNames) hheader
  funext name
  rw [chain_turn_eq hnames hd hclass, settings_turn, Context.declared, types_turn,
    Weave.isVisible, Weave.isVisible, hparams, hused]

/-- **The names in a copy.** What means nothing to the finished plan of a class without errors, and
stands in a body that was copied into it, was a template. -/
theorem namesTemplate_of_unresolved (hread : u.IsRead) (hnames : (u.types.map (·.name)).Nodup)
    (hcheck : settings.checkScope = true) (hd : d ∈ u.types) (hclass : d.isInterface = false)
    (hsugar : (turn settings u.types d.name).sugarEnabled d = true)
    (hfine : (findings (turn settings u.types d.name) d).hasErrors = false) {copy : Member}
    (hcopy : copy ∈ (Synthesis.contributed (turn settings u.types d.name) d
      (Synthesis.preliminary (turn settings u.types d.name) d)).members)
    {body : Form} (hbody : copy.body = some body)
    (h : name ∈ body.unresolvedNames (copy.signature.params.map (·.name))
      (resolves settings u (planOf settings u.types d).emit)) :
    NamesTemplate u (planOf settings u.types d).emit name := by
  have hexpanded := planOf_eq_expanded hsugar
  have hdonors := fun donor hdonor =>
    (@of_mem_chain_turn settings u d hread hnames hd hclass donor hdonor).1
  have hcheck' : (turn settings u.types d.name).settings.checkScope = true := by
    rw [settings_turn]
    exact hcheck
  have hfine' : (Synthesis.expanded (turn settings u.types d.name) d
      (Synthesis.preliminary (turn settings u.types d.name) d)).2.hasErrors = false := by
    rw [findings, Synthesis.ofDecl, if_pos hsugar] at hfine
    dsimp only at hfine
    rwa [donates, hclass] at hfine
  obtain ⟨gifts, hgifts⟩ := Synthesis.exists_receives (c := turn settings u.types d.name) hclass
    hdonors (Synthesis.preliminary (turn settings u.types d.name) d)
  obtain ⟨known, hknown, hchecked⟩ := Synthesis.exists_known hclass hdonors hcheck' hfine'
  simp only [Form.unresolvedNames, List.mem_eraseDups, List.mem_filter] at h
  obtain ⟨hfree, hmeans⟩ := h
  -- No member of the plan or above it has the name.
  have hunborne : ¬∃ y ∈ (expand settings u).membersUpwards (planOf settings u.types d).emit,
      y.name = name := by
    rintro ⟨y, hy, rfl⟩
    refine absurd hmeans ?_
    have hcontains : y.name ∈ ((expand settings u).membersUpwards
        (planOf settings u.types d).emit).map (·.name) := List.mem_map_of_mem hy
    simp only [resolves, Weave.isVisible, NameRegistry.contains,
      List.contains_iff_mem.mpr hcontains, Bool.true_or, Bool.not_true, Bool.false_eq_true, not_false_eq_true]
  have hvisible : Weave.isVisible settings (u.types.map (·.name))
      (donorsOf settings u (planOf settings u.types d).emit)
      (planOf settings u.types d).emit known name = true := by
    rw [← isVisible_turn hnames hd hclass]
    by_contra hinvisible
    have hmem : name ∈ body.unresolvedNames (copy.signature.params.map (·.name))
        (Weave.isVisible (turn settings u.types d.name).settings
          (turn settings u.types d.name).declared
          ((turn settings u.types d.name).donors.chain d.interfaces) d known) := by
      simp only [Form.unresolvedNames, List.mem_eraseDups, List.mem_filter]
      exact ⟨hfree, by simpa using hinvisible⟩
    rw [hchecked copy hcopy body hbody] at hmem
    exact absurd hmem List.not_mem_nil
  have hname : name ∈ known.names := by
    by_contra hname
    rw [resolves, Weave.isVisible_of_not_mem hvisible hname] at hmeans
    exact absurd hmeans (by decide)
  rcases hknown name hname with hplanned | ⟨copy', hcopy', rfl⟩
  · rcases Synthesis.cases_of_mem_registry hclass hplanned with
      ⟨y, hy, hname⟩ | hinherited | ⟨t, ht, htemplate, hname⟩
    · exact absurd ⟨y, List.mem_append_left _ (hexpanded ▸ hy), hname⟩ hunborne
    · exact (cases_of_inherited hread hnames hd hclass hinherited).resolve_left hunborne
    · exact ⟨d, hd, .inl (Synthesis.name_ofDecl _ d).symm, t, ht, htemplate, hname⟩
  · obtain ⟨y, hy, hlabel⟩ := Synthesis.exists_mem_emit_expanded hclass
      (List.mem_append_right _ hcopy') (hgifts.isTemplate_eq hcopy')
    exact absurd ⟨y, List.mem_append_left _ (hexpanded ▸ hy), Member.name_eq_of_label hlabel⟩
      hunborne

/-- **The scopes of spliced methods.** With the checks on, a method that is spliced into a class
without errors is the copy of a method of one of its donors. In the body as it was copied, every
name means something to the finished plan or stood for a template; and so it is in the body as it
is emitted, unless a shield stands where it changes what the body binds. -/
theorem expand_resolvesSplices (hread : u.IsRead) (hnames : (u.types.map (·.name)).Nodup)
    (hcheck : settings.checkScope = true) :
    ∀ plan ∈ (expand settings u).plans, plan.decl.isInterface = false →
      (∀ entry ∈ (expand settings u).diagnostics.entries, entry.severity = .error →
        entry.fault.source? ≠ some plan.decl.name) →
      ∀ m ∈ plan.decl.members, m.origin = .spliced → m.isMethod = true →
        ∀ body, m.body = some body →
          ∃ donor ∈ donorsOf settings u plan.decl, ∃ source ∈ donor.bank.members, ∃ written,
            m = (donor.copy plan.decl source).emit false ∧
            (donor.copy plan.decl source).body = some written ∧ body = written.stripShields ∧
            (∀ name ∈ written.unresolvedNames (m.signature.params.map (·.name))
              (resolves settings u plan.decl), NamesTemplate u plan.decl name) ∧
            (written.keepsScopes = true →
              ∀ name ∈ body.unresolvedNames (m.signature.params.map (·.name))
                (resolves settings u plan.decl), NamesTemplate u plan.decl name) := by
  intro plan hplan hclass hfine m hm horigin hmethod body hbody
  rw [plans_expand settings hnames] at hplan
  obtain ⟨d, hd, rfl⟩ := List.mem_map.mp hplan
  have hclass' : d.isInterface = false := (isInterface_planOf settings u.types d).symm.trans hclass
  have hm : m ∈ (planOf settings u.types d).emit.members := hm
  have hfine := hasErrors_findings_of_not_blames hnames hd fun ⟨entry, hentry, herror, hsource⟩ =>
    hfine entry hentry herror (hsource.trans (congrArg some (Synthesis.name_ofDecl _ d).symm))
  cases hsugar : (turn settings u.types d.name).sugarEnabled d with
  | false =>
    -- Nothing is spliced into a class whose directives are ignored.
    rw [planOf, Synthesis.ofDecl, if_neg (by simp [hsugar])] at hm
    obtain ⟨m', hm', rfl⟩ := List.mem_map.mp hm
    have hexplicit : m'.origin = .explicit := hread.origin hd m' (List.mem_filter.mp hm').1
    have hspliced : m'.origin = .spliced := horigin
    rw [hexplicit] at hspliced
    exact absurd hspliced (by decide)
  | true =>
    have hdonors := fun donor hdonor =>
      (@of_mem_chain_turn settings u d hread hnames hd hclass' donor hdonor).1
    obtain ⟨gifts, hgifts⟩ := Synthesis.exists_receives (c := turn settings u.types d.name) hclass'
      hdonors (Synthesis.preliminary (turn settings u.types d.name) d)
    rw [planOf_eq_expanded hsugar] at hm
    obtain ⟨copy, hcopy, rfl⟩ := Synthesis.exists_copy_of_spliced hclass'
      (fun m hm => by simp [hread.origin hd m hm]) (fun m hm => hgifts.isConstructor_eq hdonors hm)
      hm horigin hmethod
    obtain ⟨written, hwritten, rfl⟩ := Option.map_eq_some_iff.mp hbody
    have hscope := fun name => @namesTemplate_of_unresolved settings u d name hread hnames hcheck hd
      hclass' hsugar hfine copy hcopy written hwritten
    obtain ⟨g, hg, source, hsource, rfl⟩ := hgifts.exists_of_mem hcopy
    have hspan : (planOf settings u.types d).emit.span = d.span :=
      TypeDecl.span_eq_of_header (header_planOf settings u.types d)
    have hsame : g.1.copy (planOf settings u.types d).emit source = g.1.copy _ source :=
      g.1.copy_congr hspan source
    have hdonor : g.1 ∈ donorsOf settings u (planOf settings u.types d).emit := by
      rw [← chain_turn_eq hnames hd hclass', ← hgifts.map_fst_eq]
      exact List.mem_map_of_mem hg
    refine ⟨g.1, hdonor, source, g.1.given_subset g.2 hsource, written, ?_, ?_, rfl, hscope, ?_⟩
    · exact congrArg (Member.emit false) hsame.symm
    · exact (congrArg Member.body hsame).trans hwritten
    · exact fun hkeeps name hname =>
        hscope name (Form.unresolvedNames_stripShields_subset hkeeps hname)

/-- An interface with a method of some body, and a class that implements it and has members of its
own. -/
def guestForms (body : Form) (own : List Form) : List Form :=
  [.list [.sym "interface:" {}, .sym "Donor" {},
      .list [.sym "method:" {}, .sym "m" {}, .vector [] {}, body] {}] {},
    .list ([.sym "class:" {}, .sym "Host" {}, .keyword "implements" {},
      .vector [.sym "Donor" {}] {}] ++ own) {}]

def guestUnit (body : Form) (own : List Member) : SourceUnit :=
  ⟨[{ name := "Donor"
      kind := .interfaceType
      members := [{ Member.bareMethod "m" [] {} with body := some body }] },
    { name := "Host"
      kind := .classType
      interfaces := [.named "Donor"]
      members := own }]⟩

/-- The body `(t)`. -/
def callBody : Form :=
  .list [.sym "t" {}] {}

/-- Where the class has a field of that name, the body resolves. -/
theorem expand_resolvesSplices_field :
    let u := guestUnit callBody [.bareField "t" {}]
    let e := expand { requireOptIn := false } u
    SourceUnit.ofForms (guestForms callBody [.list [.sym "field:" {}, .sym "t" {}] {}]) = .ok u ∧
      (u.types.map (·.name)).Nodup ∧ e.isOk = true ∧ e.memberNames = [["m"], ["t", "m"]] ∧
      ∀ plan ∈ e.plans, plan.decl.isInterface = false →
        ∀ m ∈ plan.decl.members, m.origin = .spliced → m.isMethod = true →
          ∀ body, m.body = some body → ∃ written, body = Form.stripShields written ∧
            written.unresolvedNames (m.signature.params.map (·.name))
              (resolves { requireOptIn := false } u plan.decl) = [] := by
  intro u e
  have hread : SourceUnit.ofForms
      (guestForms callBody [.list [.sym "field:" {}, .sym "t" {}] {}]) = .ok u := by cbv
  have hnames : (u.types.map (·.name)).Nodup := by decide
  have hok : e.isOk = true := by cbv
  refine ⟨hread, hnames, hok, by cbv, fun plan hplan hclass m hm horigin hmethod body hbody => ?_⟩
  have hfine : ∀ entry ∈ e.diagnostics.entries, entry.severity = .error →
      entry.fault.source? ≠ some plan.decl.name := by
    intro entry hentry herror
    rw [isOk, Bool.not_eq_true', Diagnostics.hasErrors, List.any_eq_false] at hok
    exact absurd (beq_iff_eq.mpr herror) (hok entry hentry)
  obtain ⟨-, -, -, -, written, -, -, hwritten, hscope, -⟩ := expand_resolvesSplices
    (SourceUnit.isRead_of_ofForms hread) hnames rfl plan hplan hclass hfine m hm horigin hmethod
    body hbody
  refine ⟨written, hwritten, List.eq_nil_iff_forall_not_mem.mpr fun name hname => ?_⟩
  obtain ⟨d, hd, -, t, ht, htemplate, -⟩ := hscope name hname
  have hplain : ∀ d ∈ u.types, ∀ t ∈ d.members, t.isTemplate = false := by decide
  rw [hplain d hd t ht] at htemplate
  exact absurd htemplate (by decide)

/-- The body `(do ((no-sugar do) (var y 1)) y)`: with the shield on, `do` is called there, and the
variable is known to the end. -/
def shieldedBody : Form :=
  let shield : Form := .list [.sym "no-sugar" {}, .sym "do" {}] {}
  let binding : Form := .list [.sym "var" {}, .sym "y" {}, .atom (.int 1) {}] {}
  .list [.sym "do" {}, .list [shield, binding] {}, .sym "y" {}] {}

/-- For each spliced member of each plan, whether it is a method, and which names in its body mean
nothing. -/
def strandedNames (settings : Settings) (u : SourceUnit) : List (List (Bool × List String)) :=
  (expand settings u).plans.map fun plan =>
    (plan.decl.members.filter (·.origin == .spliced)).map fun m =>
      (m.isMethod, m.body.toList.flatMap fun body => body.unresolvedNames
        (m.signature.params.map (·.name)) (resolves settings u plan.decl))

/-- **A check is passed, and the name is gone**: where the class has a template of the name, which
is not emitted, and where a field has the name of a scope that a shield has hidden. -/
theorem expand_strandsNames :
    let template : Member :=
      { Member.bareMethod "t" [] {} with body := some (.atom (.int 1) {}), directives := [.template] }
    let called := guestUnit callBody [template]
    let shielded := guestUnit shieldedBody [.bareField "do" {}]
    SourceUnit.ofForms (guestForms callBody [.list [.sym "method:" {}, .sym "t" {}, .vector [] {},
        .keyword "template" {}, .bool true {}, .atom (.int 1) {}] {}]) = .ok called ∧
      (called.types.map (·.name)).Nodup ∧
      (expand { requireOptIn := false } called).isOk = true ∧
      strandedNames { requireOptIn := false } called = [[], [(true, ["t"])]] ∧
      SourceUnit.ofForms (guestForms shieldedBody [.list [.sym "field:" {}, .sym "do" {}] {}]) =
        .ok shielded ∧
      (shielded.types.map (·.name)).Nodup ∧
      (expand { requireOptIn := false } shielded).isOk = true ∧
      strandedNames { requireOptIn := false } shielded = [[], [(true, ["y"])]] := by
  refine ⟨?_, ?_, ?_, ?_, ?_, ?_, ?_, ?_⟩
  · cbv
  · decide
  · cbv
  · cbv
  · cbv
  · decide
  · cbv
  · cbv

end Expansion

end DeclWeave
