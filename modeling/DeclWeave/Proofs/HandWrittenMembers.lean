import DeclWeave.Proofs.InheritanceCircles
import DeclWeave.Proofs.PlanMembers
import DeclWeave.Proofs.ReadDeclarations

/-!
# Hand-Written Members

A member that is written by hand is published, may become a property or give its body to the
constructor, is grouped with what is made from it, and is at last emitted. At each of these steps it
keeps its place among the hand-written members, its name, its kind and its span, and a method keeps
its signature and its body, the constructor apart. Whatever else comes into a plan is marked as
made, so that the members of a plan which are not are those of its declaration.

`Member.Carries` says what the steps before emission keep, `Member.Survives` what there is of it in
a finished plan.

## Main results

* `Synthesis.exists_member_eq`: what becomes of one member, and with what it is grouped.
* `Synthesis.carries_planned`, `Synthesis.carries_ofDecl`: the members of one declaration.
* `Expansion.expand_keepsWritten`: the plans of a unit.
-/

namespace DeclWeave

/-! ### Members -/

namespace Member

/-- Whether a member was written by hand. -/
def isWritten (m : Member) : Bool :=
  m.origin == .explicit

/-- What synthesis keeps of a member. -/
structure Carries (m m' : Member) : Prop where
  label_eq : m'.label = m.label
  span_eq : m'.span = m.span
  directives_eq : m'.directives = m.directives
  visibility_eq : m'.publish.visibility = m.publish.visibility
  /-- A method is not changed, unless it is the constructor. -/
  method_eq : m.isMethod → m.name ≠ constructorName →
    m'.signature = m.signature ∧ m'.body = m.body

/-- What there is of a member in a finished plan. -/
structure Survives (onInterface : Bool) (m m' : Member) : Prop where
  name_eq : m'.name = m.name
  kind_eq : m'.kind = m.kind
  span_eq : m'.span = m.span
  visibility_eq : m'.visibility = some (m.visibility.getD .exported)
  signature_eq : m.isMethod → m.name ≠ constructorName → m'.signature = m.signature
  body_eq : m.isMethod → m.name ≠ constructorName →
    m'.body = if onInterface then none else m.body.map (·.stripShields)

variable {m m' m'' : Member}

theorem Carries.refl (m : Member) : m.Carries m :=
  ⟨rfl, rfl, rfl, rfl, fun _ _ => ⟨rfl, rfl⟩⟩

theorem Carries.trans (h : m.Carries m') (h' : m'.Carries m'') : m.Carries m'' where
  label_eq := h'.label_eq.trans h.label_eq
  span_eq := h'.span_eq.trans h.span_eq
  directives_eq := h'.directives_eq.trans h.directives_eq
  visibility_eq := h'.visibility_eq.trans h.visibility_eq
  method_eq := by
    intro hmethod hname
    have hmethod' : m'.isMethod = true := by
      have hkind : m'.kind = m.kind := congrArg (·.2.1) h.label_eq
      rwa [isMethod, hkind]
    obtain ⟨hsignature, hbody⟩ := h.method_eq hmethod hname
    obtain ⟨hsignature', hbody'⟩ := h'.method_eq hmethod'
      (name_eq_of_label h.label_eq ▸ hname)
    exact ⟨hsignature'.trans hsignature, hbody'.trans hbody⟩

theorem forall₂_carries_trans {ms ms' ms'' : List Member} (h : List.Forall₂ Carries ms ms')
    (h' : List.Forall₂ Carries ms' ms'') : List.Forall₂ Carries ms ms'' := by
  induction h generalizing ms'' with
  | nil => exact h'
  | cons hm _ ih =>
    obtain ⟨m'', rest, hm', hrest, rfl⟩ := List.forall₂_cons_left_iff.mp h'
    exact .cons (hm.trans hm') (ih hrest)

/-- A field may be reshaped. -/
theorem Reshapes.carries (h : m.Reshapes m') (hfield : m.isMethod = false) : m.Carries m' where
  label_eq := h.label_eq
  span_eq := h.span_eq
  directives_eq := h.directives_eq
  visibility_eq := by
    obtain ⟨type, body, property, -, rfl⟩ := h
    rfl
  method_eq hmethod := absurd hmethod (by simp [hfield])

/-- A constructor may be given statements to begin with. -/
theorem carries_withInits (hname : m.name = constructorName) (direct : List DirectInit)
    (defaults : List DefaultInit) : m.Carries (m.withInits direct defaults) :=
  ⟨rfl, rfl, rfl, rfl, fun _ hother => absurd hname hother⟩

theorem Carries.isWritten_eq (h : m.Carries m') : m'.isWritten = m.isWritten := by
  rw [isWritten, isWritten, origin_eq_of_label h.label_eq]

theorem Carries.survives (h : m.Carries m') (onInterface : Bool) :
    m.Survives onInterface (m'.emit onInterface) where
  name_eq := name_eq_of_label h.label_eq
  kind_eq := congrArg (·.2.1) h.label_eq
  span_eq := h.span_eq
  visibility_eq := h.visibility_eq
  signature_eq hmethod hname := (h.method_eq hmethod hname).1
  body_eq hmethod hname := by rw [emit, (h.method_eq hmethod hname).2]

end Member

namespace TypeDecl

variable {d e : TypeDecl} {m m' : Member}

/-- Whether a member stands in the finished plan is no matter of what is not carried. -/
theorem keeps_eq_of_carries (hkind : e.kind = d.kind) (h : m.Carries m') :
    e.keeps m' = d.keeps m := by
  have hpublished : ∀ m : Member,
      (m.visibility == some .hidden) = (m.publish.visibility == some .hidden) := by
    intro m
    rw [Member.publish]
    cases m.visibility <;> rfl
  rw [keeps, keeps, hpublished m', h.visibility_eq, ← hpublished m, Member.isTemplate,
    Member.isTemplate, h.directives_eq, isInterface, isInterface, hkind]

/-- **Emission** keeps what the plan carries of its declaration, without templates, and without the
hidden members of an interface. -/
theorem survives_emit (hkind : e.kind = d.kind)
    (h : List.Forall₂ Member.Carries d.members (e.members.filter (·.isWritten))) :
    List.Forall₂ (Member.Survives d.isInterface) (d.members.filter d.keeps)
      (e.emit.members.filter (·.isWritten)) := by
  have hinterface : e.isInterface = d.isInterface := by rw [isInterface, isInterface, hkind]
  have hwritten : e.emit.members.filter (·.isWritten) =
      ((e.members.filter (·.isWritten)).filter e.keeps).map (·.emit d.isInterface) := by
    rw [emit, hinterface, List.filter_map, List.filter_filter, List.filter_filter]
    refine congrArg _ (List.filter_congr fun m _ => ?_)
    exact Bool.and_comm _ _
  have hkept : List.Forall₂ Member.Carries (d.members.filter d.keeps)
      ((e.members.filter (·.isWritten)).filter e.keeps) :=
    List.rel_filter (p := d.keeps) (q := e.keeps)
      (fun _ _ hm => Bool.eq_iff_iff.mp (keeps_eq_of_carries hkind hm).symm) h
  rw [hwritten, List.forall₂_map_right_iff]
  exact hkept.imp fun m m' hm => hm.survives _

end TypeDecl

/-! ### Synthesis -/

/-- Whatever a chain of donors gives is a copy. -/
theorem Weave.exists_copy_of_mem_spliceAll {target : TypeDecl} {registry : NameRegistry}
    {chain : List Donor} {s : Spliced} (h : spliceAll target registry chain = .ok s) :
    ∀ copy ∈ s.members, ∃ (donor : Donor) (source : Member),
      copy.member = donor.copy target source := by
  induction chain generalizing registry s with
  | nil =>
    obtain rfl := Except.ok.inj h
    simp
  | cons d chain ih =>
    obtain ⟨first, hfirst, h⟩ := Outcome.bind_eq_ok.mp h
    obtain ⟨others, hothers, h⟩ := Outcome.bind_eq_ok.mp h
    obtain rfl := Except.ok.inj h
    rw [ofDonor_eq] at hfirst
    obtain ⟨given, -, hmembers, -⟩ := Donor.exists_given_splice hfirst
    intro copy hcopy
    rcases List.mem_append.mp hcopy with hcopy | hcopy
    · obtain ⟨source, -, hsource⟩ :=
        List.mem_map.mp (hmembers ▸ List.mem_map_of_mem hcopy)
      exact ⟨d, source, hsource.symm⟩
    · exact ih hothers copy hcopy

namespace Synthesis

variable {c : Context} {d : TypeDecl} {m : Member} {p : Progress} {found : Diagnostics}

theorem carries_takenUp (d : TypeDecl) (m : Member) : m.Carries (takenUp d m) :=
  ⟨rfl, rfl, rfl, rfl, fun _ _ => ⟨rfl, rfl⟩⟩

/-- Nothing is made of a method but the method. -/
theorem member_eq_of_method (hmethod : m.isMethod = true) (p : Progress) :
    (member d m p).1 = [takenUp d m] := by
  have hfield : (takenUp d m).isField = false := by
    have hkind : m.kind = .method := by simpa [Member.isMethod] using hmethod
    have hkind' : (takenUp d m).kind = .method := hkind
    rw [Member.isField, hkind']
    rfl
  have hproperty : (propertyOf d (takenUp d m) p).1 = takenUp d m ∧
      (propertyOf d (takenUp d m) p).2.1 = [] := by
    have hnot : ¬ (takenUp d m).isField = true := by simp [hfield]
    rw [propertyOf, if_neg hnot]
    dsimp only
    split
    · rename_i s hs
      obtain rfl | ⟨hfield', -⟩ := property_cases hs
      · exact ⟨rfl, rfl⟩
      · exact absurd hfield' hnot
    · exact ⟨rfl, rfl⟩
  have hdirect : ∀ p : Progress, (directInit d (takenUp d m) p).1 = takenUp d m := by
    intro p
    rw [directInit]
    split
    · rfl
    · rw [if_pos (by simp [hfield])]
  by_cases hleft : m.isTemplate = true ∨ (takenUp d m).sugar.optOut = true
  · obtain ⟨found, hmember⟩ := exists_member_eq_takenUp hleft p
    rw [hmember]
  · obtain ⟨htemplate, hopt⟩ := not_or.mp hleft
    rw [Bool.not_eq_true] at htemplate hopt
    rw [member_eq_directInit htemplate hopt]
    dsimp only
    rw [hproperty.1, hproperty.2, hdirect]

/-- **What becomes of a member**: one that carries it, and others that are marked as made. -/
theorem exists_member_eq (d : TypeDecl) (m : Member) (p : Progress) :
    ∃ kept added, (member d m p).1 = kept :: added ∧ m.Carries kept ∧
      ∀ m' ∈ added, m'.isWritten = false := by
  cases hmethod : m.isMethod with
  | true => exact ⟨_, [], member_eq_of_method hmethod p, carries_takenUp d m, by simp⟩
  | false =>
    obtain hgroup | ⟨-, kept, hkept, hgroup⟩ := member_cases d m p
    · exact ⟨_, [], hgroup, carries_takenUp d m, by simp⟩
    · refine ⟨kept, _, hgroup, (carries_takenUp d m).trans (hkept.carries hmethod),
        fun m' hm' => ?_⟩
      obtain ⟨s, hs, hm'⟩ := exists_property_of_mem_propertyOf hm'
      obtain ⟨-, -, horigin, -⟩ := accessorFor_of_mem_added hs hm'
      rw [Member.isWritten, horigin]
      rfl

/-- Members in turn, by induction: what is written in each group carries its member. -/
theorem carries_members {ms : List Member} (hms : ∀ m ∈ ms, m.isWritten = true) (p : Progress) :
    List.Forall₂ (fun m group => List.Forall₂ Member.Carries [m] (group.filter (·.isWritten))) ms
      (members d p ms).1 := by
  induction ms generalizing p with
  | nil => exact .nil
  | cons m ms ih =>
    obtain ⟨hm, hms⟩ := List.forall_mem_cons.mp hms
    obtain ⟨kept, added, hgroup, hcarries, hadded⟩ := exists_member_eq d m p
    have hkept : kept.isWritten = true := hcarries.isWritten_eq.trans hm
    have hnone : added.filter (·.isWritten) = [] :=
      List.filter_eq_nil_iff.mpr fun m' hm' => by simp [hadded m' hm']
    have hwritten : (member d m p).1.filter (·.isWritten) = [kept] := by
      rw [hgroup, List.filter_cons_of_pos hkept, hnone]
    exact .cons (hwritten ▸ .cons hcarries .nil) (ih hms _)

/-- Forwarding members in turn, by induction: what they give is marked as made. -/
theorem carries_forwards {pairs : List (Member × List Member)}
    (hpairs : ∀ pair ∈ pairs,
      List.Forall₂ Member.Carries [pair.1] (pair.2.filter (·.isWritten))) (p : Progress) :
    List.Forall₂ Member.Carries (pairs.map Prod.fst)
      ((forwards c d p pairs).1.filter (·.isWritten)) := by
  induction pairs generalizing p with
  | nil => exact .nil
  | cons pair pairs ih =>
    obtain ⟨hpair, hpairs⟩ := List.forall_mem_cons.mp hpairs
    have hmade : (forwardOf c d pair.1 p).1.filter (·.isWritten) = [] := by
      refine List.filter_eq_nil_iff.mpr fun m hm => ?_
      rw [Member.isWritten, (of_mem_forwardOf hm).2]
      simp
    change List.Forall₂ Member.Carries ([pair.1] ++ pairs.map Prod.fst)
      ((pair.2 ++ (forwardOf c d pair.1 p).1 ++ (forwards c d (forwardOf c d pair.1 p).2
        pairs).1).filter (·.isWritten))
    rw [List.filter_append, List.filter_append, hmade, List.append_nil]
    exact List.rel_append hpair (ih hpairs _)

/-- **What is planned** for a declaration carries its members. -/
theorem carries_planned (hd : ∀ m ∈ d.members, m.isWritten = true) :
    List.Forall₂ Member.Carries d.members ((planned c d found).1.filter (·.isWritten)) := by
  let start : Progress := { registry := .ofDecl d (Ancestry.of c.scope d).names, found }
  have hlength := length_members d d.members start
  have hmembers := carries_members (d := d) hd start
  have hforwards := carries_forwards (c := c) (d := d)
    (fun pair hpair => (List.forall₂_iff_zip.mp hmembers).2 hpair) (members d start d.members).2
  rwa [List.map_fst_zip hlength.ge] at hforwards

/-- What donors contribute is marked as copied. -/
theorem isWritten_of_mem_contributed (h : m ∈ (contributed c d found).members) :
    m.isWritten = false := by
  rw [contributed, woven] at h
  split at h
  · exact absurd h List.not_mem_nil
  · dsimp only at h
    rw [Weave.ofTarget] at h
    split at h
    · rename_i result hresult
      obtain ⟨s, hs, hresult⟩ := Outcome.bind_eq_ok.mp hresult
      obtain rfl := Except.ok.inj hresult
      obtain ⟨copy, hcopy, rfl⟩ := List.mem_map.mp h
      obtain ⟨donor, source, hmember⟩ := Weave.exists_copy_of_mem_spliceAll hs copy hcopy
      rw [hmember]
      rfl
    · exact absurd h List.not_mem_nil

/-- **The plan of a declaration** carries its members. -/
theorem carries_expanded (hd : ∀ m ∈ d.members, m.isWritten = true) :
    List.Forall₂ Member.Carries d.members
      ((expanded c d found).1.members.filter (·.isWritten)) := by
  have hplanned : List.Forall₂ Member.Carries d.members
      ((planned c d found).1.filter (·.isWritten)) := carries_planned hd
  have hcontributed : (contributed c d found).members.filter (·.isWritten) = [] :=
    List.filter_eq_nil_iff.mpr fun m hm => by simp [isWritten_of_mem_contributed hm]
  have hassembled : List.Forall₂ Member.Carries d.members
      (((planned c d found).1 ++ (contributed c d found).members).filter (·.isWritten)) := by
    rw [List.filter_append, hcontributed, List.append_nil]
    exact hplanned
  rw [expanded_eq]
  dsimp only
  split
  · exact hassembled
  · obtain ⟨kept, extra, hplan, hkept, hextra⟩ := TypeDecl.exists_members_finishConstructor
      { d with members := (planned c d found).1 ++ (contributed c d found).members }
      (planned c d found).2.direct (contributed c d found).defaultInits
      (Ancestry.of c.scope d).constructor?
    have hsame : ∀ {m m' : Member}, (m' = m ∨ m.name = constructorName ∧
        m' = m.withInits (planned c d found).2.direct (contributed c d found).defaultInits) →
          m.Carries m' := by
      intro m m' h
      obtain rfl | ⟨hname, rfl⟩ := h
      · exact .refl _
      · exact Member.carries_withInits hname _ _
    have hkept' : List.Forall₂ Member.Carries
        (((planned c d found).1 ++ (contributed c d found).members).filter (·.isWritten))
        (kept.filter (·.isWritten)) :=
      List.rel_filter (p := (·.isWritten)) (q := (·.isWritten))
        (fun _ _ hm => Bool.eq_iff_iff.mp hm.isWritten_eq.symm) (hkept.imp fun _ _ => hsame)
    have hextra' : extra.filter (·.isWritten) = [] := by
      obtain rfl | ⟨-, -, rfl⟩ := hextra <;> rfl
    rw [hplan, List.filter_append, hextra', List.append_nil]
    exact Member.forall₂_carries_trans hassembled hkept'

theorem carries_ofDecl (hd : ∀ m ∈ d.members, m.isWritten = true) :
    List.Forall₂ Member.Carries d.members ((ofDecl c d).1.members.filter (·.isWritten)) := by
  rw [ofDecl]
  split
  · exact carries_expanded hd
  · rw [List.filter_eq_self.mpr hd]
    exact List.forall₂_same.mpr fun m _ => .refl m

end Synthesis

/-! ### Units -/

namespace Expansion

open Pass

variable {settings : Settings} {u : SourceUnit}

/-- **The plans of a unit**, each beside its declaration: what synthesis makes of this, or the
declaration as it was, emitted. -/
theorem forall₂_plans {R : TypeDecl → TypeDecl → Prop} (hdecl : ∀ d ∈ u.types, R d d.emit)
    (hplan : ∀ c, ∀ d ∈ u.types, R d (Synthesis.ofDecl c d).1.emit) :
    List.Forall₂ (fun d plan => R d plan.decl) u.types (expand settings u).plans := by
  suffices h : List.Forall₂ (fun d plan => R d plan.decl) ((markFirst [] u.types).map Prod.fst)
      (expand settings u).plans by rwa [map_fst_markFirst] at h
  rw [expand]
  dsimp only
  rw [List.forall₂_map_left_iff, List.forall₂_map_right_iff, List.forall₂_same]
  rintro ⟨d, first⟩ hentry
  have hd : d ∈ u.types := map_fst_markFirst [] u.types ▸ List.mem_map_of_mem hentry
  dsimp only
  cases hfind : (if first then
      (run settings (markFirst [] u.types)).context.finished.find? (·.name == d.name)
      else none) with
  | none => exact hdecl d hd
  | some plan =>
    split at hfind
    · rename_i hfirst
      have hfirsts : d ∈ firsts (markFirst [] u.types) :=
        List.mem_map.mpr ⟨_, List.mem_filter.mpr ⟨hentry, hfirst⟩, rfl⟩
      have hfinished := List.mem_of_find?_eq_some hfind
      rw [run_eq] at hfinished
      rcases exists_of_mem_finished _ _ hfinished with hstart | ⟨c, e, he, rfl⟩
      · rw [context_start] at hstart
        exact absurd hstart List.not_mem_nil
      · -- Of the declarations that are expanded, only this one has its name.
        have hname : e.name = d.name := by
          have hname := TypeDecl.name_of_find? hfind
          rwa [TypeDecl.name_emit, Synthesis.name_ofDecl] at hname
        obtain rfl := List.inj_on_of_nodup_map (nodup_map_name_firsts [] u.types).1
          (mem_of_mem_queue he) hfirsts hname
        exact hplan c e hd
    · exact absurd hfind (by simp)

/-- **Hand-written members survive**, for every unit: there is one plan for each declaration, in
source order, that differs from it in its members only. The members in it that were written by hand
are those of the declaration, in their order, without templates, and without the hidden ones of an
interface. Each keeps its name, its kind, its span and its visibility, settled to exported, and each
method but the constructor its signature and its body, which has its shields taken off and is left
out of interfaces. -/
theorem expand_keepsWritten (h : u.IsRead) (settings : Settings) :
    List.Forall₂ (fun d plan =>
      plan.decl.header = d.header ∧
      List.Forall₂ (Member.Survives d.isInterface)
        (d.members.filter fun m =>
          !m.isTemplate && !(d.isInterface && m.visibility == some .hidden))
        (plan.decl.members.filter fun m => m.origin == .explicit))
      u.types (expand settings u).plans := by
  have hwritten : ∀ d ∈ u.types, ∀ m ∈ d.members, m.isWritten = true := fun d hd m hm => by
    rw [Member.isWritten, h.origin hd m hm]
    rfl
  refine forall₂_plans (R := fun d e => e.header = d.header ∧
    List.Forall₂ (Member.Survives d.isInterface) (d.members.filter d.keeps)
      (e.members.filter (·.isWritten))) (fun d hd => ⟨rfl, ?_⟩) fun c d hd => ⟨?_, ?_⟩
  · refine TypeDecl.survives_emit rfl ?_
    rw [List.filter_eq_self.mpr (hwritten d hd)]
    exact List.forall₂_same.mpr fun m _ => .refl m
  · exact Synthesis.header_ofDecl c d
  · exact TypeDecl.survives_emit (TypeDecl.kind_eq_of_header (Synthesis.header_ofDecl c d))
      (Synthesis.carries_ofDecl (hwritten d hd))

/-- A property, a template and a method beside what a donor gives: the property and the method stay,
and accessors, a copied field and a constructor come in between and behind. -/
theorem expand_keepsWritten_woven :
    let settings : Settings := { requireOptIn := false }
    ∃ u, SourceUnit.ofSource ("(interface: D (field: stamp 0)) (class: C :implements [D] " ++
        "(field: x :property true 1) (method: t [] :template true 2) (method: read [] x))") =
          .ok u ∧
      (expand settings u).plans.map (·.decl.memberNames) =
        [["stamp"], ["x", "get_x", "set_x", "read", "stamp", "new"]] ∧
      List.Forall₂ (fun d plan =>
        plan.decl.header = d.header ∧
        List.Forall₂ (Member.Survives d.isInterface)
          (d.members.filter fun m =>
            !m.isTemplate && !(d.isInterface && m.visibility == some .hidden))
          (plan.decl.members.filter fun m => m.origin == .explicit))
        u.types (expand settings u).plans := by
  intro settings
  have hexpansion : (SourceUnit.ofSource
      ("(interface: D (field: stamp 0)) (class: C :implements [D] " ++
        "(field: x :property true 1) (method: t [] :template true 2) (method: read [] x))") >>=
      fun u => .ok ((expand settings u).plans.map (·.decl.memberNames))) =
        .ok [["stamp"], ["x", "get_x", "set_x", "read", "stamp", "new"]] := by cbv
  obtain ⟨u, hu, hresult⟩ := Outcome.bind_eq_ok.mp hexpansion
  exact ⟨u, hu, Except.ok.inj hresult,
    expand_keepsWritten (SourceUnit.isRead_of_ofSource hu) settings⟩

end Expansion

end DeclWeave
