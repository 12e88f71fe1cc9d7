import DeclWeave.Proofs.AttributedFindings
import DeclWeave.Proofs.HandWrittenMembers
import DeclWeave.Proofs.ScannedMembers

/-!
# What a Constructor Is Made From

Three things meet in the constructor of a class: the constructor that was declared, the fields that
are bound from parameters, and the initializers that donors give along with their fields. Each is
followed here from the declaration to the point where the constructor is finished. Nothing else that
synthesis makes constructs: accessors have names of their own, a constructor is not forwarded to,
and triggers are fields.

## Main results

* `Synthesis.filter_isConstructor_planned`: the constructors that are planned are those declared.
* `Synthesis.map_field_planned`: the fields that are bound, in the order declared.
* `Synthesis.exists_gifts_contributed`: what donors give, copies and initializers in one order.
-/

namespace DeclWeave

open Outcome (bind_eq_ok)

/-! ### Constructors among the members of a plan -/

theorem getterName_ne_constructorName (field : String) : getterName field ≠ constructorName := by
  intro h
  have hhead := congrArg (fun name : String => name.toList.head?) h
  simp [getterName, constructorName] at hhead

theorem setterName_ne_constructorName (field : String) : setterName field ≠ constructorName := by
  intro h
  have hhead := congrArg (fun name : String => name.toList.head?) h
  simp [setterName, constructorName] at hhead

theorem Member.isConstructor_of_name_ne {m : Member} (h : m.name ≠ constructorName) :
    m.isConstructor = false := by
  rw [isConstructor, beq_eq_false_iff_ne.mpr h, Bool.and_false]

theorem Member.isConstructor_of_isField {m : Member} (h : m.isField = true) :
    m.isConstructor = false := by
  have hkind : m.kind = .field := by simpa [isField] using h
  rw [isConstructor, isMethod, hkind]
  rfl

/-- An accessor does not construct. -/
theorem PropertySpec.isConstructor_of_mem_added {p : PropertySpec} {field m : Member}
    {registry : NameRegistry} (h : m ∈ (p.apply field registry).added) :
    m.isConstructor = false := by
  refine Member.isConstructor_of_name_ne ?_
  obtain rfl | ⟨_, _, -, rfl⟩ := eq_of_mem_added_apply h
  · exact getterName_ne_constructorName _
  · exact setterName_ne_constructorName _

namespace Synthesis

variable {c : Context} {d : TypeDecl} {m : Member} {p : Progress} {found : Diagnostics}

theorem isConstructor_of_mem_added {onInterface : Bool} {m' : Member} {registry : NameRegistry}
    {s : Synthesized} (h : property onInterface m registry = .ok s) (hm' : m' ∈ s.added) :
    m'.isConstructor = false := by
  obtain rfl | ⟨-, ⟨request, spec, -, -, rfl⟩ | ⟨signal, -, rfl⟩⟩ := property_cases h
  · exact absurd hm' List.not_mem_nil
  · exact PropertySpec.isConstructor_of_mem_added hm'
  · obtain rfl | ⟨getter, registry', -, hm'⟩ := SignalRequest.mem_added_apply hm'
    · exact Member.isConstructor_of_isField rfl
    · exact PropertySpec.isConstructor_of_mem_added hm'

/-- **The constructor of a group** is the declared member, if that constructs. -/
theorem filter_isConstructor_member (d : TypeDecl) (m : Member) (p : Progress) :
    (member d m p).1.filter (·.isConstructor) =
      if m.isConstructor then [takenUp d m] else [] := by
  cases hmethod : m.isMethod with
  | true =>
    rw [member_eq_of_method hmethod, List.filter_singleton, Bool.cond_eq_ite]
    rfl
  | false =>
    have hnot : m.isConstructor = false := by rw [Member.isConstructor, hmethod, Bool.false_and]
    rw [if_neg (by simp [hnot])]
    refine List.filter_eq_nil_iff.mpr fun m' hm' => ?_
    obtain hgroup | ⟨-, kept, hkept, hgroup⟩ := member_cases d m p
    · rw [hgroup, List.mem_singleton] at hm'
      subst hm'
      exact Bool.eq_false_iff.mp hnot
    · rw [hgroup] at hm'
      rcases List.mem_cons.mp hm' with rfl | hm'
      · rw [Member.isConstructor_eq_of_label hkept.label_eq]
        exact Bool.eq_false_iff.mp hnot
      · obtain ⟨s, hs, hm'⟩ := exists_property_of_mem_propertyOf hm'
        simp [isConstructor_of_mem_added hs hm']

/-- Nothing that is forwarded constructs. -/
theorem isConstructor_of_mem_forwardOf {m' : Member} (h : m' ∈ (forwardOf c d m p).1) :
    m'.isConstructor = false := by
  obtain hnone | ⟨-, -, delegate, template, isPending, selected, -, -, -, -, hselected, hmade⟩ :=
    forwardOf_cases c d m p
  · rw [hnone] at h
    exact absurd h List.not_mem_nil
  · rw [hmade] at h
    obtain ⟨cand, hcand, ⟨rfl, hmethod⟩ | ⟨-, r, h, -⟩⟩ := exists_part_of_mem_counterparts h
    · have hforwardable := (List.mem_filter.mp (hselected hcand)).2
      refine Member.isConstructor_of_name_ne fun hname => ?_
      have hkind : cand.member.isMethod = true := by
        cases hkind : cand.member.kind <;> simp_all [Member.isField, Member.isMethod]
      have hconstructor : cand.member.isConstructor = true :=
        Bool.and_eq_true_iff.mpr ⟨hkind, beq_iff_eq.mpr hname⟩
      simp [Delegate.isForwardable, hconstructor] at hforwardable
    · obtain ⟨spec, plain, hlabel, -, -, hfield⟩ := exists_field_eq m cand r
      rw [hfield] at h
      rcases List.mem_cons.mp h with rfl | h
      · refine Member.isConstructor_of_isField ?_
        have hkind : (spec.apply plain r).field.kind = .field :=
          congrArg (·.2.1) ((spec.reshapes_apply plain r).label_eq.trans hlabel)
        exact beq_iff_eq.mpr hkind
      · exact PropertySpec.isConstructor_of_mem_added h

/-- Members in turn, by induction: the constructors of the groups are those declared. -/
theorem filter_isConstructor_members (ms : List Member) (p : Progress) :
    List.Forall₂ (fun m group => group.filter (·.isConstructor) =
      if m.isConstructor then [takenUp d m] else []) ms (members d p ms).1 := by
  induction ms generalizing p with
  | nil => exact .nil
  | cons m ms ih => exact .cons (filter_isConstructor_member d m p) (ih _)

/-- Forwarding members in turn, by induction: none of them adds a constructor. -/
theorem filter_isConstructor_forwards {pairs : List (Member × List Member)}
    (hpairs : ∀ pair ∈ pairs, pair.2.filter (·.isConstructor) =
      if pair.1.isConstructor then [takenUp d pair.1] else []) (p : Progress) :
    (forwards c d p pairs).1.filter (·.isConstructor) =
      ((pairs.map Prod.fst).filter (·.isConstructor)).map (takenUp d) := by
  induction pairs generalizing p with
  | nil => rfl
  | cons pair pairs ih =>
    obtain ⟨hpair, hpairs⟩ := List.forall_mem_cons.mp hpairs
    have hmade : (forwardOf c d pair.1 p).1.filter (·.isConstructor) = [] :=
      List.filter_eq_nil_iff.mpr fun m hm => by simp [isConstructor_of_mem_forwardOf hm]
    change (pair.2 ++ (forwardOf c d pair.1 p).1 ++ (forwards c d (forwardOf c d pair.1 p).2
      pairs).1).filter _ = _
    rw [List.filter_append, List.filter_append, hmade, List.append_nil, hpair, ih hpairs,
      List.map_cons]
    cases hconstructor : pair.1.isConstructor with
    | true => rw [List.filter_cons_of_pos hconstructor]; rfl
    | false => rw [List.filter_cons_of_neg (by simp [hconstructor])]; rfl

/-- **The constructors that are planned** are those of the declaration. -/
theorem filter_isConstructor_planned (c : Context) (d : TypeDecl) (found : Diagnostics) :
    (planned c d found).1.filter (·.isConstructor) =
      (d.members.filter (·.isConstructor)).map (takenUp d) := by
  let start : Progress := { registry := .ofDecl d (Ancestry.of c.scope d).names, found }
  have hmembers := filter_isConstructor_members (d := d) d.members start
  have hforwards := filter_isConstructor_forwards (c := c) (d := d)
    (fun pair hpair => (List.forall₂_iff_zip.mp hmembers).2 hpair) (members d start d.members).2
  rwa [List.map_fst_zip (length_members d d.members start).ge] at hforwards

end Synthesis

/-! ### Bound fields -/

/-- Whether a member of a class is a field that is bound from a constructor parameter. -/
def Member.isBound (m : Member) : Bool :=
  m.isField && m.isDirectInit && !m.sugar.optOut && !m.isTemplate

/-- The names of the fields of a class that are bound from constructor parameters. -/
def TypeDecl.boundNames (d : TypeDecl) : List String :=
  (d.members.filter (·.isBound)).map (·.name)

namespace Synthesis

variable {c : Context} {d : TypeDecl} {found : Diagnostics}

/-- A field of a class that asks for it is bound. -/
theorem map_field_directInit (hclass : d.isInterface = false) (m : Member) (p : Progress) :
    (directInit d m p).2.direct.map (·.field) = p.direct.map (·.field) ++
      if m.isField && m.isDirectInit then [m.name] else [] := by
  rw [directInit, hclass]
  cases hdirect : m.isDirectInit with
  | false => simp
  | true =>
    cases hfield : m.isField with
    | false => simp
    | true => simp [DirectInit.ofField]

theorem map_field_member (hclass : d.isInterface = false) (hsugar : d.sugar.optOut = false)
    (m : Member) (p : Progress) :
    (member d m p).2.direct.map (·.field) =
      p.direct.map (·.field) ++ if m.isBound then [m.name] else [] := by
  have hout := optOut_takenUp (m := m) hsugar
  by_cases hleft : m.isTemplate = true ∨ m.sugar.optOut = true
  · obtain ⟨found, hmember⟩ := exists_member_eq_takenUp (hleft.imp_right hout.trans) p
    have hbound : m.isBound = false := by
      obtain htemplate | hopt := hleft <;> simp [Member.isBound, *]
    simp [hmember, hbound]
  · obtain ⟨htemplate, hopt⟩ := not_or.mp hleft
    rw [Bool.not_eq_true] at htemplate hopt
    have hreshapes := reshapes_propertyOf d (takenUp d m) p
    have hasks : (propertyOf d (takenUp d m) p).1.isDirectInit = m.isDirectInit := by
      rw [Member.isDirectInit, hreshapes.directives_eq]
      rfl
    have hdirect := map_field_directInit hclass (propertyOf d (takenUp d m) p).1
      (propertyOf d (takenUp d m) p).2.2
    rw [direct_propertyOf, Member.isField_eq_of_label hreshapes.label_eq,
      Member.name_eq_of_label hreshapes.label_eq, hasks] at hdirect
    rw [member_eq_directInit htemplate (hout.trans hopt), Member.isBound, htemplate, hopt,
      Bool.not_false, Bool.and_true, Bool.and_true]
    exact hdirect

/-- Members in turn, by induction: the fields that are bound come in the order declared. -/
theorem map_field_members (hclass : d.isInterface = false) (hsugar : d.sugar.optOut = false)
    (ms : List Member) (p : Progress) :
    (members d p ms).2.direct.map (·.field) =
      p.direct.map (·.field) ++ (ms.filter (·.isBound)).map (·.name) := by
  induction ms generalizing p with
  | nil => simp [members]
  | cons m ms ih =>
    change (members d (member d m p).2 ms).2.direct.map _ = _
    rw [ih, map_field_member hclass hsugar, List.append_assoc]
    cases hbound : m.isBound <;> simp [hbound]

theorem direct_forwards (pairs : List (Member × List Member)) (p : Progress) :
    (forwards c d p pairs).2.direct = p.direct := by
  induction pairs generalizing p with
  | nil => rfl
  | cons pair pairs ih => exact (ih _).trans (direct_forwardOf c d pair.1 p)

/-- **The fields that are bound** for a class are those that ask for it, as declared. -/
theorem map_field_planned (hclass : d.isInterface = false) (hsugar : d.sugar.optOut = false) :
    (planned c d found).2.direct.map (·.field) = d.boundNames := by
  let start : Progress := { registry := .ofDecl d (Ancestry.of c.scope d).names, found }
  have hmembers := map_field_members hclass hsugar d.members start
  have hforwards := direct_forwards (c := c) (d := d) (d.members.zip (members d start d.members).1)
    (members d start d.members).2
  rwa [← hforwards] at hmembers

end Synthesis

/-! ### What donors give -/

/-- **What donors give**, one after the other: copies of members of theirs, and for the fields among
these the initializers that they had. -/
theorem Weave.exists_gifts {target : TypeDecl} {registry : NameRegistry} {chain : List Donor}
    {s : Spliced} (h : spliceAll target registry chain = .ok s) :
    ∃ gifts : List (Donor × Member), (∀ g ∈ gifts, g.1 ∈ chain ∧ g.2 ∈ g.1.bank.members) ∧
      s.members.map (·.member) = gifts.map (fun g => g.1.copy target g.2) ∧
      s.inits = gifts.filterMap (fun g => g.1.initOf target g.2) := by
  induction chain generalizing registry s with
  | nil =>
    obtain rfl := Except.ok.inj h
    exact ⟨[], by simp, rfl, rfl⟩
  | cons d chain ih =>
    obtain ⟨first, hfirst, h⟩ := bind_eq_ok.mp h
    obtain ⟨others, hothers, h⟩ := bind_eq_ok.mp h
    obtain rfl := Except.ok.inj h
    rw [ofDonor_eq] at hfirst
    obtain ⟨given, hgiven, hmembers, hinits⟩ := Donor.exists_given_splice hfirst
    obtain ⟨gifts, hgifts, hmembers', hinits'⟩ := ih hothers
    refine ⟨given.map (d, ·) ++ gifts, List.forall_mem_append.mpr ⟨?_, fun g hg =>
      ⟨List.mem_cons_of_mem _ (hgifts g hg).1, (hgifts g hg).2⟩⟩, ?_, ?_⟩
    · rintro _ hg
      obtain ⟨m, hm, rfl⟩ := List.mem_map.mp hg
      exact ⟨List.mem_cons_self, d.given_subset _ (hgiven.subset hm)⟩
    · rw [List.map_append, List.map_append, hmembers, hmembers', List.map_map]
      rfl
    · rw [List.filterMap_append, hinits, hinits', List.filterMap_map]
      rfl

namespace Synthesis

variable {d : TypeDecl}

/-- **What the donors of a class contribute.** -/
theorem exists_gifts_contributed (c : Context) (found : Diagnostics)
    (hclass : d.isInterface = false) :
    ∃ gifts : List (Donor × Member),
      (∀ g ∈ gifts, g.1 ∈ c.donors.chain d.interfaces ∧ g.2 ∈ g.1.bank.members) ∧
      (contributed c d found).members = gifts.map (fun g => g.1.copy d g.2) ∧
      (contributed c d found).defaultInits = gifts.filterMap (fun g => g.1.initOf d g.2) := by
  let plan : TypeDecl := { d with members := (planned c d found).1 }
  obtain ⟨s, hs⟩ := Weave.exists_spliceAll_eq_ok plan (planned c d found).2.registry
    (c.donors.chain plan.interfaces)
  obtain ⟨gifts, hgifts, hmembers, hinits⟩ := Weave.exists_gifts hs
  have hinterface : ¬plan.isInterface = true := by
    have hplan : plan.isInterface = d.isInterface := rfl
    simp [hplan, hclass]
  refine ⟨gifts, hgifts, ?_, ?_⟩
  · rw [contributed, woven, if_neg hinterface]
    dsimp only
    rw [Weave.ofTarget, Weave.perform, hs]
    exact hmembers
  · rw [contributed, woven, if_neg hinterface]
    dsimp only
    rw [Weave.ofTarget, Weave.perform, hs]
    exact hinits

end Synthesis

end DeclWeave
