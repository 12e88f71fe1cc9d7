import DeclWeave.Proofs.Marks
import DeclWeave.Proofs.WeaveContents

/-!
# Finished Declarations

What expansion makes can be expanded again. Its directives are consumed and its templates are gone,
so that no accessors, signals or counterparts are made the second time. Three things can still
change: a shield that was inside another one is taken off, a field gets the type of a literal that
had been shielded, and a class receives what its donors had kept back. For a tag that keeps a
member back is consumed with the other directives, and a template holds its name only while it is
there.

A class is settled (`TypeDecl.IsSettled`) if nothing of this kind is left over.

## Main results

* `TypeDecl.isFinished_emit`: what expansion makes is finished.
* `Weave.flatMap_given_eq_nil_iff`: when donors without tags give nothing.
* `Synthesis.expanded_of_finished`: what is made of a finished declaration.
* `Synthesis.unmarked_ofDecl_of_interface`: an interface stays the same up to marks.
* `Synthesis.unmarked_emit_ofDecl_iff`: a class does just if it is settled.
-/

namespace DeclWeave

/-! ### What an expansion makes -/

/-- Whether the directives of a declaration are carried out. -/
def Settings.carriesOut (settings : Settings) (d : TypeDecl) : Bool :=
  (!settings.requireOptIn || d.sugar.optIn) && !d.sugar.optOut

namespace TypeDecl

/-- A declaration as expansion makes it: nothing is asked for, every visibility is settled, and an
interface has signatures only. -/
structure IsFinished (d : TypeDecl) : Prop where
  directives_eq : ∀ m ∈ d.members, m.directives = []
  isSome_visibility : ∀ m ∈ d.members, m.visibility.isSome
  not_hidden : d.isInterface → ∀ m ∈ d.members, m.visibility ≠ some .hidden
  body_eq : d.isInterface → ∀ m ∈ d.members, m.body = none

theorem isFinished_emit (d : TypeDecl) : d.emit.IsFinished where
  directives_eq m hm := by
    obtain ⟨m', -, rfl⟩ := List.mem_map.mp hm
    rfl
  isSome_visibility m hm := by
    obtain ⟨m', -, rfl⟩ := List.mem_map.mp hm
    rfl
  not_hidden hinterface m hm := by
    have hinterface' : d.isInterface = true := hinterface
    obtain ⟨m', hm', rfl⟩ := List.mem_map.mp hm
    have hkept := (List.mem_filter.mp hm').2
    simp only [keeps, hinterface', Bool.true_and, Bool.and_eq_true, Bool.not_eq_true',
      beq_eq_false_iff_ne, ne_eq] at hkept
    cases hvisibility : m'.visibility with
    | none => simp [Member.emit, hvisibility]
    | some visibility =>
      rw [hvisibility] at hkept
      simpa [Member.emit, hvisibility] using hkept.2
  body_eq hinterface m hm := by
    have hinterface' : d.isInterface = true := hinterface
    obtain ⟨m', -, rfl⟩ := List.mem_map.mp hm
    simp [Member.emit, hinterface']

/-- Emission is no matter of marks. -/
theorem emit_unmarked (d : TypeDecl) : d.unmarked.emit = d.emit.unmarked := by
  rw [emit, emit, unmarked, unmarked]
  dsimp only
  rw [List.filter_map, List.map_map, List.map_map]
  rfl

/-- A finished interface is emitted as it is. -/
theorem emit_of_interface {d : TypeDecl} (h : d.IsFinished) (hinterface : d.isInterface = true) :
    d.emit = d := by
  have hmember : ∀ m ∈ d.members, m.emit d.isInterface = m := by
    intro m hm
    obtain ⟨visibility, hv⟩ := Option.isSome_iff_exists.mp (h.isSome_visibility m hm)
    have hdirectives := h.directives_eq m hm
    have hbody := h.body_eq hinterface m hm
    cases m
    simp_all [Member.emit]
  have hkeeps : d.members.filter d.keeps = d.members := by
    refine List.filter_eq_self.mpr fun m hm => ?_
    have hvisible := h.not_hidden hinterface m hm
    rw [keeps, Member.isTemplate, h.directives_eq m hm]
    simpa using Or.inr hvisible
  rw [emit, hkeeps, List.map_congr_left hmember, List.map_id']

/-- What becomes of a member of a finished declaration that is expanded again: it inherits the marks
of the declaration, and a field gets the type of a literal. -/
def again (d : TypeDecl) (m : Member) : Member :=
  let marks := d.sugar.nested m.sugar
  { m with
    sugar := marks
    signature :=
      { m.signature with
        type := if m.isField && !marks.optOut then m.inferredType else m.type } }

theorem type_again_eq_iff {d : TypeDecl} {m : Member} : (d.again m).type = m.type ↔
    (m.isField → (d.sugar.nested m.sugar).optOut = false → m.inferredType = m.type) := by
  have htype : (d.again m).type =
      if m.isField && !(d.sugar.nested m.sugar).optOut then m.inferredType else m.type := rfl
  rw [htype]
  cases m.isField <;> cases (d.sugar.nested m.sugar).optOut <;> simp

/-- With its type, a member keeps all but its marks. -/
theorem unmarked_again_of_type_eq {d : TypeDecl} {m : Member} (h : (d.again m).type = m.type) :
    (d.again m).unmarked = m.unmarked := by
  have hagain : (d.again m).unmarked =
      { m.unmarked with signature := { m.signature with type := (d.again m).type } } := rfl
  rw [hagain, h]
  rfl

/-- What is left for a class to receive, or to be changed in it, is nothing: no body has a shield
left; and if its directives are carried out, no field lacks a type that a literal gives it, and all
that its donors have is there or inherited. -/
structure IsSettled (d : TypeDecl) (settings : Settings) (donors : DonorRegistry)
    (inherited : List String) : Prop where
  unshielded : ∀ m ∈ d.members, ∀ body, m.body = some body → body.stripShields = body
  typed : settings.carriesOut d → ∀ m ∈ d.members, m.isField →
    (d.sugar.nested m.sugar).optOut = false → m.inferredType = m.type
  complete : settings.carriesOut d → ∀ donor ∈ donors.chain d.interfaces,
    ∀ m ∈ donor.bank.members, m.name ∈ d.memberNames ∨ m.name ∈ inherited

/-- Whether a class is settled is no matter of the marks of what its donors have. -/
theorem IsSettled.congr {d : TypeDecl} {settings : Settings} {donors donors' : DonorRegistry}
    {inherited : List String} (hsettled : d.IsSettled settings donors inherited)
    (h : (donors.chain d.interfaces).map Donor.unmarked =
      (donors'.chain d.interfaces).map Donor.unmarked) :
    d.IsSettled settings donors' inherited where
  unshielded := hsettled.unshielded
  typed := hsettled.typed
  complete hout donor hdonor m hm := by
    obtain ⟨donor₀, hdonor₀, hsame⟩ := List.mem_map.mp (h ▸ List.mem_map_of_mem hdonor)
    have hmembers : donor₀.bank.members.map Member.unmarked =
        donor.bank.members.map Member.unmarked := congrArg (·.bank.members) hsame
    obtain ⟨m₀, hm₀, hmember⟩ := List.mem_map.mp (hmembers ▸ List.mem_map_of_mem hm)
    have hname : m₀.name = m.name := congrArg (·.name) hmember
    exact hname ▸ hsettled.complete hout donor₀ hdonor₀ m₀ hm₀

end TypeDecl

/-! ### What donors give that have no tags -/

namespace Weave

variable {d : Donor} {taken : Set String} {inside : List ℕ} {gifts : List (Donor × List ℕ)}

/-- A donor without tags gives nothing just where all that it has exists. -/
theorem given_eq_nil_iff (h : d.bank.Gives taken inside)
    (huntagged : ∀ m ∈ d.bank.members, m.directives = []) :
    d.given inside = [] ↔ ∀ m ∈ d.bank.members, m.name ∈ taken := by
  constructor
  · intro hnil m hm
    by_contra hfree
    obtain ⟨i, hi⟩ := List.getElem?_of_mem hm
    have huse : m.usedOnlyBy? = none := by rw [Member.usedOnlyBy?, huntagged m hm]; rfl
    have hinside : i ∈ inside := (h.mem_iff i).mpr ⟨m, hi, hfree, .inl huse⟩
    have hgiven : m ∈ d.given inside :=
      List.mem_map_of_mem (DonorBank.mem_entries.mpr ⟨hinside, hi⟩)
    rw [hnil] at hgiven
    exact List.not_mem_nil hgiven
  · intro hall
    refine List.eq_nil_iff_forall_not_mem.mpr fun m hm => ?_
    obtain ⟨⟨i, m'⟩, he, rfl⟩ := List.mem_map.mp hm
    obtain ⟨hi, hm'⟩ := DonorBank.mem_entries.mp he
    obtain ⟨m'', hm'', hfree, -⟩ := (h.mem_iff i).mp hi
    obtain rfl : m' = m'' := Option.some.inj (hm'.symm.trans hm'')
    exact hfree (hall m' (List.mem_of_getElem? hm'))

/-- **Donors without tags** give nothing just where all that they have exists. -/
theorem flatMap_given_eq_nil_iff (h : Gifts taken gifts)
    (huntagged : ∀ g ∈ gifts, ∀ m ∈ g.1.bank.members, m.directives = []) :
    (gifts.flatMap fun g => g.1.given g.2) = [] ↔
      ∀ g ∈ gifts, ∀ m ∈ g.1.bank.members, m.name ∈ taken := by
  induction gifts generalizing taken with
  | nil => simp
  | cons g gifts ih =>
    obtain ⟨hg, hgifts⟩ := List.forall_mem_cons.mp huntagged
    obtain ⟨hgives, hrest⟩ := h
    rw [List.flatMap_cons, List.append_eq_nil_iff, List.forall_mem_cons,
      given_eq_nil_iff hgives hg]
    refine and_congr_right fun hall => ?_
    -- The first donor gives nothing, so the names that the others find are the same.
    have hnil := (given_eq_nil_iff hgives hg).mpr hall
    rw [hnil, List.map_nil] at hrest
    rw [ih hrest hgifts]
    simp

end Weave

/-! ### Synthesis of finished declarations -/

namespace Synthesis

variable {c : Context} {d : TypeDecl} {m : Member}

/-- A member without directives asks for no accessor. -/
theorem propertyOf_of_finished (hdirectives : m.directives = []) (p : Progress) :
    propertyOf d m p = (if m.isField then m.withType m.inferredType else m, [], p) := by
  have hproperty : ∀ m' : Member, m'.directives = [] → ∀ registry,
      property d.isInterface m' registry = .ok ⟨m', [], registry⟩ := by
    intro m' hm' registry
    rw [property, Member.accessorRequest?, Member.signalRequests, hm']
    rfl
  rw [propertyOf]
  dsimp only
  rw [hproperty]
  split
  · exact hdirectives
  · exact hdirectives

/-- Nor does it ask to be bound from a constructor parameter. -/
theorem directInit_of_finished (hdirectives : m.directives = []) (p : Progress) :
    directInit d m p = (m, p) := by
  rw [directInit, Member.isDirectInit, hdirectives]
  rfl

/-- So a finished member is all that is made of it. -/
theorem member_of_finished (hdirectives : m.directives = []) (hvisibility : m.visibility.isSome)
    (p : Progress) : member d m p = ([d.again m], p) := by
  obtain ⟨visibility, hv⟩ := Option.isSome_iff_exists.mp hvisibility
  have hpublish : m.publish = m := by
    rw [Member.publish, hv, Option.getD_some, ← hv]
  have htemplate : ({ m with sugar := d.sugar.nested m.sugar } : Member).isTemplate = false := by
    rw [Member.isTemplate, hdirectives]
    rfl
  rw [member, hpublish, TypeDecl.again]
  dsimp only
  rw [htemplate]
  cases hout : (d.sugar.nested m.sugar).optOut with
  | true =>
    simp only [hdirectives, Bool.not_true, Bool.and_false]
    rfl
  | false =>
    rw [propertyOf_of_finished (m := { m with sugar := d.sugar.nested m.sugar }) hdirectives]
    dsimp only
    rw [directInit_of_finished]
    · cases hkind : m.kind <;> simp [Member.isField, hkind] <;> rfl
    · split <;> exact hdirectives

theorem members_of_finished {ms : List Member} (hdirectives : ∀ m ∈ ms, m.directives = [])
    (hvisibility : ∀ m ∈ ms, m.visibility.isSome) (p : Progress) :
    members d p ms = (ms.map fun m => [d.again m], p) := by
  induction ms with
  | nil => rfl
  | cons m ms ih =>
    obtain ⟨hm, hms⟩ := List.forall_mem_cons.mp hdirectives
    obtain ⟨hv, hvs⟩ := List.forall_mem_cons.mp hvisibility
    rw [members, member_of_finished hm hv]
    dsimp only
    rw [ih hms hvs]
    rfl

theorem forwards_of_finished {pairs : List (Member × List Member)}
    (hdirectives : ∀ pair ∈ pairs, pair.1.directives = []) (p : Progress) :
    forwards c d p pairs = (pairs.flatMap (·.2), p) := by
  induction pairs with
  | nil => rfl
  | cons pair pairs ih =>
    obtain ⟨hpair, hpairs⟩ := List.forall_mem_cons.mp hdirectives
    have hforward : pair.1.forwardRequest? = none := by rw [Member.forwardRequest?, hpair]; rfl
    rw [forwards, forwardOf, hforward]
    dsimp only
    rw [ih hpairs]
    simp

/-- What a finished class receives from its donors when it is expanded again. -/
def received (c : Context) (d : TypeDecl) : Weave :=
  let ancestry := Ancestry.of c.scope d
  woven c { d with members := d.members.map d.again } ancestry
    { registry := .ofDecl d ancestry.names }

theorem flatMap_zip_again (d : TypeDecl) (ms : List Member) :
    (ms.zip (ms.map fun m => [d.again m])).flatMap (·.2) = ms.map d.again := by
  induction ms with
  | nil => rfl
  | cons m ms ih =>
    rw [List.map_cons, List.zip_cons_cons, List.flatMap_cons, ih]
    rfl

/-- **Expanding a finished declaration** adds what its donors give. -/
theorem expanded_of_finished (h : d.IsFinished) (found : Diagnostics) :
    (expanded c d found).1 =
      if d.isInterface then { d with members := d.members.map d.again }
      else (TypeDecl.finishConstructor
        { d with members := d.members.map d.again ++ (received c d).members } []
        (received c d).defaultInits (Ancestry.of c.scope d).constructor?).1 := by
  have hzip : ∀ pair ∈ d.members.zip (d.members.map fun m => [d.again m]),
      pair.1.directives = [] := fun pair hpair => h.directives_eq pair.1 (List.of_mem_zip hpair).1
  rw [expanded]
  dsimp only
  rw [members_of_finished h.directives_eq h.isSome_visibility]
  dsimp only
  rw [forwards_of_finished hzip, flatMap_zip_again]
  dsimp only
  split
  · rename_i hinterface
    have hwoven : woven c { d with members := d.members.map d.again } (Ancestry.of c.scope d)
        { registry := .ofDecl d (Ancestry.of c.scope d).names, found } = {} := if_pos hinterface
    rw [hwoven, List.append_nil]
  · rfl

/-- **A finished interface** that is expanded again is the same up to marks. -/
theorem unmarked_ofDecl_of_interface (h : d.IsFinished) (hinterface : d.isInterface = true) :
    (ofDecl c d).1.unmarked = d.unmarked := by
  rw [ofDecl]
  split
  · rw [expanded_of_finished h, if_pos hinterface, TypeDecl.unmarked, TypeDecl.unmarked,
      List.map_map]
    congr 1
    refine List.map_congr_left fun m hm => ?_
    have htype : (d.again m).type = m.type := by
      refine TypeDecl.type_again_eq_iff.mpr fun _ _ => ?_
      rw [Member.inferredType, h.body_eq hinterface m hm]
      simp
    exact TypeDecl.unmarked_again_of_type_eq htype
  · rfl

/-- **What a finished class receives** from donors without tags and bodies: no initializers, and
no members just where all that the donors have is there or inherited. -/
theorem received_eq_nil_iff (hclass : d.isInterface = false)
    (hdonors : ∀ donor ∈ c.donors.chain d.interfaces, donor.bank.IsOfDecl ∧
      ∀ m ∈ donor.bank.members, m.directives = [] ∧ m.body = none) :
    (received c d).defaultInits = [] ∧ (∀ m ∈ (received c d).members, m.directives = []) ∧
      ((received c d).members = [] ↔ ∀ donor ∈ c.donors.chain d.interfaces,
        ∀ m ∈ donor.bank.members,
          m.name ∈ d.memberNames ∨ m.name ∈ (Ancestry.of c.scope d).names) := by
  let ancestry := Ancestry.of c.scope d
  let registry := NameRegistry.ofDecl d ancestry.names
  let target : TypeDecl := { d with members := d.members.map d.again }
  let capabilities := ancestry.capabilities.union (.declared target.capabilities)
  have hchainOf : ∀ donor ∈ c.donors.chain target.interfaces, donor.bank.IsOfDecl :=
    fun donor hdonor => (hdonors donor hdonor).1
  obtain ⟨gifts, spliced, hspliced, hfst, hgifts, hmembers, hinits, -⟩ :=
    Weave.exists_spliceAll target registry hchainOf
  have hchain : ∀ g ∈ gifts, g.1 ∈ c.donors.chain d.interfaces := fun g hg =>
    hfst ▸ List.mem_map_of_mem hg
  have hclass' : ¬target.isInterface = true := by
    rw [show target.isInterface = false from hclass]
    decide
  obtain ⟨faults, hperform⟩ : ∃ faults,
      Weave.perform c.settings c.donors c.declared target capabilities registry =
        .ok (⟨spliced.members.map (·.member), spliced.inits, faults⟩, spliced.registry) :=
    ⟨_, by rw [Weave.perform, hspliced]; rfl⟩
  have hreceived : received c d = ⟨spliced.members.map (·.member), spliced.inits, faults⟩ := by
    refine (if_neg hclass').trans ?_
    show (Weave.ofTarget c.settings c.donors c.declared target capabilities registry).1 = _
    rw [Weave.ofTarget, hperform]
  rw [hreceived]
  refine ⟨?_, ?_, ?_⟩
  · rw [hinits]
    refine List.flatMap_eq_nil_iff.mpr fun g hg => List.filterMap_eq_nil_iff.mpr fun m hm => ?_
    have hbody := ((hdonors g.1 (hchain g hg)).2 m (g.1.given_subset g.2 hm)).2
    rw [Donor.initOf, hbody]
    split <;> rfl
  · intro m hm
    rw [hmembers] at hm
    obtain ⟨g, -, hm⟩ := List.mem_flatMap.mp hm
    obtain ⟨m', -, rfl⟩ := List.mem_map.mp hm
    rfl
  · have hgiven : spliced.members.map (·.member) = [] ↔
        (gifts.flatMap fun g => g.1.given g.2) = [] := by
      rw [hmembers]
      simp [List.flatMap_eq_nil_iff]
    rw [hgiven, Weave.flatMap_given_eq_nil_iff hgifts fun g hg m hm =>
      ((hdonors g.1 (hchain g hg)).2 m hm).1]
    have hnames : ∀ name, name ∈ {name | name ∈ registry.names} ↔
        name ∈ d.memberNames ∨ name ∈ (Ancestry.of c.scope d).names := fun name =>
      NameRegistry.mem_names_ofDecl.trans or_comm
    constructor
    · intro hall donor hdonor m hm
      rw [← hfst] at hdonor
      obtain ⟨g, hg, rfl⟩ := List.mem_map.mp hdonor
      exact (hnames m.name).mp (hall g hg m hm)
    · intro hall g hg m hm
      exact (hnames m.name).mpr (hall g.1 (hchain g hg) m hm)

/-- Emission takes the shields off the body of a finished member. -/
theorem unmarked_emit (hdirectives : m.directives = []) (hvisibility : m.visibility.isSome) :
    (m.emit false).unmarked = { m.unmarked with body := m.body.map (·.stripShields) } := by
  obtain ⟨visibility, hv⟩ := Option.isSome_iff_exists.mp hvisibility
  simp [Member.emit, Member.unmarked, hdirectives, hv]

theorem map_stripShields_eq_iff : m.body.map (·.stripShields) = m.body ↔
    ∀ body, m.body = some body → body.stripShields = body := by
  cases m.body <;> simp

/-- A member of a finished class that is expanded again and emitted. -/
theorem unmarked_emit_again_iff (hdirectives : m.directives = [])
    (hvisibility : m.visibility.isSome) : ((d.again m).emit false).unmarked = m.unmarked ↔
      (d.again m).type = m.type ∧ ∀ body, m.body = some body → body.stripShields = body := by
  rw [← map_stripShields_eq_iff, unmarked_emit (m := d.again m) hdirectives hvisibility]
  constructor
  · intro heq
    have htype := congrArg Member.type heq
    have hbody := congrArg Member.body heq
    exact ⟨htype, hbody⟩
  · rintro ⟨htype, hbody⟩
    have hbody' : (d.again m).body.map (·.stripShields) = m.body := hbody
    rw [TypeDecl.unmarked_again_of_type_eq htype, hbody']
    rfl

/-- A class without directives emits all its members. -/
theorem members_unmarked_emit (plan : TypeDecl) (hclass : plan.isInterface = false)
    (hdirectives : ∀ m ∈ plan.members, m.directives = []) :
    plan.emit.unmarked =
      { plan with members := plan.members.map fun m => (m.emit false).unmarked } := by
  have hkeeps : plan.members.filter plan.keeps = plan.members := by
    refine List.filter_eq_self.mpr fun m hm => ?_
    rw [TypeDecl.keeps, hclass, Member.isTemplate, hdirectives m hm]
    rfl
  rw [TypeDecl.unmarked, TypeDecl.emit, hkeeps, hclass, List.map_map]
  rfl

/-- Members followed by others are the same up to a change, only if there are no others. -/
theorem map_append_eq_map_iff {α β : Type} {f g : α → β} {h : α → α} {as bs : List α} :
    (as.map h ++ bs).map f = as.map g ↔ bs = [] ∧ ∀ a ∈ as, f (h a) = g a := by
  constructor
  · intro heq
    have hlength := congrArg List.length heq
    simp only [List.length_map, List.length_append] at hlength
    obtain rfl : bs = [] := List.eq_nil_of_length_eq_zero (by omega)
    rw [List.append_nil, List.map_map] at heq
    exact ⟨rfl, fun a ha => List.map_inj_left.mp heq a ha⟩
  · rintro ⟨rfl, hsame⟩
    rw [List.append_nil, List.map_map]
    exact List.map_congr_left hsame

/-- **A finished class** that is expanded again is the same up to marks just if it is settled. -/
theorem unmarked_emit_ofDecl_iff (h : d.IsFinished) (hclass : d.isInterface = false)
    (hdonors : ∀ donor ∈ c.donors.chain d.interfaces, donor.bank.IsOfDecl ∧
      ∀ m ∈ donor.bank.members, m.directives = [] ∧ m.body = none) :
    (ofDecl c d).1.emit.unmarked = d.unmarked ↔
      d.IsSettled c.settings c.donors (Ancestry.of c.scope d).names := by
  have hmembers : ∀ ms : List Member, { d with members := ms } = d.unmarked ↔
      ms = d.members.map Member.unmarked := fun ms =>
    ⟨congrArg TypeDecl.members, fun heq => by rw [heq]; rfl⟩
  cases hout : c.settings.carriesOut d with
  | false =>
    have hplan : (ofDecl c d).1 = d := by
      have hout' : c.sugarEnabled d = false := hout
      rw [ofDecl, hout']
      rfl
    rw [hplan, members_unmarked_emit d hclass h.directives_eq, hmembers, List.map_inj_left]
    refine ⟨fun hsame => ⟨fun m hm => ?_, by simp [hout], by simp [hout]⟩, fun hsettled m hm => ?_⟩
    · have heq := hsame m hm
      rw [unmarked_emit (h.directives_eq m hm) (h.isSome_visibility m hm)] at heq
      exact map_stripShields_eq_iff.mp (congrArg Member.body heq)
    · rw [unmarked_emit (h.directives_eq m hm) (h.isSome_visibility m hm),
        map_stripShields_eq_iff.mpr (hsettled.unshielded m hm)]
      rfl
  | true =>
    obtain ⟨hinits, hdirectives, hnil⟩ := received_eq_nil_iff hclass hdonors
    have hplan : (ofDecl c d).1 =
        { d with members := d.members.map d.again ++ (received c d).members } := by
      have hout' : c.sugarEnabled d = true := hout
      rw [ofDecl, if_pos hout', expanded_of_finished h, hclass, hinits]
      rfl
    have hall : ∀ m ∈ d.members.map d.again ++ (received c d).members, m.directives = [] := by
      intro m hm
      rcases List.mem_append.mp hm with hm | hm
      · obtain ⟨m', hm', rfl⟩ := List.mem_map.mp hm
        exact h.directives_eq m' hm'
      · exact hdirectives m hm
    have hemit := members_unmarked_emit
      { d with members := d.members.map d.again ++ (received c d).members } hclass hall
    rw [hplan, hemit]
    dsimp only
    rw [hmembers, map_append_eq_map_iff, hnil]
    have hmember : ∀ m ∈ d.members, ((d.again m).emit false).unmarked = m.unmarked ↔
        (d.again m).type = m.type ∧ ∀ body, m.body = some body → body.stripShields = body :=
      fun m hm => unmarked_emit_again_iff (h.directives_eq m hm) (h.isSome_visibility m hm)
    constructor
    · rintro ⟨hcomplete, hsame⟩
      exact ⟨fun m hm => ((hmember m hm).mp (hsame m hm)).2,
        fun _ m hm => TypeDecl.type_again_eq_iff.mp ((hmember m hm).mp (hsame m hm)).1,
        fun _ => hcomplete⟩
    · intro hsettled
      refine ⟨hsettled.complete hout, fun m hm => (hmember m hm).mpr ⟨?_, ?_⟩⟩
      · exact TypeDecl.type_again_eq_iff.mpr (hsettled.typed hout m hm)
      · exact hsettled.unshielded m hm

end Synthesis

end DeclWeave
